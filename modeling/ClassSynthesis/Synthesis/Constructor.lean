import ClassSynthesis.Synthesis.AccessorPlan
import ClassSynthesis.Synthesis.Identifier
import ClassSynthesis.Synthesis.NameScope

/-!
# Constructor Plans

The primary constructor takes every required member as a parameter. When some required
members can start out with an empty instance, a reduced constructor fills those in and takes
the others, so that callers who do not care for them have less to write.
-/

namespace ClassSynthesis

/-- Where a constructor takes a member's value from. -/
inductive SlotSource
  /-- The parameter of this name. -/
  | parameter (name : String)
  /-- A new empty instance of the declared type. -/
  | emptyInstance
  deriving DecidableEq, Repr

/-- One member that a constructor initializes. -/
structure ConstructorSlot where
  /-- The position of the member in the member list. -/
  member : Nat
  /-- The value it is given. -/
  source : SlotSource
  deriving DecidableEq, Repr

/-- The members that a constructor initializes, in order. -/
structure ConstructorPlan where
  /-- One slot for each initialized member. -/
  slots : List ConstructorSlot
  deriving DecidableEq, Repr

namespace ConstructorSlot

/-- The member and the parameter it is initialized from. -/
def parameter? (slot : ConstructorSlot) : Option (Nat × String) :=
  match slot.source with
  | .parameter name => some (slot.member, name)
  | .emptyInstance => none

end ConstructorSlot

namespace ConstructorPlan

/-- The members taken as parameters with the parameter names, in order. -/
def parameters (plan : ConstructorPlan) : List (Nat × String) :=
  plan.slots.filterMap ConstructorSlot.parameter?

/-- The number of parameters. -/
def parameterCount (plan : ConstructorPlan) : Nat := plan.parameters.length

/-- The constructor takes no parameters. -/
def isParameterless (plan : ConstructorPlan) : Bool := plan.parameterCount == 0

/-- Whether the constructor takes the member at a position. -/
def accepts (plan : ConstructorPlan) (member : Nat) : Bool :=
  plan.parameters.any (·.1 == member)

end ConstructorPlan

/-- A member's name with its accessor plan. -/
structure PlannedMember where
  /-- The member's name. -/
  name : String
  /-- Its accessor plan. -/
  plan : AccessorPlan
  deriving DecidableEq, Repr

/-- A required member with its position and parameter name. -/
structure RequiredMember where
  /-- The position in the member list. -/
  position : Nat
  /-- The parameter that carries its value. -/
  parameter : String
  /-- Its accessor plan. -/
  plan : AccessorPlan
  deriving DecidableEq, Repr

/-- The required members among those from a position on. Parameter names are unique within
the signature; a reserved word is escaped after its name has been made unique. -/
def requiredFrom (position : Nat) (scope : NameScope) :
    List PlannedMember → List RequiredMember
  | [] => []
  | m :: rest =>
    if m.plan.required then
      let (name, scope) := scope.allocate (Identifier.lowerCamel m.name)
      ⟨position, Identifier.escape name, m.plan⟩ :: requiredFrom (position + 1) scope rest
    else
      requiredFrom (position + 1) scope rest

/-- The required members of a member list. -/
def requiredMembers (members : List PlannedMember) : List RequiredMember :=
  requiredFrom 0 .empty members

namespace RequiredMember

/-- The slot of the primary constructor. -/
def primarySlot (m : RequiredMember) : ConstructorSlot := ⟨m.position, .parameter m.parameter⟩

/-- The slot of the reduced constructor. -/
def reducedSlot (m : RequiredMember) : ConstructorSlot :=
  if m.plan.selfInitializable then ⟨m.position, .emptyInstance⟩ else m.primarySlot

end RequiredMember

/-- The constructors of a class. -/
structure ConstructorPlans where
  /-- The constructor that takes every required member. -/
  primary : ConstructorPlan
  /-- The constructor that fills in empty instances, where that makes a difference. -/
  reduced : Option ConstructorPlan
  deriving DecidableEq, Repr

namespace ConstructorPlans

/-- The constructors in the order in which they are declared. -/
def toList (plans : ConstructorPlans) : List ConstructorPlan :=
  plans.primary :: plans.reduced.toList

/-- The constructors for a member list. There is a reduced one exactly when some required
member can start out with an empty instance. -/
def ofMembers (members : List PlannedMember) : ConstructorPlans where
  primary := ⟨(requiredMembers members).map RequiredMember.primarySlot⟩
  reduced :=
    if members.any (·.plan.isDefaultable) then
      some ⟨(requiredMembers members).map RequiredMember.reducedSlot⟩
    else
      none

end ConstructorPlans

end ClassSynthesis
