import ClassSynthesis.Contract.Member

/-!
# Accessor Plans

How the generated class exposes and initializes a member. A member must be set by every
constructor when nothing else could ever give it a value, or when its type promises that it
is never observed without one. Value types have a zero state and are never required for
their type alone.
-/

namespace ClassSynthesis

/-- The way a property can be written. The two cannot implement one another. -/
inductive WriteAccess
  | set
  | init
  deriving DecidableEq, Repr

/-- How one member is exposed and initialized. -/
structure AccessorPlan where
  /-- The property can be set at any time. -/
  exposesSetter : Bool := false
  /-- The property can be set during initialization only; `set` wins over `init`. -/
  exposesInitOnly : Bool := false
  /-- Every constructor has to give the member a value. -/
  required : Bool := false
  /-- An empty instance can stand in for a value from the caller. -/
  selfInitializable : Bool := false
  deriving DecidableEq, Repr

namespace AccessorPlan

/-- The plan of a member under the nullable context of the contract that declares it. -/
def ofMember (member : Member) (context : NullableContext) : AccessorPlan where
  exposesSetter := member.accessors.set
  exposesInitOnly := member.accessors.init && !member.accessors.set
  required :=
    !member.accessors.set && !member.accessors.init
      || member.type.isNonNullableReference context
  selfInitializable := member.type.isCollection && member.type.isConstructible

/-- Required, but a constructor may fill in an empty instance. -/
def isDefaultable (plan : AccessorPlan) : Bool := plan.required && plan.selfInitializable

/-- The property is not writable. -/
def isGetOnly (plan : AccessorPlan) : Bool := !plan.exposesSetter && !plan.exposesInitOnly

/-- The write accessor of the property. -/
def writeAccess? (plan : AccessorPlan) : Option WriteAccess :=
  if plan.exposesSetter then some .set
  else if plan.exposesInitOnly then some .init
  else none

/-- The declaration itself starts out with an empty instance: no constructor takes the
member, and an empty instance is possible. -/
def hasDeclarationDefault (plan : AccessorPlan) : Bool :=
  plan.selfInitializable && !plan.required

end AccessorPlan

end ClassSynthesis
