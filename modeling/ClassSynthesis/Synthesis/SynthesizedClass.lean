import ClassSynthesis.Synthesis.Constructor
import ClassSynthesis.Synthesis.Resolution

/-!
# Synthesized Classes

The class that implements one contract: its members with accessor plans and storage, and its
constructors. A member gets a private backing field when it is implemented explicitly for
the contracts that declare it, or when it is spelled like the class, which the generated
language does not allow for an ordinary member.
-/

namespace ClassSynthesis

/-- The name of the class when the caller does not choose one. -/
def defaultClassName : String := "Class"

/-- A member of the class. -/
structure SynthesizedMember where
  /-- The resolved member. -/
  resolved : ResolvedMember
  /-- The field that stores the value, for members implemented explicitly. -/
  backingField : Option String
  deriving DecidableEq, Repr

namespace SynthesizedMember

/-- The member's name. -/
def name (m : SynthesizedMember) : String := m.resolved.name

/-- The member's type. -/
def type (m : SynthesizedMember) : TypeRef := m.resolved.type

/-- The accessor plan of the member as a whole, under the context of its first declaration. -/
def plan (m : SynthesizedMember) : AccessorPlan :=
  .ofMember m.resolved.member m.resolved.first.context

/-- Each origin with the plan of its own declaration, so that an explicit implementation has
exactly the accessors that its contract declares. -/
def originPlans (m : SynthesizedMember) : List (MemberOrigin × AccessorPlan) :=
  m.resolved.origins.map fun origin => (origin, .ofMember origin.member origin.context)

/-- The origins whose write accessor the public property cannot implement. A member with a
backing field has none: there every origin is implemented explicitly. -/
def forwarded (m : SynthesizedMember) : List (MemberOrigin × AccessorPlan) :=
  if m.backingField.isSome then []
  else m.originPlans.filter fun (_, plan) =>
    plan.writeAccess?.isSome && plan.writeAccess? != m.plan.writeAccess?

/-- Where the value is stored: the backing field, or the property itself. -/
def storage (m : SynthesizedMember) : String := m.backingField.getD m.name

end SynthesizedMember

/-- The class that implements one contract. -/
structure SynthesizedClass where
  /-- The contract. -/
  contract : ContractId
  /-- The contract's name. -/
  name : ContractName
  /-- The nullable context of the contract. -/
  context : NullableContext
  /-- The members, in resolution order. -/
  members : List SynthesizedMember
  /-- The constructors. -/
  constructors : ConstructorPlans
  /-- The names implemented through their declaring contracts. -/
  collisions : List String
  deriving DecidableEq, Repr

/-- Whether a member needs a backing field in a class of the given name. -/
def ResolvedMember.needsField (m : ResolvedMember) (className : String) : Bool :=
  m.isQualified || m.name == className

/-- The names that no backing field may have: `value`, which is the incoming value inside an
accessor, the class name, and the names of the ordinary members. -/
def fieldScope (members : List ResolvedMember) (className : String) : NameScope :=
  (members.filter (!·.needsField className)).foldl (fun scope m => scope.reserve m.name)
    ((NameScope.empty.reserve "value").reserve className)

/-- Give backing fields to the members that need one. -/
def assignFields (className : String) (scope : NameScope) :
    List ResolvedMember → List SynthesizedMember
  | [] => []
  | m :: rest =>
    if m.needsField className then
      let (field, scope) := scope.allocate (Identifier.lowerCamel m.name)
      ⟨m, some (Identifier.escape field)⟩ :: assignFields className scope rest
    else
      ⟨m, none⟩ :: assignFields className scope rest

namespace SynthesizedClass

/-- The class of the given name for the resolved members of a contract. -/
def ofResolution (contract : Contract) (resolution : Resolution) (className : String) :
    SynthesizedClass :=
  let members :=
    assignFields className (fieldScope resolution.members className) resolution.members
  { contract := resolution.contract
    name := contract.name
    context := contract.context
    members
    constructors := .ofMembers (members.map fun m => ⟨m.name, m.plan⟩)
    collisions := resolution.collisions }

/-- The members that every constructor has to set, with their positions. -/
def requiredPositions (c : SynthesizedClass) : List Nat :=
  (List.range c.members.length).filter fun position =>
    c.members[position]?.any (·.plan.required)

end SynthesizedClass

/-- Resolve a contract and synthesize its class. -/
def ContractIndex.synthesize (index : ContractIndex) (id : ContractId) (className : String) :
    Except SynthesisError SynthesizedClass := do
  let resolution ← index.resolve id
  match index.contract? id with
  | some contract => return .ofResolution contract resolution className
  | none => throw ⟨index.displayName id, .unknownContract id⟩

end ClassSynthesis
