import ClassSynthesis.Contract.Member
import ClassSynthesis.Contract.ModelError

/-!
# Merging Declarations

Declarations with equal keys are one member. The first declaration represents it; later ones
widen its accessors, and each contract is remembered once as an origin. Members that share a
name but not a type stay apart, and each is then exposed through the contracts that declare
it.

## Main definitions

- `merge`: one member per key, in order of first declaration.
- `collisions`: the names borne by several members.
- `qualifyCollisions`: the members with those of a collided name marked.
-/

namespace ClassSynthesis

/-- One declaration that contributes to a member. -/
structure MemberOrigin where
  /-- The declaring contract. -/
  contract : ContractId
  /-- Its name. -/
  contractName : ContractName
  /-- The nullable context at its declaration. -/
  context : NullableContext
  /-- The member as declared there. -/
  member : Member
  deriving DecidableEq, Repr

/-- A member merged from one or more declarations. -/
structure MergedMember where
  /-- The first declaration. -/
  first : MemberOrigin
  /-- The accessors of all declarations together. -/
  accessors : AccessorSet
  /-- The declarations of other contracts, one for each. -/
  others : List MemberOrigin
  deriving DecidableEq, Repr

namespace MergedMember

/-- The member that a single declaration makes. -/
def ofOrigin (origin : MemberOrigin) : MergedMember :=
  ⟨origin, origin.member.accessors, []⟩

/-- All origins, the first declaration in front. -/
def origins (m : MergedMember) : List MemberOrigin := m.first :: m.others

/-- The identity of the member. -/
def key (m : MergedMember) : MemberKey := m.first.member.key

/-- The member's name. -/
def name (m : MergedMember) : String := m.first.member.name

/-- The member's type. -/
def type (m : MergedMember) : TypeRef := m.first.member.type

/-- The member as a whole: the first declaration with the accessors of all. -/
def member (m : MergedMember) : Member := { m.first.member with accessors := m.accessors }

/-- Whether a contract is among the origins. -/
def hasOrigin (m : MergedMember) (contract : ContractId) : Bool :=
  m.origins.any (·.contract == contract)

/-- Take in a further declaration of the same member. Accessors are united; the origin is
added unless its contract already is one. -/
def absorb (m : MergedMember) (origin : MemberOrigin) : MergedMember where
  first := m.first
  accessors := m.accessors.union origin.member.accessors
  others := if m.hasOrigin origin.contract then m.others else m.others ++ [origin]

@[simp] theorem key_absorb (m : MergedMember) (origin : MemberOrigin) :
    (m.absorb origin).key = m.key := rfl

end MergedMember

/-- Add a declaration to the members merged so far. -/
def addOrigin : List MergedMember → MemberOrigin → List MergedMember
  | [], origin => [.ofOrigin origin]
  | m :: rest, origin =>
    if m.key = origin.member.key then m.absorb origin :: rest
    else m :: addOrigin rest origin

/-- The members that a sequence of declarations makes, in order of first declaration. -/
def merge (origins : List MemberOrigin) : List MergedMember :=
  origins.foldl addOrigin []

/-- The names in a list that stand there more than once, each at its first position. -/
def repeatedNames (names : List String) : List String :=
  (names.filter fun name => names.count name > 1).eraseDups

/-- A merged member together with the way it is exposed. -/
structure ResolvedMember extends MergedMember where
  /-- The member shares its name with another one, so that each is implemented explicitly
  for the contracts that declare it. -/
  isQualified : Bool
  deriving DecidableEq, Repr

/-- The names that several members have, in order of first appearance. -/
def collisions (members : List MergedMember) : List String :=
  repeatedNames (members.map (·.name))

/-- Mark the members whose name several members have. -/
def qualifyCollisions (members : List MergedMember) : List ResolvedMember :=
  let collided := collisions members
  members.map fun m => { m with isQualified := collided.contains m.name }

end ClassSynthesis
