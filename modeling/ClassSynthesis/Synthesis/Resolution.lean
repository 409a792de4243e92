import ClassSynthesis.Contract.Closure
import ClassSynthesis.Synthesis.Merge
import ClassSynthesis.Text.Blank

/-!
# Resolving the Members of a Contract

The members a class for a contract has to implement: the readable properties declared by the
contract and its ancestors, read in closure order and merged. A declaration with a blank
name, of whatever kind, makes the contract fail.
-/

namespace ClassSynthesis

/-- The synthesis of one contract was given up. -/
structure SynthesisError where
  /-- The name the contract is reported under. -/
  contract : String
  /-- The inconsistency that was met. -/
  cause : ModelError
  deriving DecidableEq, Repr

/-- The wording of a synthesis error. -/
def SynthesisError.message (e : SynthesisError) : String :=
  "failed to synthesize '" ++ e.contract ++ "': " ++ e.cause.message

/-- The members of a contract, merged over its closure. -/
structure Resolution where
  /-- The contract. -/
  contract : ContractId
  /-- The members to implement, in order of first declaration. -/
  members : List ResolvedMember
  /-- The names declared with more than one type. -/
  collisions : List String
  deriving DecidableEq, Repr

namespace Resolution

/-- The resolution that a sequence of declarations makes. -/
def ofOrigins (contract : ContractId) (origins : List MemberOrigin) : Resolution where
  contract
  members := qualifyCollisions (merge origins)
  collisions := ClassSynthesis.collisions (merge origins)

end Resolution

namespace ContractIndex

/-- The eligible declarations of one contract, or the error that it declares a member with a
blank name. -/
def originsOf (index : ContractIndex) (id : ContractId) :
    Except ModelError (List MemberOrigin) := do
  let contract ← index.require id
  if (index.membersOf id).any fun member => Text.allBlank member.name then
    throw (.emptyMemberName contract.name.qualified)
  return (index.membersOf id).filter Member.isEligible |>.map fun member =>
    { contract := id, contractName := contract.name, context := contract.context, member }

/-- The eligible declarations of a contract and its ancestors, in closure order. -/
def inheritedOrigins (index : ContractIndex) (id : ContractId) :
    Except ModelError (List MemberOrigin) := do
  let closure ← index.closure id
  return (← closure.mapM index.originsOf).flatten

/-- The members that a class for the contract has to implement. -/
def resolve (index : ContractIndex) (id : ContractId) : Except SynthesisError Resolution :=
  match index.inheritedOrigins id with
  | .ok origins => .ok (.ofOrigins id origins)
  | .error cause => .error ⟨index.displayName id, cause⟩

end ContractIndex

end ClassSynthesis
