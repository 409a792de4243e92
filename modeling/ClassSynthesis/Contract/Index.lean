import ClassSynthesis.Contract.Member
import ClassSynthesis.Contract.ModelError

/-!
# The Contract Index

All contracts of a model with the members each declares directly, in order of registration.
Qualified names are distinct, which the type guarantees, so looking up a name answers
`some id` exactly for the one contract of that name.
-/

namespace ClassSynthesis

/-- A registered contract with its own members. -/
structure Registration where
  /-- The contract. -/
  contract : Contract
  /-- The members it declares directly, in the order declared. -/
  members : List Member := []
  deriving DecidableEq, Repr

/-- The qualified name of the registered contract. -/
def Registration.qualified (r : Registration) : String := r.contract.name.qualified

/-- The contracts of a model, in order of registration. -/
structure ContractIndex where
  /-- The registrations; the position of one is the identity of its contract. -/
  entries : List Registration
  /-- No two contracts have the same qualified name. -/
  distinct : (entries.map Registration.qualified).Nodup

namespace ContractIndex

/-- The index of an empty model. -/
def empty : ContractIndex := ⟨[], by simp⟩

/-- The number of contracts. -/
def size (index : ContractIndex) : Nat := index.entries.length

/-- Whether there are no contracts. -/
def isEmpty (index : ContractIndex) : Bool := index.entries.isEmpty

/-- The identities of all contracts, in order. -/
def ids (index : ContractIndex) : List ContractId := (List.range index.size).map (⟨·⟩)

/-- All contracts, in order. -/
def contracts (index : ContractIndex) : List Contract := index.entries.map (·.contract)

/-- The contract with an identity. -/
def contract? (index : ContractIndex) (id : ContractId) : Option Contract :=
  index.entries[id.index]?.map (·.contract)

/-- The members a contract declares directly; none for an unknown identity. -/
def membersOf (index : ContractIndex) (id : ContractId) : List Member :=
  match index.entries[id.index]? with
  | some entry => entry.members
  | none => []

/-- The contract with a qualified name. -/
def lookup (index : ContractIndex) (qualified : String) : Option ContractId :=
  (index.entries.findIdx? (·.qualified == qualified)).map (⟨·⟩)

/-- The contract with an identity, or the error that there is none. -/
def require (index : ContractIndex) (id : ContractId) : Except ModelError Contract :=
  match index.contract? id with
  | some contract => .ok contract
  | none => .error (.unknownContract id)

/-- The name a contract is reported under; an unknown identity is reported by its number. -/
def displayName (index : ContractIndex) (id : ContractId) : String :=
  match index.contract? id with
  | some contract => contract.name.qualified
  | none => "#" ++ toString id.index

/-- The interfaces marked as partial exactly once, in order. -/
def implementable (index : ContractIndex) : List ContractId :=
  index.ids.filter fun id => (index.contract? id).any Contract.isImplementable

/-- A name that no contract has can be registered without breaking distinctness. -/
private theorem distinct_append {entries : List Registration} {r : Registration}
    (distinct : (entries.map Registration.qualified).Nodup)
    (fresh : entries.all (·.qualified != r.qualified)) :
    ((entries ++ [r]).map Registration.qualified).Nodup := by
  rw [List.map_append, List.nodup_append]
  refine ⟨distinct, by simp, ?_⟩
  intro name hname other hother
  simp only [List.map_cons, List.map_nil, List.mem_singleton] at hother
  obtain ⟨entry, hentry, rfl⟩ := List.mem_map.1 hname
  have := List.all_eq_true.1 fresh entry hentry
  simpa [hother] using this

/-- Register a contract with the members it declares. Its identity is the next position; a
qualified name that is taken is refused, also when the two names split into namespace and
name differently. -/
def register (index : ContractIndex) (r : Registration) :
    Except ModelError (ContractId × ContractIndex) :=
  if fresh : index.entries.all (·.qualified != r.qualified) then
    .ok (⟨index.size⟩, ⟨index.entries ++ [r], distinct_append index.distinct fresh⟩)
  else
    .error (.duplicateContract r.qualified)

/-- Changing the members of one entry keeps the names. -/
private theorem map_qualified_modify (entries : List Registration) (position : Nat)
    (change : List Member → List Member) :
    (entries.modify position fun r => { r with members := change r.members }).map
      Registration.qualified = entries.map Registration.qualified := by
  induction entries generalizing position with
  | nil => simp
  | cons r rest ih =>
    cases position with
    | zero => simp [Registration.qualified]
    | succ position => simp [ih]

/-- Declare one more member on a registered contract; nothing for an unknown identity. -/
def declare? (index : ContractIndex) (owner : ContractId) (member : Member) :
    Option ContractIndex :=
  if owner.index < index.size then
    some {
      entries := index.entries.modify owner.index fun r =>
        { r with members := r.members ++ [member] }
      distinct := by
        rw [map_qualified_modify index.entries owner.index (· ++ [member])]
        exact index.distinct }
  else
    none

end ContractIndex

end ClassSynthesis
