import ClassSynthesis.Contract.Index

/-!
# Inheritance Closure

The contract followed by all of its ancestors: a depth-first walk over the declared parents
in declaration order, every contract at its first position. The walk keeps the contracts it
still has to visit, nearest first. It stops because a visit either removes a contract from
those not yet seen or shortens what is pending.

## Main definitions

- `Walk.step`: one visit.
- `ContractIndex.closure`: the walk from a contract, or the error it met.
-/

namespace ClassSynthesis

/-- The longest chain of parents that is followed. -/
def maxInheritanceDepth : Nat := 256

/-- A contract waiting to be visited, with the length of the chain that leads to it. -/
structure Visit where
  /-- The contract to visit. -/
  id : ContractId
  /-- The number of parent steps from the start. -/
  depth : Nat
  deriving DecidableEq, Repr

/-- The state of a walk. -/
structure Walk where
  /-- The contracts visited, in order. -/
  order : List ContractId
  /-- The visits still to make, the next one first. -/
  pending : List Visit
  deriving DecidableEq, Repr

namespace ContractIndex

/-- The last listed parent of a contract that the index does not have. -/
def unresolvedParent? (index : ContractIndex) (contract : Contract) : Option String :=
  contract.parents.reverse.find? fun reference => (index.lookup reference).isNone

/-- The parents of a contract that the index has, in the order listed. -/
def parentIds (index : ContractIndex) (contract : Contract) : List ContractId :=
  contract.parents.filterMap index.lookup

/-- Visit a contract for the first time: the parents to go on with, or the error. The root
is named when the chain is too long. -/
def visit (index : ContractIndex) (root : String) (v : Visit) :
    Except ModelError (List ContractId) :=
  if v.depth > maxInheritanceDepth then
    .error (.inheritanceTooDeep root maxInheritanceDepth)
  else match index.contract? v.id with
    | none => .error (.unknownContract v.id)
    | some contract =>
      if !contract.isInterface then
        .error (.unexpectedKind contract.name.qualified contract.kind)
      else match index.unresolvedParent? contract with
        | some reference => .error (.unknownParent contract.name.qualified reference)
        | none => .ok (index.parentIds contract)

/-- The registered contracts that a walk has not visited. -/
def unseen (index : ContractIndex) (order : List ContractId) : List ContractId :=
  index.ids.filter (!order.contains ·)

end ContractIndex

namespace Walk

/-- What one step of a walk leads to. -/
inductive Progress
  /-- The walk goes on. -/
  | continues (next : Walk)
  /-- Nothing is pending: the walk is complete. -/
  | finished (order : List ContractId)
  /-- The walk met an error. -/
  | failed (error : ModelError)

/-- Take the next pending visit. A contract seen before is passed over; otherwise it is
appended, and its parents go before everything pending. -/
def step (index : ContractIndex) (root : String) (walk : Walk) : Progress :=
  match walk.pending with
  | [] => .finished walk.order
  | v :: rest =>
    if walk.order.contains v.id then
      .continues { walk with pending := rest }
    else match index.visit root v with
      | .error error => .failed error
      | .ok parents =>
        .continues {
          order := walk.order ++ [v.id]
          pending := parents.map (⟨·, v.depth + 1⟩) ++ rest }

/-- A successful visit is one of a registered contract. -/
private theorem lt_size_of_visit {index : ContractIndex} {root : String} {v : Visit}
    {parents : List ContractId} (h : index.visit root v = .ok parents) :
    v.id.index < index.size := by
  unfold ContractIndex.visit at h
  split at h
  · simp at h
  · split at h
    · simp at h
    next contract hcontract =>
      rw [ContractIndex.contract?, Option.map_eq_some_iff] at hcontract
      obtain ⟨entry, hentry, -⟩ := hcontract
      exact (List.getElem?_eq_some_iff.1 hentry).1

/-- Visiting a contract for the first time leaves fewer contracts unseen. -/
private theorem unseen_lt {index : ContractIndex} {order : List ContractId} {id : ContractId}
    (registered : id.index < index.size) (fresh : id ∉ order) :
    (index.unseen (order ++ [id])).length < (index.unseen order).length := by
  have hmem : id ∈ index.ids :=
    List.mem_map.2 ⟨id.index, List.mem_range.2 registered, rfl⟩
  have hsplit : index.unseen (order ++ [id]) = (index.unseen order).filter (· != id) := by
    simp only [ContractIndex.unseen, List.filter_filter]
    congr 1
    funext x
    rw [Bool.eq_iff_iff]
    simp [and_comm]
  rw [hsplit]
  apply List.length_filter_lt_length_iff_exists.2
  exact ⟨id, List.mem_filter.2 ⟨hmem, by simp [fresh]⟩, by simp⟩

/-- A step that goes on leaves fewer contracts unseen, or as many and fewer pending. -/
theorem step_decreases {index : ContractIndex} {root : String} {walk next : Walk}
    (h : walk.step index root = .continues next) :
    (index.unseen next.order).length < (index.unseen walk.order).length ∨
      (index.unseen next.order).length = (index.unseen walk.order).length ∧
        next.pending.length < walk.pending.length := by
  unfold step at h
  split at h
  · simp at h
  next v rest hpending =>
    split at h
    · injection h with h
      subst h
      exact Or.inr ⟨rfl, by simp [hpending]⟩
    next hfresh =>
      split at h
      · simp at h
      next parents hvisit =>
        injection h with h
        subst h
        exact Or.inl (unseen_lt (lt_size_of_visit hvisit) (by simpa using hfresh))

/-- Take steps until the walk is complete or fails. -/
def run (index : ContractIndex) (root : String) (walk : Walk) :
    Except ModelError (List ContractId) :=
  match _h : walk.step index root with
  | .finished order => .ok order
  | .failed error => .error error
  | .continues next => run index root next
termination_by ((index.unseen walk.order).length, walk.pending.length)
decreasing_by
  rcases step_decreases _h with h | ⟨h, h'⟩
  · exact Prod.Lex.left _ _ h
  · rw [h]
    exact Prod.Lex.right _ h'

/-- The walk that starts at a contract. -/
def start (id : ContractId) : Walk := ⟨[], [⟨id, 0⟩]⟩

end Walk

/-- The contract followed by all of its ancestors, each at its first position in a
depth-first walk over the parents in declaration order. -/
def ContractIndex.closure (index : ContractIndex) (id : ContractId) :
    Except ModelError (List ContractId) := do
  let root ← index.require id
  (Walk.start id).run index root.name.qualified

end ClassSynthesis
