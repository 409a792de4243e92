import ClassSynthesis.Proofs.Contract.Ancestors

/-!
# Counting the Steps of a Walk

Every step of a walk takes one visit from those pending, and every reference to a parent puts
one there, once, when the contract that lists it is visited. So the visits taken and those
still pending make up one more than the parents that the visited contracts list, whatever
cycles and repetitions there are in the index (`Walk.Balanced`). When the walk ends, it has
taken no more visits than that (`ContractIndex.closure_stops`).

## Main definitions

- `Walk.after?`: the walk after a number of steps.
- `Walk.Stops`: how a walk ends, with the number of visits that it has taken.
- `ContractIndex.listedParents`: the number of parents that some contracts list.
-/

namespace ClassSynthesis

/-- The number of parents that some contracts list: the length of their lists of parents one
after the other, so that a parent that is listed twice counts twice. -/
def ContractIndex.listedParents (index : ContractIndex) (ids : List ContractId) : Nat :=
  (ids.flatMap fun id => (index.contract? id).elim [] (·.parents)).length

@[simp]
theorem ContractIndex.listedParents_concat {index : ContractIndex} {ids : List ContractId}
    {id : ContractId} {c : Contract} (hc : index.contract? id = some c) :
    index.listedParents (ids ++ [id]) = index.listedParents ids + c.parents.length := by
  simp [listedParents, hc]

/-- A visit that succeeds goes on with as many parents as the contract lists: none of the names
is missing. -/
theorem ContractIndex.length_parentIds {index : ContractIndex} {c : Contract}
    (h : index.unresolvedParent? c = none) : (index.parentIds c).length = c.parents.length := by
  rw [unresolvedParent?_eq_none_iff] at h
  apply List.filterMap_length_eq_length.2
  intro reference hreference
  exact Option.isSome_iff_ne_none.2 (h reference hreference)

namespace Walk

/-- The walk after a number of steps, each of which takes one visit from those pending; nothing
if it ends before. -/
def after? (index : ContractIndex) (root : String) (walk : Walk) : Nat → Option Walk
  | 0 => some walk
  | steps + 1 =>
    match walk.after? index root steps with
    | none => none
    | some reached =>
      match reached.step index root with
      | .continues next => some next
      | .finished _ => none
      | .failed _ => none

/-- How a walk ends: with a number of visits taken from those pending, the contracts visited
by then, and a result. -/
inductive Stops (index : ContractIndex) (root : String) (walk : Walk) :
    Nat → List ContractId → Except ModelError (List ContractId) → Prop
  /-- Nothing is pending any more. -/
  | finished {taken : Nat} {order : List ContractId}
    (reached : walk.after? index root taken = some ⟨order, []⟩) :
    Stops index root walk taken order (.ok order)
  /-- The next visit is one of a contract not visited before, and it fails. -/
  | failed {taken : Nat} {order : List ContractId} {v : Visit} {rest : List Visit}
    {e : ModelError} (reached : walk.after? index root taken = some ⟨order, v :: rest⟩)
    (fresh : v.id ∉ order)
    (fails : (Walk.mk order (v :: rest)).step index root = .failed e) :
    Stops index root walk (taken + 1) order (.error e)

variable {index : ContractIndex} {root : String} {source : ContractId}
  {order : List ContractId} {v : Visit} {rest : List Visit} {taken : Nat}

theorem after?_succ {walk reached next : Walk} (h : walk.after? index root taken = some reached)
    (hstep : reached.step index root = .continues next) :
    walk.after? index root (taken + 1) = some next := by
  rw [after?, h]
  simp only [hstep]

/-- A walk that has taken a number of visits: no contract is visited twice, and what has been
taken and what is pending is the first visit and one for each parent listed by a visited
contract. -/
structure Balanced (index : ContractIndex) (taken : Nat) (walk : Walk) : Prop where
  nodup : walk.order.Nodup
  balance : taken + walk.pending.length = 1 + index.listedParents walk.order

theorem balanced_start (index : ContractIndex) (source : ContractId) :
    Balanced index 0 (start source) where
  nodup := List.nodup_nil
  balance := rfl

/-- Passing over a visited contract takes one visit and adds none. -/
theorem Balanced.pass (h : Balanced index taken ⟨order, v :: rest⟩) :
    Balanced index (taken + 1) ⟨order, rest⟩ where
  nodup := h.nodup
  balance := by
    have hbalance : taken + (rest.length + 1) = 1 + index.listedParents order := h.balance
    show taken + 1 + rest.length = 1 + index.listedParents order
    omega

/-- A first visit takes one visit and adds one for each parent that its contract lists. -/
theorem Balanced.visit {parents : List ContractId}
    (h : Balanced index taken ⟨order, v :: rest⟩) (hnew : v.id ∉ order)
    (hvisit : index.visit root v = .ok parents) :
    Balanced index (taken + 1) (afterVisit order v rest parents) where
  nodup := by
    rw [afterVisit, ← List.concat_eq_append]
    exact List.Nodup.concat hnew h.nodup
  balance := by
    obtain ⟨-, c, hc, -, hresolved, rfl⟩ := ContractIndex.visit_eq_ok_iff.1 hvisit
    have hadded := ContractIndex.length_parentIds hresolved
    have hbalance : taken + (rest.length + 1) = 1 + index.listedParents order := h.balance
    rw [afterVisit, ContractIndex.listedParents_concat hc, List.length_append, List.length_map]
    show taken + 1 + ((index.parentIds c).length + rest.length) =
      1 + (index.listedParents order + c.parents.length)
    omega

/-- A walk from a contract ends as its run does. It visits no contract twice, and it takes at most
one more visit than the contracts visited list parents, exactly as many if nothing is left. -/
theorem exists_stops (index : ContractIndex) (root : String) (source : ContractId) :
    ∃ taken order, (start source).Stops index root taken order
        ((start source).run index root) ∧
      order.Nodup ∧ taken ≤ 1 + index.listedParents order ∧
      ((start source).run index root = .ok order → taken = 1 + index.listedParents order) := by
  -- What a run keeps is that its walk is reached, and that the steps so far are balanced.
  have hends := run_keeps index root
    (P := fun walk => ∃ taken, (start source).after? index root taken = some walk ∧
      Balanced index taken walk)
    (fun order v rest hseen ⟨taken, hreached, hbalanced⟩ =>
      ⟨taken + 1, after?_succ hreached (step_seen hseen), hbalanced.pass⟩)
    (fun order v rest parents hnew hvisit ⟨taken, hreached, hbalanced⟩ =>
      ⟨taken + 1, after?_succ hreached (step_ok hnew hvisit), hbalanced.visit hnew hvisit⟩)
    (start source) ⟨0, rfl, balanced_start index source⟩
  cases hrun : (start source).run index root with
  | ok order =>
    rw [hrun] at hends
    obtain ⟨taken, hreached, hbalanced⟩ := hends
    have htaken : taken = 1 + index.listedParents order := hbalanced.balance
    exact ⟨taken, order, .finished hreached, hbalanced.nodup, Nat.le_of_eq htaken, fun _ => htaken⟩
  | error e =>
    rw [hrun] at hends
    obtain ⟨order, v, rest, ⟨taken, hreached, hbalanced⟩, hnew, hvisit⟩ := hends
    have hbalance : taken + (rest.length + 1) = 1 + index.listedParents order := hbalanced.balance
    refine ⟨taken + 1, order, .failed hreached hnew (step_error hnew hvisit),
      hbalanced.nodup, ?_, nofun⟩
    omega

end Walk

/-- The walk for the closure of a registered contract ends, with the closure as its result, after
at most one more visit than the contracts visited list parents, and exactly as many if it
succeeds; and it visits no contract twice. Nothing is walked for an identity that is not
registered. -/
theorem ContractIndex.closure_stops (index : ContractIndex) (id : ContractId) :
    match index.contract? id with
    | none => index.closure id = .error (.unknownContract id)
    | some root =>
      ∃ taken order,
        (Walk.start id).Stops index root.name.qualified taken order (index.closure id) ∧
        order.Nodup ∧ taken ≤ 1 + index.listedParents order ∧
        (index.closure id = .ok order → taken = 1 + index.listedParents order) := by
  rw [closure, require]
  cases index.contract? id with
  | none => rfl
  | some root => exact Walk.exists_stops index root.name.qualified id

/-- Four contracts that list seven parents take eight visits, in spite of the way back. -/
example : (Walk.start ⟨0⟩).after? ContractIndex.tangled "A" 8 =
    some ⟨[⟨0⟩, ⟨1⟩, ⟨3⟩, ⟨2⟩], []⟩ := by
  cbv

end ClassSynthesis
