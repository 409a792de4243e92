import ClassSynthesis.Proofs.Contract.Ancestors
import ClassSynthesis.Proofs.Contract.Lookup

/-!
# Walks over Registered Contracts

A walk from a registered contract visits registered contracts only, because what a visit adds to
the pending ones has been found by name (`Walk.registered_afterVisit`). A contract that is not
registered has no closure (`ContractIndex.closure_eq_error`).
-/

namespace ClassSynthesis

namespace Walk

variable {index : ContractIndex} {root : String} {order : List ContractId} {v : Visit}
  {rest : List Visit}

/-- When the pending contracts are registered, they are so after a visit. -/
theorem registered_afterVisit {parents : List ContractId}
    (hvisit : index.visit root v = .ok parents)
    (hrest : ∀ w ∈ rest, ∃ c, index.contract? w.id = some c) :
    ∀ w ∈ (afterVisit order v rest parents).pending, ∃ c, index.contract? w.id = some c := by
  intro w hw
  rcases List.mem_append.1 hw with hw | hw
  · obtain ⟨parent, hparent, rfl⟩ := List.mem_map.1 hw
    obtain ⟨-, -, name, -, hlookup⟩ := (ContractIndex.mem_parents_iff hvisit parent).1 hparent
    exact ContractIndex.registered_of_lookup hlookup
  · exact hrest w hw

end Walk

namespace ContractIndex

variable {index : ContractIndex} {id : ContractId} {c : Contract}

/-- The closure of a registered contract is the run that starts there. -/
theorem closure_eq_run (hc : index.contract? id = some c) :
    index.closure id = (Walk.start id).run index c.name.qualified := by
  rw [closure, require, hc]
  rfl

/-- A contract that is not registered has no closure. -/
theorem closure_eq_error (h : index.contract? id = none) :
    index.closure id = .error (.unknownContract id) := by
  rw [closure, require, h]
  rfl

/-- A contract that has a closure is registered. -/
theorem exists_contract_of_closure {order : List ContractId} (h : index.closure id = .ok order) :
    ∃ c, index.contract? id = some c := by
  cases hc : index.contract? id with
  | none =>
    rw [closure_eq_error hc] at h
    cases h
  | some c => exact ⟨c, rfl⟩

/-- What is pending at the start of a walk from a registered contract is registered. -/
theorem registered_start (hc : index.contract? id = some c) :
    ∀ w ∈ (Walk.start id).pending, ∃ d, index.contract? w.id = some d := by
  intro w hw
  rw [List.mem_singleton.1 hw]
  exact ⟨c, hc⟩

/-- What is reachable from a registered contract is registered. -/
theorem registered_of_reachable (hc : index.contract? id = some c) {other : ContractId}
    (h : index.Reachable id other) : ∃ d, index.contract? other = some d := by
  -- It is the contract itself or a parent, which a look-up has found.
  rcases h.cases_tail with rfl | ⟨child, -, _, _, name, _, hlookup⟩
  · exact ⟨c, hc⟩
  · exact registered_of_lookup hlookup

/-- The contracts of a closure are registered. -/
theorem registered_of_closure {order : List ContractId} (h : index.closure id = .ok order) :
    ∀ other ∈ order, ∃ d, index.contract? other = some d := by
  intro other hother
  obtain ⟨c, hc⟩ := exists_contract_of_closure h
  exact registered_of_reachable hc ((mem_iff_of_closure h other).1 hother)

end ContractIndex

end ClassSynthesis
