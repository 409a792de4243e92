import ClassSynthesis.Proofs.Contract.Lookup
import ClassSynthesis.Proofs.Contract.Run
import Mathlib.Logic.Equiv.Defs

/-!
# Renumbering Contracts

Identities are positions, so two indexes with the same registrations in different orders give
a contract different identities. `Renumbers` says that a bijection of identities takes each
contract of one index to the same contract of the other; `exists_renumbers` provides one.

What an index is asked by name does not depend on positions, and the closure goes from
contract to contract by name. So the closure in the other index is the renumbered closure,
errors included (`Renumbers.closure`).
-/

namespace ClassSynthesis

/-- The error with the identities in it renumbered. -/
def ModelError.renumber (f : ContractId → ContractId) : ModelError → ModelError
  | unknownContract id => unknownContract (f id)
  | e => e

/-- The contracts found, or the error met, with the identities in it renumbered. -/
def renumberResult (f : ContractId → ContractId) :
    Except ModelError (List ContractId) → Except ModelError (List ContractId)
  | .ok ids => .ok (ids.map f)
  | .error e => .error (e.renumber f)

/-- The walk with the identities in it renumbered. -/
def Walk.renumber (f : ContractId → ContractId) (walk : Walk) : Walk where
  order := walk.order.map f
  pending := walk.pending.map fun v => { v with id := f v.id }

namespace ContractIndex

/-- A bijection of identities takes each contract of an index to the same contract, with the
same members, of another index. -/
def Renumbers (ρ : ContractId ≃ ContractId) (index other : ContractIndex) : Prop :=
  ∀ id, other.registration? (ρ id) = index.registration? id

/-! ## Indexes with the same registrations -/

/-- The identity that another index gives to the contract of an index; an identity without a
contract stays. -/
def counterpart (index other : ContractIndex) (id : ContractId) : ContractId :=
  match index.registration? id with
  | some r => (other.lookup r.qualified).getD id
  | none => id

variable {index other : ContractIndex}

theorem registration?_eq_none_iff {id : ContractId} :
    index.registration? id = none ↔ index.size ≤ id.index := by
  rw [registration?, List.getElem?_eq_none_iff, size]

/-- Registrations that stand in both indexes stand at corresponding identities. -/
theorem registration?_counterpart (h : index.entries.Perm other.entries) (id : ContractId) :
    other.registration? (index.counterpart other id) = index.registration? id := by
  rw [counterpart]
  cases hr : index.registration? id with
  | none =>
    -- The indexes are of one size, so what one does not have is past the end of both.
    have hsize : index.size = other.size := h.length_eq
    rw [registration?_eq_none_iff, hsize] at hr
    exact registration?_eq_none_iff.2 hr
  | some r =>
    have hmem : r ∈ other.entries := h.subset (List.mem_of_getElem? hr)
    obtain ⟨position, hposition⟩ := List.getElem?_of_mem hmem
    have hlookup : other.lookup r.qualified = some ⟨position⟩ :=
      lookup_eq_some_iff.2 ⟨r, hposition, rfl⟩
    dsimp only
    rw [hlookup]
    exact hposition

theorem counterpart_counterpart (h : index.entries.Perm other.entries) (id : ContractId) :
    other.counterpart index (index.counterpart other id) = id := by
  rw [counterpart, registration?_counterpart h]
  cases hr : index.registration? id with
  | none =>
    rw [counterpart, hr]
  | some r =>
    have hlookup : index.lookup r.qualified = some id := lookup_eq_some_iff.2 ⟨r, hr, rfl⟩
    dsimp only
    rw [hlookup]
    rfl

/-- Indexes with the same registrations differ by a renumbering. -/
theorem exists_renumbers (h : index.entries.Perm other.entries) :
    ∃ ρ, Renumbers ρ index other :=
  ⟨{ toFun := index.counterpart other
     invFun := other.counterpart index
     left_inv := counterpart_counterpart h
     right_inv := counterpart_counterpart h.symm }, registration?_counterpart h⟩

/-! ## What a renumbering keeps -/

namespace Renumbers

variable {ρ : ContractId ≃ ContractId} (h : Renumbers ρ index other)
include h

theorem contract? (id : ContractId) : other.contract? (ρ id) = index.contract? id := by
  rw [contract?_eq, contract?_eq, h id]

theorem membersOf (id : ContractId) : other.membersOf (ρ id) = index.membersOf id := by
  rw [membersOf_eq, membersOf_eq, h id]

/-- A name is found at corresponding identities. -/
theorem lookup (name : String) : other.lookup name = (index.lookup name).map ρ := by
  ext found
  rw [Option.map_eq_some_iff, lookup_eq_some_iff]
  constructor
  · rintro ⟨r, hr, hname⟩
    refine ⟨ρ.symm found, lookup_eq_some_iff.2 ⟨r, ?_, hname⟩, ρ.apply_symm_apply found⟩
    rw [← h, ρ.apply_symm_apply, hr]
  · rintro ⟨id, hid, rfl⟩
    obtain ⟨r, hr, hname⟩ := lookup_eq_some_iff.1 hid
    exact ⟨r, (h id).trans hr, hname⟩

theorem unresolvedParent? (c : Contract) :
    other.unresolvedParent? c = index.unresolvedParent? c := by
  unfold ContractIndex.unresolvedParent?
  congr 1
  ext name
  rw [h.lookup, Option.isNone_map]

theorem parentIds (c : Contract) : other.parentIds c = (index.parentIds c).map ρ := by
  unfold ContractIndex.parentIds
  rw [List.map_filterMap]
  congr 1
  ext1 name
  exact h.lookup name

/-- Visits of corresponding contracts go on with corresponding parents, or meet the same
error. -/
theorem visit (root : String) (v : Visit) :
    other.visit root { v with id := ρ v.id } = renumberResult ρ (index.visit root v) := by
  unfold ContractIndex.visit
  rw [h.contract?]
  split
  · rfl
  · cases index.contract? v.id with
    | none => rfl
    | some c =>
      dsimp only
      split
      · rfl
      · rw [h.unresolvedParent?, h.parentIds]
        cases index.unresolvedParent? c with
        | some reference => rfl
        | none => rfl

/-- Corresponding walks run alike. A contract has been visited in one walk exactly when its
counterpart has been visited in the other, because the renumbering is injective. -/
theorem run (root : String) (walk : Walk) :
    (walk.renumber ρ).run other root = renumberResult ρ (walk.run index root) := by
  induction walk using Walk.induct index root with
  | nil order =>
    rw [Walk.run_nil]
    exact Walk.run_nil other root (order.map ρ)
  | seen order v rest hseen ih =>
    have hseen' : ρ v.id ∈ order.map ρ := List.mem_map_of_mem hseen
    rw [Walk.run_seen hseen, ← ih]
    exact Walk.run_seen (v := { v with id := ρ v.id }) hseen'
  | visit order v rest hnew ih =>
    have hnew' : ρ v.id ∉ order.map ρ := by
      rw [List.mem_map_of_injective ρ.injective]
      exact hnew
    change (Walk.mk (order.map ρ) ({ v with id := ρ v.id } :: rest.map _)).run other root = _
    rw [Walk.run_visit hnew, Walk.run_visit hnew', h.visit]
    cases hvisit : index.visit root v with
    | error e => rfl
    | ok parents =>
      have hafter : Walk.afterVisit (order.map ρ) { v with id := ρ v.id }
          (rest.map fun v => { v with id := ρ v.id }) (parents.map ρ) =
          (Walk.afterVisit order v rest parents).renumber ρ := by
        simp [Walk.afterVisit, Walk.renumber, Function.comp_def]
      have hrest := ih parents hvisit
      rw [← hafter] at hrest
      exact hrest

/-- The closures of corresponding contracts correspond, errors included. -/
theorem closure (id : ContractId) :
    other.closure (ρ id) = renumberResult ρ (index.closure id) := by
  unfold ContractIndex.closure require
  rw [h.contract?]
  cases index.contract? id with
  | none => rfl
  | some c => exact h.run c.name.qualified (Walk.start id)

/-- Corresponding contracts are to be implemented in both indexes or in none. -/
theorem implementable : other.implementable.Perm (index.implementable.map ρ) := by
  have hids : ∀ id, ρ id ∈ other.ids ↔ id ∈ index.ids := by
    intro id
    rw [mem_ids, mem_ids, h id]
  have hmem : ∀ id, ρ id ∈ other.implementable ↔ id ∈ index.implementable := by
    intro id
    unfold ContractIndex.implementable
    rw [List.mem_filter, List.mem_filter, hids, h.contract?]
  -- Neither list repeats an identity, so it is enough that they have the same ones.
  refine (List.perm_ext_iff_of_nodup ?_ ?_).2 fun id => ?_
  · exact other.nodup_ids.filter _
  · exact (index.nodup_ids.filter _).map ρ.injective
  · rw [← ρ.apply_symm_apply id, hmem, List.mem_map_of_injective ρ.injective]

end Renumbers

end ContractIndex

end ClassSynthesis
