import ClassSynthesis.Proofs.Contract.Preorder
import Mathlib.Data.List.Nodup
import Mathlib.Logic.Relation

/-!
# The Closure and the Ancestors

A contract is reachable from another one by following references to parents that the index
resolves. A closure that succeeds lists the reachable contracts, each one once and the
contract itself in front.

The proof keeps an invariant along the walk (`Walk.Explores`): what is visited or pending is
reachable, and a parent of a visited contract is visited or pending. When nothing is pending
any more, the visited contracts are closed under parents, so every reachable one is there.
-/

namespace ClassSynthesis

namespace ContractIndex

/-- One contract lists the other, by a name that the index resolves, as a parent. -/
def IsParent (index : ContractIndex) (child parent : ContractId) : Prop :=
  ∃ c, index.contract? child = some c ∧
    ∃ name ∈ c.parents, index.lookup name = some parent

/-- One contract is the other, or a parent of a contract that leads to it. -/
def Reachable (index : ContractIndex) : ContractId → ContractId → Prop :=
  Relation.ReflTransGen index.IsParent

/-- What a successful visit answers are the parents of the contract. -/
theorem mem_parents_iff {index : ContractIndex} {root : String} {v : Visit}
    {parents : List ContractId} (h : index.visit root v = .ok parents) (parent : ContractId) :
    parent ∈ parents ↔ index.IsParent v.id parent := by
  obtain ⟨-, c, hc, -, -, rfl⟩ := visit_eq_ok_iff.1 h
  rw [parentIds, List.mem_filterMap, IsParent]
  constructor
  · intro hparent
    exact ⟨c, hc, hparent⟩
  · rintro ⟨c', hc', hparent⟩
    rw [hc] at hc'
    cases hc'
    exact hparent

end ContractIndex

namespace Walk

/-- The contracts that a walk visits or has visited. -/
def known (walk : Walk) : List ContractId := walk.order ++ walk.pending.map Visit.id

/-- What a walk from `source` has found: no contract visited twice, `source` in front, only
reachable contracts, and all parents of those visited. -/
structure Explores (index : ContractIndex) (source : ContractId) (walk : Walk) : Prop where
  nodup : walk.order.Nodup
  head : walk.known.head? = some source
  reachable : ∀ id ∈ walk.known, index.Reachable source id
  closed : ∀ id ∈ walk.order, ∀ parent, index.IsParent id parent → parent ∈ walk.known

variable {index : ContractIndex} {root : String} {source : ContractId}
  {order : List ContractId} {v : Visit} {rest : List Visit}

theorem mem_known {pending : List Visit} {id : ContractId} :
    id ∈ known ⟨order, pending⟩ ↔ id ∈ order ∨ id ∈ pending.map Visit.id := by
  rw [known, List.mem_append]

/-- A visit makes the parents known, next to all that was known before. -/
theorem known_afterVisit (order : List ContractId) (v : Visit) (rest : List Visit)
    (parents : List ContractId) :
    (afterVisit order v rest parents).known =
      order ++ v.id :: (parents ++ rest.map Visit.id) := by
  simp [known, afterVisit, Function.comp_def]

theorem mem_known_afterVisit {parents : List ContractId} {id : ContractId} :
    id ∈ (afterVisit order v rest parents).known ↔
      id ∈ known ⟨order, v :: rest⟩ ∨ id ∈ parents := by
  rw [known_afterVisit, mem_known]
  simp only [List.mem_append, List.mem_cons, List.map_cons]
  tauto

theorem explores_start (index : ContractIndex) (source : ContractId) :
    Explores index source (start source) where
  nodup := List.nodup_nil
  head := rfl
  reachable := by
    intro id hid
    rw [List.mem_singleton.1 hid]
    exact Relation.ReflTransGen.refl
  closed := by
    intro id hid
    cases hid

/-- Passing over a visited contract keeps what has been found. -/
theorem Explores.pass (h : Explores index source ⟨order, v :: rest⟩) (hseen : v.id ∈ order) :
    Explores index source ⟨order, rest⟩ := by
  have hknown : ∀ id, id ∈ known ⟨order, v :: rest⟩ ↔ id ∈ known ⟨order, rest⟩ := by
    intro id
    rw [mem_known, mem_known, List.map_cons, List.mem_cons]
    constructor
    · rintro (hid | rfl | hid)
      · exact Or.inl hid
      · exact Or.inl hseen
      · exact Or.inr hid
    · rintro (hid | hid)
      · exact Or.inl hid
      · exact Or.inr (Or.inr hid)
  refine ⟨h.nodup, ?_, ?_, ?_⟩
  · -- The list of visited contracts is not empty, and its head stays.
    have hhead := h.head
    cases order with
    | nil => cases hseen
    | cons first others => exact hhead
  · intro id hid
    exact h.reachable id ((hknown id).2 hid)
  · intro id hid parent hparent
    exact (hknown parent).1 (h.closed id hid parent hparent)

/-- A visit keeps what has been found: its contract was known, and its parents are now. -/
theorem Explores.visit {parents : List ContractId}
    (h : Explores index source ⟨order, v :: rest⟩) (hnew : v.id ∉ order)
    (hvisit : index.visit root v = .ok parents) :
    Explores index source (afterVisit order v rest parents) := by
  have hv : index.Reachable source v.id :=
    h.reachable v.id (mem_known.2 (Or.inr List.mem_cons_self))
  refine ⟨?_, ?_, ?_, ?_⟩
  · rw [afterVisit, ← List.concat_eq_append]
    exact List.Nodup.concat hnew h.nodup
  · have hhead := h.head
    rw [known_afterVisit]
    cases order with
    | nil => exact hhead
    | cons first others => exact hhead
  · -- What was known is reachable, and a parent is one step further than the contract.
    intro id hid
    rcases mem_known_afterVisit.1 hid with hid | hid
    · exact h.reachable id hid
    · exact hv.tail ((ContractIndex.mem_parents_iff hvisit id).1 hid)
  · intro id hid parent hparent
    rw [mem_known_afterVisit]
    rcases List.mem_append.1 hid with hid | hid
    · exact Or.inl (h.closed id hid parent hparent)
    · rw [List.mem_singleton.1 hid] at hparent
      exact Or.inr ((ContractIndex.mem_parents_iff hvisit parent).2 hparent)

/-- A run that succeeds has found what its walk was to find, with nothing pending. -/
theorem Explores.run {walk : Walk} (h : Explores index source walk) {result : List ContractId}
    (hrun : walk.run index root = .ok result) : Explores index source ⟨result, []⟩ := by
  have hends := run_keeps index root (P := fun walk => Explores index source walk)
    (fun _ _ _ hseen h => h.pass hseen) (fun _ _ _ _ hnew hvisit h => h.visit hnew hvisit) walk h
  rwa [hrun] at hends

/-- With nothing pending, every reachable contract has been visited. -/
theorem Explores.mem_of_reachable {result : List ContractId}
    (h : Explores index source ⟨result, []⟩) {id : ContractId}
    (hid : index.Reachable source id) : id ∈ result := by
  have hknown : ∀ other, other ∈ known ⟨result, []⟩ ↔ other ∈ result := by
    simp [known]
  induction hid with
  | refl => exact (hknown source).1 (List.mem_of_mem_head? (Option.mem_def.2 h.head))
  | tail _ hparent ih => exact (hknown _).1 (h.closed _ ih _ hparent)

end Walk

namespace ContractIndex

/-- A closure that succeeds is what the walk from the contract finds. -/
theorem explores_of_closure {index : ContractIndex} {id : ContractId}
    {order : List ContractId} (h : index.closure id = .ok order) :
    Walk.Explores index id ⟨order, []⟩ := by
  rw [closure] at h
  cases hroot : index.require id with
  | error e =>
    rw [hroot] at h
    cases h
  | ok root =>
    rw [hroot] at h
    exact (Walk.explores_start index id).run h

theorem nodup_of_closure {index : ContractIndex} {id : ContractId} {order : List ContractId}
    (h : index.closure id = .ok order) : order.Nodup :=
  (explores_of_closure h).nodup

theorem head?_of_closure {index : ContractIndex} {id : ContractId} {order : List ContractId}
    (h : index.closure id = .ok order) : order.head? = some id := by
  have hhead := (explores_of_closure h).head
  rwa [Walk.known, List.map_nil, List.append_nil] at hhead

theorem mem_iff_of_closure {index : ContractIndex} {id : ContractId} {order : List ContractId}
    (h : index.closure id = .ok order) (other : ContractId) :
    other ∈ order ↔ index.Reachable id other := by
  constructor
  · intro hmem
    exact (explores_of_closure h).reachable other (List.mem_append_left _ hmem)
  · exact (explores_of_closure h).mem_of_reachable

/-- The closure of a contract is the recursive walk from it, errors included. One that
succeeds starts with the contract, repeats nothing, and lists exactly the contracts that are
reachable through references to parents. -/
theorem closure_preorder (index : ContractIndex) (id : ContractId) :
    index.closure id = index.preorderClosure id ∧
      ∀ order, index.closure id = .ok order →
        order.head? = some id ∧ order.Nodup ∧
          ∀ other, other ∈ order ↔ index.Reachable id other :=
  ⟨closure_eq_preorderClosure index id, fun _ h =>
    ⟨head?_of_closure h, nodup_of_closure h, mem_iff_of_closure h⟩⟩

/-- Two ways up from `A` to `D`, one of them listed twice, and a way back. -/
def tangled : ContractIndex where
  entries := [
    { contract := { name := .global "A", parents := ["B", "C", "B", "A"] } },
    { contract := { name := .global "B", parents := ["D"] } },
    { contract := { name := .global "C", parents := ["D"] } },
    { contract := { name := .global "D", parents := ["A"] } }]
  distinct := by decide

theorem closure_preorder_tangled :
    tangled.preorderClosure ⟨0⟩ = .ok [⟨0⟩, ⟨1⟩, ⟨3⟩, ⟨2⟩] ∧ tangled.Reachable ⟨0⟩ ⟨2⟩ := by
  have hclosure : tangled.closure ⟨0⟩ = .ok [⟨0⟩, ⟨1⟩, ⟨3⟩, ⟨2⟩] := by cbv
  obtain ⟨hsame, hfound⟩ := closure_preorder tangled ⟨0⟩
  obtain ⟨-, -, hmem⟩ := hfound _ hclosure
  exact ⟨hsame.symm.trans hclosure, (hmem ⟨2⟩).1 (by decide)⟩

end ContractIndex

end ClassSynthesis
