import ClassSynthesis.Proofs.Contract.ParentChain
import ClassSynthesis.Proofs.Contract.Registered

/-!
# The Errors of a Closure

An error of a closure tells the truth about the model (`ContractIndex.Justifies`): it names a
reachable contract with the fault that it reports, or there is a chain of parents that is too
long. No fault of a reachable contract is missed either, whatever the order in which the walk
meets contracts. So where no chain is too long, the closure succeeds exactly when every
reachable contract is sound (`ContractIndex.exists_closure_iff`), and the order in which parents
are listed does not matter.

## Main definitions

- `ContractIndex.Justifies`: an error says what is the case.
- `ContractIndex.IsFaulty`: a contract that no closure may contain.
- `ContractIndex.SameUpToParentOrder`: two indexes that differ in the order of parents.
-/

namespace ClassSynthesis

theorem Contract.isInterface_iff (c : Contract) :
    c.isInterface = true ↔ c.kind = .interfaceType := by
  rw [isInterface, beq_iff_eq]

/-- Two contracts that differ at most in the order in which they list their parents, and in what
a closure does not read. -/
structure Contract.SameUpToParentOrder (c d : Contract) : Prop where
  name : c.name = d.name
  kind : c.kind = d.kind
  parents : c.parents.Perm d.parents

namespace ContractIndex

/-- An error that a closure reports says what is the case: what it names is reachable and has
the fault reported, and a chain that is said to be too long goes one step beyond the limit. -/
inductive Justifies (index : ContractIndex) (id : ContractId) : ModelError → Prop
  /-- The contract itself is not registered. -/
  | unknownContract : index.contract? id = none → Justifies index id (.unknownContract id)
  /-- A reachable interface lists a parent that the index does not have. -/
  | unknownParent {owner : ContractId} {c : Contract} {reference : String} :
    index.Reachable id owner → index.contract? owner = some c → c.kind = .interfaceType →
      reference ∈ c.parents → index.lookup reference = none →
      Justifies index id (.unknownParent c.name.qualified reference)
  /-- A reachable contract is no interface. -/
  | unexpectedKind {owner : ContractId} {c : Contract} :
    index.Reachable id owner → index.contract? owner = some c → c.kind ≠ .interfaceType →
      Justifies index id (.unexpectedKind c.name.qualified c.kind)
  /-- Some chain of parents is too long. -/
  | inheritanceTooDeep {chain : List ContractId} :
    index.IsParentChain id chain → chain.length = maxInheritanceDepth + 2 →
      Justifies index id (.inheritanceTooDeep (index.displayName id) maxInheritanceDepth)

/-- A contract that no closure may contain: it is no interface, or it lists a parent that the
index does not have. -/
def IsFaulty (index : ContractIndex) (id : ContractId) : Prop :=
  ∃ c, index.contract? id = some c ∧
    (c.kind ≠ .interfaceType ∨ ∃ reference ∈ c.parents, index.lookup reference = none)

variable {index : ContractIndex} {id : ContractId} {c : Contract}

/-- A chain of parents from a registered contract has at most as many contracts as the index. -/
theorem IsParentChain.length_le_size (hc : index.contract? id = some c) {chain : List ContractId}
    (h : index.IsParentChain id chain) : chain.length ≤ index.size := by
  have hids : ∀ other ∈ chain, other ∈ index.ids := by
    intro other hother
    obtain ⟨d, hd⟩ := registered_of_reachable hc (h.reachable hother)
    obtain ⟨r, hr, -⟩ := contract?_eq_some_iff.1 hd
    exact mem_ids.2 ⟨r, hr⟩
  calc chain.length ≤ index.ids.length := h.nodup.length_le_of_subset hids
    _ = index.size := by rw [ids, List.length_map, List.length_range]

/-- A closure that fails has failed at a contract that is reachable and has not been visited,
and there is a way to this contract. -/
theorem exists_failing_visit (hc : index.contract? id = some c) {e : ModelError}
    (h : index.closure id = .error e) :
    ∃ order v trail, index.Reachable id v.id ∧ v.id ∉ order ∧
      Walk.Trail index id order v trail ∧ index.visit c.name.qualified v = .error e := by
  -- What is pending is reachable, and there is a way to it: this holds up to the failing visit.
  have hends := Walk.run_keeps index c.name.qualified
    (P := fun walk => walk.Explores index id ∧ walk.HasTrails index id)
    (fun _ _ _ hseen ⟨hexplores, htrails⟩ => ⟨hexplores.pass hseen, htrails.pass⟩)
    (fun _ _ _ _ hnew hvisit ⟨hexplores, htrails⟩ =>
      ⟨hexplores.visit hnew hvisit, htrails.visit hnew hvisit⟩)
    (Walk.start id) ⟨Walk.explores_start index id, Walk.hasTrails_start index id⟩
  rw [← closure_eq_run hc, h] at hends
  obtain ⟨order, v, rest, ⟨hexplores, htrails⟩, hnew, hvisit⟩ := hends
  obtain ⟨trail, htrail⟩ := htrails v List.mem_cons_self
  have hv : index.Reachable id v.id :=
    hexplores.reachable v.id (Walk.mem_known.2 (Or.inr List.mem_cons_self))
  exact ⟨order, v, trail, hv, hnew, htrail, hvisit⟩

/-- Every error of a closure says what is the case. -/
theorem justifies_of_closure_error {e : ModelError} (h : index.closure id = .error e) :
    index.Justifies id e := by
  cases hc : index.contract? id with
  | none =>
    rw [closure_eq_error hc] at h
    cases h
    exact .unknownContract hc
  | some c =>
    obtain ⟨order, v, trail, hreachable, hnew, htrail, hvisit⟩ := exists_failing_visit hc h
    rcases cases_of_visit_error hvisit with
      ⟨hdepth, rfl⟩ | ⟨hnone, rfl⟩ | ⟨d, hd, ⟨hkind, rfl⟩ | ⟨hkind, reference, hreference, rfl⟩⟩
    · -- The way to the contract is the chain that is too long.
      obtain ⟨chain, hchain, hlength⟩ := htrail.exists_chain hnew hdepth
      rw [← displayName_of_contract? hc]
      exact .inheritanceTooDeep hchain hlength
    · -- Only the contract that the walk starts from can be unknown, and this one is registered.
      obtain ⟨d, hd⟩ := registered_of_reachable hc hreachable
      rw [hnone] at hd
      cases hd
    · refine .unexpectedKind hreachable hd fun heq => ?_
      rw [d.isInterface_iff.2 heq] at hkind
      cases hkind
    · obtain ⟨hmem, hlookup⟩ := mem_of_unresolvedParent? hreference
      exact .unknownParent hreachable hd (d.isInterface_iff.1 hkind) hmem hlookup

/-- A contract that passes its visit is not faulty. -/
theorem not_isFaulty_of_visit {root : String} {v : Visit} {parents : List ContractId}
    (h : index.visit root v = .ok parents) : ¬ index.IsFaulty v.id := by
  obtain ⟨-, c, hc, hkind, hparents, -⟩ := visit_eq_ok_iff.1 h
  rintro ⟨d, hd, hfault⟩
  rw [hc] at hd
  cases hd
  rcases hfault with hfault | ⟨reference, hreference, hlookup⟩
  · exact hfault (c.isInterface_iff.1 hkind)
  · exact unresolvedParent?_eq_none_iff.1 hparents reference hreference hlookup

/-- The contracts of a closure are not faulty. -/
theorem not_isFaulty_of_closure {order : List ContractId} (h : index.closure id = .ok order)
    {other : ContractId} (hother : other ∈ order) : ¬ index.IsFaulty other := by
  obtain ⟨c, hc⟩ := exists_contract_of_closure h
  -- Each of them has passed its visit.
  have hends := Walk.run_keeps index c.name.qualified
    (P := fun walk => ∀ other ∈ walk.order, ¬ index.IsFaulty other)
    (fun _ _ _ _ hsound => hsound) ?_ (Walk.start id) (by simp [Walk.start])
  · rw [← closure_eq_run hc, h] at hends
    exact hends other hother
  · intro order v rest parents _ hvisit hsound other hother
    rcases List.mem_append.1 hother with hother | hother
    · exact hsound other hother
    · rw [List.mem_singleton.1 hother]
      exact not_isFaulty_of_visit hvisit

/-- A faulty contract that is reachable makes the closure fail. -/
theorem exists_error_of_isFaulty {owner : ContractId} (hreachable : index.Reachable id owner)
    (hfaulty : index.IsFaulty owner) : ∃ e, index.closure id = .error e := by
  cases h : index.closure id with
  | error e => exact ⟨e, rfl⟩
  | ok order =>
    exact absurd hfaulty (not_isFaulty_of_closure h ((mem_iff_of_closure h owner).2 hreachable))

/-- An error that says what is the case comes from a contract that is not registered, from a
faulty contract or from a chain that is too long. -/
theorem Justifies.cause {e : ModelError} (h : index.Justifies id e) :
    index.contract? id = none ∨ (∃ owner, index.Reachable id owner ∧ index.IsFaulty owner) ∨
      ∃ chain, index.IsParentChain id chain ∧ chain.length = maxInheritanceDepth + 2 := by
  cases h with
  | unknownContract hnone => exact Or.inl hnone
  | unknownParent hreachable hc _ hmem hlookup =>
    exact Or.inr (Or.inl ⟨_, hreachable, _, hc, Or.inr ⟨_, hmem, hlookup⟩⟩)
  | unexpectedKind hreachable hc hkind =>
    exact Or.inr (Or.inl ⟨_, hreachable, _, hc, Or.inl hkind⟩)
  | inheritanceTooDeep hchain hlength => exact Or.inr (Or.inr ⟨_, hchain, hlength⟩)

/-- Where no chain of parents is too long, the closure succeeds exactly when the contract is
registered and nothing reachable is faulty. -/
theorem exists_closure_iff
    (hshort : ∀ chain, index.IsParentChain id chain → chain.length ≤ maxInheritanceDepth + 1) :
    (∃ order, index.closure id = .ok order) ↔
      (∃ c, index.contract? id = some c) ∧
        ∀ owner, index.Reachable id owner → ¬ index.IsFaulty owner := by
  cases h : index.closure id with
  | ok order =>
    refine iff_of_true ⟨order, rfl⟩ ⟨exists_contract_of_closure h, fun owner hreachable => ?_⟩
    exact not_isFaulty_of_closure h ((mem_iff_of_closure h owner).2 hreachable)
  | error e =>
    refine iff_of_false (by simp) ?_
    rintro ⟨⟨c, hc⟩, hsound⟩
    rcases (justifies_of_closure_error h).cause with hnone | ⟨owner, hreachable, hfaulty⟩ | hlong
    · rw [hc] at hnone
      cases hnone
    · exact hsound owner hreachable hfaulty
    · obtain ⟨chain, hchain, hlength⟩ := hlong
      have := hshort chain hchain
      omega

/-! ## The order of parents -/

/-- The contracts of two indexes are the same up to the order of their parents. -/
def SameUpToParentOrder (index other : ContractIndex) : Prop :=
  ∀ id, Option.Rel Contract.SameUpToParentOrder (index.contract? id) (other.contract? id)

namespace SameUpToParentOrder

variable {other : ContractIndex}

/-- It is enough that the entries agree one by one. -/
theorem of_forall₂ (h : List.Forall₂ (fun r s => Contract.SameUpToParentOrder r.contract s.contract)
    index.entries other.entries) : index.SameUpToParentOrder other := by
  intro id
  obtain ⟨hlength, hentries⟩ := List.forall₂_iff_get.1 h
  rw [ContractIndex.contract?, ContractIndex.contract?]
  by_cases hid : id.index < index.entries.length
  · rw [List.getElem?_eq_getElem hid, List.getElem?_eq_getElem (hlength ▸ hid)]
    exact .some (hentries id.index hid (hlength ▸ hid))
  · rw [List.getElem?_eq_none (Nat.le_of_not_lt hid),
      List.getElem?_eq_none (hlength ▸ Nat.le_of_not_lt hid)]
    exact .none

theorem symm (h : index.SameUpToParentOrder other) : other.SameUpToParentOrder index := fun id =>
  match index.contract? id, other.contract? id, h id with
  | _, _, .some hcd => .some ⟨hcd.name.symm, hcd.kind.symm, hcd.parents.symm⟩
  | _, _, .none => .none

theorem contract? (h : index.SameUpToParentOrder other) (hc : index.contract? id = some c) :
    ∃ d, other.contract? id = some d ∧ c.SameUpToParentOrder d := by
  have hid : Option.Rel Contract.SameUpToParentOrder (some c) (other.contract? id) := hc ▸ h id
  generalize other.contract? id = found at hid ⊢
  cases hid with
  | some hcd => exact ⟨_, rfl, hcd⟩

theorem lookup_eq_some (h : index.SameUpToParentOrder other) {name : String}
    (hlookup : index.lookup name = some id) : other.lookup name = some id := by
  obtain ⟨c, hc, hname⟩ := lookup_eq_some_iff_contract?.1 hlookup
  obtain ⟨d, hd, hcd⟩ := h.contract? hc
  exact lookup_eq_some_iff_contract?.2 ⟨d, hd, by rw [← hcd.name, hname]⟩

theorem lookup_eq (h : index.SameUpToParentOrder other) (name : String) :
    other.lookup name = index.lookup name :=
  Option.ext fun _ => ⟨h.symm.lookup_eq_some, h.lookup_eq_some⟩

theorem isParent (h : index.SameUpToParentOrder other) {child parent : ContractId}
    (hparent : index.IsParent child parent) : other.IsParent child parent := by
  obtain ⟨c, hc, name, hname, hlookup⟩ := hparent
  obtain ⟨d, hd, hcd⟩ := h.contract? hc
  exact ⟨d, hd, name, hcd.parents.mem_iff.1 hname, h.lookup_eq_some hlookup⟩

theorem isFaulty (h : index.SameUpToParentOrder other) (hfaulty : index.IsFaulty id) :
    other.IsFaulty id := by
  obtain ⟨c, hc, hfault⟩ := hfaulty
  obtain ⟨d, hd, hcd⟩ := h.contract? hc
  refine ⟨d, hd, ?_⟩
  rw [← hcd.kind]
  refine hfault.imp_right ?_
  rintro ⟨reference, hreference, hlookup⟩
  exact ⟨reference, hcd.parents.mem_iff.1 hreference, by rw [h.lookup_eq, hlookup]⟩

theorem reachable (h : index.SameUpToParentOrder other) {owner : ContractId}
    (hreachable : index.Reachable id owner) : other.Reachable id owner :=
  hreachable.lift (fun owner => owner) fun _ _ => h.isParent

theorem isParentChain (h : index.SameUpToParentOrder other) {chain : List ContractId}
    (hchain : index.IsParentChain id chain) : other.IsParentChain id chain :=
  { hchain with links := hchain.links.imp fun _ _ => h.isParent }

/-- Where no chain of parents is too long, the order of parents does not decide on success. -/
theorem exists_closure (h : index.SameUpToParentOrder other)
    (hshort : ∀ chain, index.IsParentChain id chain → chain.length ≤ maxInheritanceDepth + 1)
    (hclosure : ∃ order, index.closure id = .ok order) :
    ∃ order, other.closure id = .ok order := by
  obtain ⟨⟨c, hc⟩, hsound⟩ := (exists_closure_iff hshort).1 hclosure
  obtain ⟨d, hd, -⟩ := h.contract? hc
  refine (exists_closure_iff fun chain hchain => hshort chain (h.symm.isParentChain hchain)).2
    ⟨⟨d, hd⟩, fun owner hreachable hfaulty => ?_⟩
  exact hsound owner (h.symm.reachable hreachable) (h.symm.isFaulty hfaulty)

end SameUpToParentOrder

/-- Errors of a closure are sound and complete. Every error says what is the case, and a contract
is reported as unknown exactly when it is not registered. A reachable contract that is no
interface or lists a missing parent makes the closure fail. Where no chain of distinct contracts
goes more than the limit of steps up from a registered contract, nothing else does, so that
success does not depend on the order in which contracts list their parents. -/
theorem closure_errors (index : ContractIndex) (id : ContractId) :
    (∀ e, index.closure id = .error e → index.Justifies id e) ∧
    ((∃ unknown, index.closure id = .error (.unknownContract unknown)) ↔
      index.contract? id = none) ∧
    (∀ owner, index.Reachable id owner → index.IsFaulty owner →
      ∃ e, index.closure id = .error e) ∧
    ((∀ chain, index.IsParentChain id chain → chain.length ≤ maxInheritanceDepth + 1) →
      (∀ c e, index.contract? id = some c → index.closure id = .error e →
        ∃ owner, index.Reachable id owner ∧ index.IsFaulty owner) ∧
      ∀ other : ContractIndex, index.SameUpToParentOrder other →
        ((∃ order, index.closure id = .ok order) ↔ ∃ order, other.closure id = .ok order)) := by
  refine ⟨fun e => justifies_of_closure_error, ⟨?_, ?_⟩, ?_, fun hshort => ⟨?_, ?_⟩⟩
  · rintro ⟨unknown, h⟩
    cases justifies_of_closure_error h with
    | unknownContract hnone => exact hnone
  · intro hnone
    exact ⟨id, closure_eq_error hnone⟩
  · intro owner hreachable hfaulty
    exact exists_error_of_isFaulty hreachable hfaulty
  · intro c e hc h
    -- If nothing reachable were faulty, there would be a closure and no error.
    by_contra hsound
    push Not at hsound
    obtain ⟨order, hok⟩ := (exists_closure_iff hshort).2 ⟨⟨c, hc⟩, hsound⟩
    rw [h] at hok
    cases hok
  · intro other hsame
    refine ⟨hsame.exists_closure hshort, hsame.symm.exists_closure ?_⟩
    exact fun chain hchain => hshort chain (hsame.symm.isParentChain hchain)

/-- The contracts of `tangled` with their parents in another order. -/
def retangled : ContractIndex where
  entries := [
    { contract := { name := .global "A", parents := ["A", "C", "B", "B"] } },
    { contract := { name := .global "B", parents := ["D"] } },
    { contract := { name := .global "C", parents := ["D"] } },
    { contract := { name := .global "D", parents := ["A"] } }]
  distinct := by decide

/-- A way from `IShape` to `ILabel`, which lists a parent that is missing. -/
def unlabelled : ContractIndex where
  entries := [
    { contract := { name := .global "IShape", parents := ["IDrawn", "IShape"] } },
    { contract := { name := .global "IDrawn", parents := ["ILabel"] } },
    { contract := { name := .global "ILabel", parents := ["IShape", "IText"] } }]
  distinct := by decide

theorem closure_errors_reordered :
    (∃ order, retangled.closure ⟨0⟩ = .ok order) ∧
      ∃ e, unlabelled.closure ⟨0⟩ = .error e ∧ unlabelled.Justifies ⟨0⟩ e := by
  constructor
  · have hclosure : tangled.closure ⟨0⟩ = .ok [⟨0⟩, ⟨1⟩, ⟨3⟩, ⟨2⟩] := by cbv
    -- There are fewer contracts than a chain that is too long would have.
    have hshort : ∀ chain, tangled.IsParentChain ⟨0⟩ chain →
        chain.length ≤ maxInheritanceDepth + 1 :=
      fun chain hchain => (hchain.length_le_size rfl).trans (by decide)
    have hsame : tangled.SameUpToParentOrder retangled :=
      .of_forall₂ (.cons ⟨rfl, rfl, by decide⟩ (.cons ⟨rfl, rfl, by decide⟩
        (.cons ⟨rfl, rfl, by decide⟩ (.cons ⟨rfl, rfl, by decide⟩ .nil))))
    obtain ⟨-, -, -, hcomplete⟩ := closure_errors tangled ⟨0⟩
    exact ((hcomplete hshort).2 retangled hsame).1 ⟨_, hclosure⟩
  · obtain ⟨hsound, -, hfails, -⟩ := closure_errors unlabelled ⟨0⟩
    have hdrawn : unlabelled.IsParent ⟨0⟩ ⟨1⟩ := ⟨_, rfl, "IDrawn", by decide, by decide⟩
    have hlabel : unlabelled.IsParent ⟨1⟩ ⟨2⟩ := ⟨_, rfl, "ILabel", by decide, by decide⟩
    have hfaulty : unlabelled.IsFaulty ⟨2⟩ :=
      ⟨_, rfl, Or.inr ⟨"IText", by decide, by decide⟩⟩
    obtain ⟨e, he⟩ := hfails ⟨2⟩ ((Relation.ReflTransGen.single hdrawn).tail hlabel) hfaulty
    exact ⟨e, he, hsound e he⟩

end ContractIndex

end ClassSynthesis
