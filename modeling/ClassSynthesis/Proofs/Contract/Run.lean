import ClassSynthesis.Contract.Closure

/-!
# Running a Walk

The equations of a run, one for each thing its next visit can be, and the induction that
goes with them: nothing is pending, the next contract has been visited, or it is visited
now. Statements about whole runs are proved by `Walk.induct` and rewrite with `Walk.run_nil`,
`Walk.run_seen` and `Walk.run_visit`.
-/

namespace ClassSynthesis

/-- A missing parent that is found is listed, and the index does not have it. -/
theorem ContractIndex.mem_of_unresolvedParent? {index : ContractIndex} {c : Contract}
    {reference : String} (h : index.unresolvedParent? c = some reference) :
    reference ∈ c.parents ∧ index.lookup reference = none := by
  rw [unresolvedParent?] at h
  exact ⟨List.mem_reverse.1 (List.mem_of_find?_eq_some h), by simpa using List.find?_some h⟩

/-- No parent is missing when the index has all that are listed. -/
theorem ContractIndex.unresolvedParent?_eq_none_iff {index : ContractIndex} {c : Contract} :
    index.unresolvedParent? c = none ↔ ∀ reference ∈ c.parents, index.lookup reference ≠ none := by
  simp [unresolvedParent?, List.find?_eq_none]

/-- What a first visit needs to go on, and what it goes on with. -/
theorem ContractIndex.visit_eq_ok_iff {index : ContractIndex} {root : String} {v : Visit}
    {parents : List ContractId} :
    index.visit root v = .ok parents ↔
      v.depth ≤ maxInheritanceDepth ∧ ∃ c, index.contract? v.id = some c ∧
        c.isInterface = true ∧ index.unresolvedParent? c = none ∧
          parents = index.parentIds c := by
  constructor
  · -- A visit that succeeds has passed every check on its way.
    intro h
    rw [visit] at h
    split at h
    · cases h
    next hdepth =>
      refine ⟨Nat.le_of_not_gt hdepth, ?_⟩
      split at h
      · cases h
      next c hc =>
        split at h
        · cases h
        next hkind =>
          split at h
          · cases h
          next hparent =>
            cases h
            exact ⟨c, hc, by simpa using hkind, hparent, rfl⟩
  · rintro ⟨hdepth, c, hc, hkind, hparent, rfl⟩
    rw [visit, if_neg (Nat.not_lt.2 hdepth), hc]
    simp only [hkind, hparent, Bool.not_true, Bool.false_eq_true, if_false]

/-- What a first visit fails with: a chain that is too long, an identity that is not registered,
a declaration that is no interface, or a parent that is missing. -/
theorem ContractIndex.cases_of_visit_error {index : ContractIndex} {root : String} {v : Visit}
    {e : ModelError} (h : index.visit root v = .error e) :
    (maxInheritanceDepth < v.depth ∧ e = .inheritanceTooDeep root maxInheritanceDepth) ∨
      (index.contract? v.id = none ∧ e = .unknownContract v.id) ∨
        ∃ c, index.contract? v.id = some c ∧
          ((c.isInterface = false ∧ e = .unexpectedKind c.name.qualified c.kind) ∨
            (c.isInterface = true ∧ ∃ reference, index.unresolvedParent? c = some reference ∧
              e = .unknownParent c.name.qualified reference)) := by
  rw [visit] at h
  split at h
  next hdepth =>
    cases h
    exact Or.inl ⟨hdepth, rfl⟩
  · right
    split at h
    next hnone =>
      cases h
      exact Or.inl ⟨hnone, rfl⟩
    next c hc =>
      refine Or.inr ⟨c, hc, ?_⟩
      split at h
      next hkind =>
        cases h
        exact Or.inl ⟨by simpa using hkind, rfl⟩
      next hkind =>
        right
        split at h
        next reference hreference =>
          cases h
          exact ⟨by simpa using hkind, reference, hreference, rfl⟩
        · cases h

namespace Walk

variable {index : ContractIndex} {root : String} {order : List ContractId} {v : Visit}
  {rest : List Visit}

/-- The walk after a first visit: the contract is appended, and its parents go in front. -/
def afterVisit (order : List ContractId) (v : Visit) (rest : List Visit)
    (parents : List ContractId) : Walk :=
  ⟨order ++ [v.id], parents.map (⟨·, v.depth + 1⟩) ++ rest⟩

theorem step_seen (h : v.id ∈ order) :
    (Walk.mk order (v :: rest)).step index root = .continues ⟨order, rest⟩ := by
  simp [step, h]

theorem step_error {e : ModelError} (h : v.id ∉ order) (hvisit : index.visit root v = .error e) :
    (Walk.mk order (v :: rest)).step index root = .failed e := by
  simp [step, h, hvisit]

theorem step_ok {parents : List ContractId} (h : v.id ∉ order)
    (hvisit : index.visit root v = .ok parents) :
    (Walk.mk order (v :: rest)).step index root =
      .continues (afterVisit order v rest parents) := by
  simp [step, h, hvisit, afterVisit]

/-- A run takes the next step and goes on from there. -/
theorem run_eq (index : ContractIndex) (root : String) (walk : Walk) :
    walk.run index root =
      match walk.step index root with
      | .finished order => .ok order
      | .failed error => .error error
      | .continues next => next.run index root := by
  rw [run]
  split <;> simp_all only

/-- With nothing pending, the contracts visited are the result. -/
theorem run_nil (index : ContractIndex) (root : String) (order : List ContractId) :
    (Walk.mk order []).run index root = .ok order := by
  rw [run_eq]
  rfl

/-- A contract visited before is passed over. -/
theorem run_seen (h : v.id ∈ order) :
    (Walk.mk order (v :: rest)).run index root = (Walk.mk order rest).run index root := by
  rw [run_eq, step_seen h]

/-- A contract met for the first time is visited; an error ends the run. -/
theorem run_visit (h : v.id ∉ order) :
    (Walk.mk order (v :: rest)).run index root =
      (index.visit root v).bind fun parents =>
        (afterVisit order v rest parents).run index root := by
  rw [run_eq]
  cases hvisit : index.visit root v with
  | error e =>
    rw [step_error h hvisit]
    rfl
  | ok parents =>
    rw [step_ok h hvisit]
    rfl

/-- Induction along the steps of a run. -/
private theorem step_induction (index : ContractIndex) (root : String) {motive : Walk → Prop}
    (h : ∀ walk, (∀ next, walk.step index root = .continues next → motive next) → motive walk)
    (walk : Walk) : motive walk := by
  induction walk using Walk.run.induct index root with
  | case1 walk order hstep =>
    refine h walk fun next hnext => ?_
    rw [hstep] at hnext
    cases hnext
  | case2 walk error hstep =>
    refine h walk fun next hnext => ?_
    rw [hstep] at hnext
    cases hnext
  | case3 walk next hstep ih =>
    refine h walk fun next' hnext => ?_
    rw [hstep] at hnext
    cases hnext
    exact ih

/-- Induction along a run, by what is pending. In the last case the statement may be used
for the walk after the visit, provided the visit succeeds. -/
theorem induct (index : ContractIndex) (root : String) {motive : Walk → Prop}
    (nil : ∀ order, motive ⟨order, []⟩)
    (seen : ∀ order v rest, v.id ∈ order → motive ⟨order, rest⟩ → motive ⟨order, v :: rest⟩)
    (visit : ∀ order v rest, v.id ∉ order →
      (∀ parents, index.visit root v = .ok parents →
        motive (afterVisit order v rest parents)) →
      motive ⟨order, v :: rest⟩)
    (walk : Walk) : motive walk := by
  induction walk using step_induction index root with
  | h walk ih =>
    obtain ⟨order, _ | ⟨v, rest⟩⟩ := walk
    · exact nil order
    · by_cases h : v.id ∈ order
      · exact seen order v rest h (ih _ (step_seen h))
      · exact visit order v rest h fun parents hvisit => ih _ (step_ok h hvisit)

/-- What every step of a walk keeps holds where the run ends: with nothing pending when it
succeeds, and before the visit that fails when it does not. -/
theorem run_keeps (index : ContractIndex) (root : String) {P : Walk → Prop}
    (pass : ∀ order v rest, v.id ∈ order → P ⟨order, v :: rest⟩ → P ⟨order, rest⟩)
    (visit : ∀ order v rest parents, v.id ∉ order → index.visit root v = .ok parents →
      P ⟨order, v :: rest⟩ → P (afterVisit order v rest parents))
    (walk : Walk) (h : P walk) :
    match walk.run index root with
    | .ok order => P ⟨order, []⟩
    | .error e => ∃ order v rest, P ⟨order, v :: rest⟩ ∧ v.id ∉ order ∧
        index.visit root v = .error e := by
  induction walk using induct index root with
  | nil order =>
    rw [run_nil]
    exact h
  | seen order v rest hseen ih =>
    rw [run_seen hseen]
    exact ih (pass order v rest hseen h)
  | visit order v rest hnew ih =>
    rw [run_visit hnew]
    cases hvisit : index.visit root v with
    | error e => exact ⟨order, v, rest, h, hnew, hvisit⟩
    | ok parents => exact ih parents hvisit (visit order v rest parents hnew hvisit h)

end Walk

end ClassSynthesis
