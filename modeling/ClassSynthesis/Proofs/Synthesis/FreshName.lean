import ClassSynthesis.Proofs.Synthesis.NameScope
import ClassSynthesis.Synthesis.SynthesizedClass

/-!
# Fresh Names

A scope never hands out a name that is in use (`NameScope.isUsed_pick`). The names that it hands
out for several wishes in turn (`NameScope.pickAll`) are distinct and free, and a wish that is free
is among them.

Backing fields are named by a scope in which `value`, the class name and the names of the
ordinary members are in use (`isUsed_fieldScope_iff`). So inside an accessor no field is taken
for the incoming value (`backingField_ne_value`).
-/

namespace ClassSynthesis

namespace NameScope

variable {scope : NameScope} {wishes : List String} {name : String}

/-- The names handed out for several wishes in turn. -/
def pickAll (scope : NameScope) : List String → List String
  | [] => []
  | wish :: rest => scope.pick wish :: (scope.reserve (scope.pick wish)).pickAll rest

/-- They are what calls return that do nothing but allocate. -/
theorem pickAll_eq_returned (scope : NameScope) (wishes : List String) :
    scope.pickAll wishes = scope.returned (wishes.map .allocate) := by
  induction wishes generalizing scope with
  | nil => rfl
  | cons wish rest ih =>
    rw [pickAll, ih]
    rfl

/-- The names handed out are free. -/
theorem isUsed_of_mem_pickAll (h : name ∈ scope.pickAll wishes) : scope.isUsed name = false := by
  rw [pickAll_eq_returned] at h
  exact isUsed_of_mem_returned h

/-- No name is handed out twice. -/
theorem nodup_pickAll (scope : NameScope) (wishes : List String) :
    (scope.pickAll wishes).Nodup := by
  rw [pickAll_eq_returned]
  exact nodup_returned _ _

/-- A wish that is free is handed out, to the first that has it or to someone before. -/
theorem mem_pickAll_of_mem (hmem : name ∈ wishes) (hfree : scope.isUsed name = false) :
    name ∈ scope.pickAll wishes := by
  induction wishes generalizing scope with
  | nil => cases hmem
  | cons wish rest ih =>
    rw [pickAll, List.mem_cons]
    by_cases hpick : name = scope.pick wish
    · exact Or.inl hpick
    · rcases List.mem_cons.1 hmem with rfl | hmem
      -- A free wish is handed out as it is.
      · exact absurd (pick_of_not_isUsed hfree).symm hpick
      · exact Or.inr (ih hmem (by simp [hpick, hfree]))

/-- A name handed out is a wish or a wish with a suffix. -/
theorem mem_or_suffixed_of_mem_pickAll (h : name ∈ scope.pickAll wishes) :
    name ∈ wishes ∨ ∃ wish n, name = suffixed wish n := by
  induction wishes generalizing scope with
  | nil => cases h
  | cons wish rest ih =>
    rcases List.mem_cons.1 h with rfl | h
    · rw [pick]
      split
      · exact Or.inr ⟨wish, _, rfl⟩
      · exact Or.inl List.mem_cons_self
    · exact (ih h).imp_left (List.mem_cons_of_mem _)

/-- A suffixed name has a digit. -/
theorem exists_isDigit_suffixed (base : String) (n : Nat) :
    ∃ c ∈ (suffixed base n).toList, c.isDigit = true := by
  obtain ⟨c, hc⟩ := List.exists_mem_of_ne_nil _ (Decimal.toList_toString_ne_nil n)
  refine ⟨c, ?_, Decimal.isDigit_of_mem_toString hc⟩
  rw [suffixed, String.toList_append, List.mem_append]
  exact Or.inr hc

/-- A free name without digits is handed out exactly when it is wished for. -/
theorem mem_pickAll_iff (hfree : scope.isUsed name = false)
    (hdigit : ∀ c ∈ name.toList, c.isDigit = false) :
    name ∈ scope.pickAll wishes ↔ name ∈ wishes := by
  refine ⟨fun h => ?_, fun h => mem_pickAll_of_mem h hfree⟩
  -- It has no digits, so it does not come from another wish by a suffix.
  rcases mem_or_suffixed_of_mem_pickAll h with hmem | ⟨wish, n, rfl⟩
  · exact hmem
  · obtain ⟨c, hc, hc'⟩ := exists_isDigit_suffixed wish n
    rw [hdigit c hc] at hc'
    cases hc'

end NameScope

/-- Escaping a name leaves it as it is or puts an `@` in front. -/
theorem Identifier.escape_eq (name : String) :
    Identifier.escape name = name ∨ Identifier.escape name = "@" ++ name := by
  rw [escape]
  split
  · exact Or.inr rfl
  · exact Or.inl rfl

/-- Escaping does not make a name `value`. -/
theorem Identifier.escape_ne_value {name : String} (h : name ≠ "value") :
    Identifier.escape name ≠ "value" := by
  rcases escape_eq name with hname | hname <;> rw [hname]
  · exact h
  · intro heq
    simpa using congrArg String.toList heq

/-- Where `value` is in use, no backing field gets that name. -/
theorem field_ne_value {className : String} {scope : NameScope}
    (hscope : scope.isUsed "value" = true) {members : List ResolvedMember} :
    ∀ m ∈ assignFields className scope members, m.backingField ≠ some "value" := by
  induction members generalizing scope with
  | nil => simp [assignFields]
  | cons first rest ih =>
    intro m hm
    rw [assignFields] at hm
    split at hm
    · rcases List.mem_cons.1 hm with rfl | hm
      · have hpick : scope.pick (Identifier.lowerCamel first.name) ≠ "value" :=
          NameScope.pick_ne_of_isUsed hscope
        simpa [NameScope.allocate] using Identifier.escape_ne_value hpick
      · exact ih (by simp [hscope]) m hm
    · rcases List.mem_cons.1 hm with rfl | hm
      · simp
      · exact ih hscope m hm

/-- Reserving the names of members puts these in use and nothing else. -/
private theorem isUsed_foldl_reserve_iff {scope : NameScope} {members : List ResolvedMember}
    {name : String} :
    (members.foldl (fun scope m => scope.reserve m.name) scope).isUsed name = true ↔
      name ∈ members.map (·.name) ∨ scope.isUsed name = true := by
  induction members generalizing scope with
  | nil => simp
  | cons m rest ih =>
    rw [List.foldl_cons, ih, List.map_cons, List.mem_cons, NameScope.isUsed_reserve,
      Bool.or_eq_true, beq_iff_eq]
    tauto

/-- The names that no backing field may have: `value`, the class name, and the names of the
members without a field. -/
theorem isUsed_fieldScope_iff {members : List ResolvedMember} {className name : String} :
    (fieldScope members className).isUsed name = true ↔
      name = "value" ∨
        name ∈ className :: (members.filter (!·.needsField className)).map (·.name) := by
  have hempty : NameScope.empty.isUsed name = false := rfl
  rw [fieldScope, isUsed_foldl_reserve_iff, NameScope.isUsed_reserve, NameScope.isUsed_reserve,
    hempty, List.mem_cons]
  simp only [Bool.or_eq_true, beq_iff_eq]
  tauto

theorem isUsed_value_fieldScope (members : List ResolvedMember) (className : String) :
    (fieldScope members className).isUsed "value" = true :=
  isUsed_fieldScope_iff.2 (Or.inl rfl)

/-- No backing field of a synthesized class is named `value`. -/
theorem SynthesizedClass.backingField_ne_value (contract : Contract) (resolution : Resolution)
    (className : String) :
    ∀ m ∈ (ofResolution contract resolution className).members,
      m.backingField ≠ some "value" :=
  field_ne_value (isUsed_value_fieldScope ..)

end ClassSynthesis
