import ClassSynthesis.Proofs.Synthesis.FreshName
import ClassSynthesis.Proofs.Synthesis.ReducedConstructor
import ClassSynthesis.Proofs.Synthesis.ReservedWord

/-!
# Parameter Names

Parameter names are made unique before reserved words are escaped. So no parameter is named by
a reserved word, and the names in a signature are distinct unless one member wishes for a
reserved word and another one for this word with an `@`
(`ConstructorPlans.parameters_distinct_iff`). Then both end up with the same name
(`ConstructorPlans.parameters_repeated`).

The names before escaping are those that a scope hands out for the wishes of the required members
in turn (`map_parameter_requiredFrom`).
-/

namespace ClassSynthesis

/-- The names that the required members wish for, in order. -/
def wishedNames (members : List PlannedMember) : List String :=
  (members.filter (·.plan.required)).map fun m => Identifier.lowerCamel m.name

theorem mem_wishedNames {members : List PlannedMember} {name : String} :
    name ∈ wishedNames members ↔
      ∃ m ∈ members, m.plan.required = true ∧ Identifier.lowerCamel m.name = name := by
  simp only [wishedNames, List.mem_map, List.mem_filter, and_assoc]

/-- Parameters are named by what the scope hands out, escaped. -/
theorem map_parameter_requiredFrom (position : Nat) (scope : NameScope)
    (members : List PlannedMember) :
    (requiredFrom position scope members).map (·.parameter) =
      (scope.pickAll (wishedNames members)).map Identifier.escape := by
  induction members generalizing position scope with
  | nil => rfl
  | cons m rest ih =>
    rw [requiredFrom, wishedNames, List.filter_cons]
    split
    · rw [List.map_cons, ih]
      rfl
    · exact ih (position + 1) scope

namespace ConstructorPlans

variable {members : List PlannedMember}

theorem map_name_parameters_primary (members : List PlannedMember) :
    (ofMembers members).primary.parameters.map Prod.snd =
      (NameScope.empty.pickAll (wishedNames members)).map Identifier.escape := by
  rw [parameters_primary, List.map_map, ← map_parameter_requiredFrom 0]
  rfl

/-- The parameters of every constructor are among those of the primary one, in order. -/
theorem parameters_sublist {plan : ConstructorPlan} (h : plan ∈ (ofMembers members).toList) :
    plan.parameters.Sublist (ofMembers members).primary.parameters := by
  rcases List.mem_cons.1 h with rfl | h
  · exact List.Sublist.refl _
  · rw [reduced_eq] at h
    split at h
    · rw [Option.toList_some, List.mem_singleton] at h
      rw [h, parameters_reducedPlan]
      exact List.filter_sublist
    · cases h

/-- No parameter of a constructor is named by a reserved word. -/
theorem not_reserved_of_mem_parameters {plan : ConstructorPlan}
    (hplan : plan ∈ (ofMembers members).toList) {p : Nat × String} (hp : p ∈ plan.parameters) :
    p.2 ∉ Identifier.reservedWords := by
  have hname : p.2 ∈ (ofMembers members).primary.parameters.map Prod.snd :=
    List.mem_map_of_mem ((parameters_sublist hplan).subset hp)
  rw [map_name_parameters_primary] at hname
  obtain ⟨name, -, heq⟩ := List.mem_map.1 hname
  rw [← heq]
  exact Identifier.escape_not_mem name

/-- A reserved word, with or without an `@`, is handed out exactly when it is wished for. -/
theorem mem_pickAll_iff_of_reserved {word : String} (h : word ∈ Identifier.reservedWords)
    (wishes : List String) :
    (word ∈ NameScope.empty.pickAll wishes ↔ word ∈ wishes) ∧
      ("@" ++ word ∈ NameScope.empty.pickAll wishes ↔ "@" ++ word ∈ wishes) := by
  have hdigit := Identifier.isDigit_of_mem_reservedWords h
  refine ⟨NameScope.mem_pickAll_iff rfl hdigit, NameScope.mem_pickAll_iff rfl ?_⟩
  simpa using hdigit

/-- The names of the primary constructor's parameters are distinct exactly when no reserved word
is wished for together with the same word with an `@`. -/
theorem nodup_parameters_primary_iff :
    ((ofMembers members).primary.parameters.map Prod.snd).Nodup ↔
      ∀ word ∈ wishedNames members, word ∈ Identifier.reservedWords →
        "@" ++ word ∉ wishedNames members := by
  rw [map_name_parameters_primary, Identifier.nodup_map_escape_iff (NameScope.nodup_pickAll _ _)]
  -- The names handed out are not the wishes, but they agree on reserved words with or without `@`.
  refine forall_congr' fun word => ?_
  by_cases hreserved : word ∈ Identifier.reservedWords
  · obtain ⟨hword, hat⟩ := mem_pickAll_iff_of_reserved hreserved (wishedNames members)
    rw [hword, hat]
  · simp [hreserved]

/-- No parameter of a constructor is named by a reserved word. The names within each constructor
are distinct exactly when no required member wishes for a reserved word that is, with an `@` in
front, the name of a required member. -/
theorem parameters_distinct_iff (members : List PlannedMember) :
    (∀ plan ∈ (ofMembers members).toList, ∀ p ∈ plan.parameters,
      p.2 ∉ Identifier.reservedWords) ∧
    ((∀ plan ∈ (ofMembers members).toList, (plan.parameters.map Prod.snd).Nodup) ↔
      ∀ m ∈ members, ∀ other ∈ members, m.plan.required = true → other.plan.required = true →
        Identifier.lowerCamel m.name ∈ Identifier.reservedWords →
          other.name ≠ "@" ++ Identifier.lowerCamel m.name) := by
  constructor
  · intro plan hplan p hp
    exact not_reserved_of_mem_parameters hplan hp
  · -- The primary constructor decides, as it has the parameters of every other one.
    have hall : (∀ plan ∈ (ofMembers members).toList, (plan.parameters.map Prod.snd).Nodup) ↔
        ((ofMembers members).primary.parameters.map Prod.snd).Nodup := by
      constructor
      · intro h
        exact h _ List.mem_cons_self
      · intro h plan hplan
        exact h.sublist ((parameters_sublist hplan).map _)
    rw [hall, nodup_parameters_primary_iff]
    constructor
    · intro h m hm other hother hrequired hrequired' hreserved hname
      have hat := Identifier.lowerCamel_eq_at_append_iff.2 hname
      exact h _ (mem_wishedNames.2 ⟨m, hm, hrequired, rfl⟩) hreserved
        (mem_wishedNames.2 ⟨other, hother, hrequired', hat⟩)
    · intro h word hword hreserved hat
      obtain ⟨m, hm, hrequired, rfl⟩ := mem_wishedNames.1 hword
      obtain ⟨other, hother, hrequired', hname⟩ := mem_wishedNames.1 hat
      exact h m hm other hother hrequired hrequired' hreserved
        (Identifier.lowerCamel_eq_at_append_iff.1 hname)

/-- Two members that end up with one parameter name. -/
theorem parameters_repeated :
    ∃ plan ∈ (ofMembers
      [⟨"Class", { required := true }⟩, ⟨"@class", { required := true }⟩]).toList,
      plan.parameters.map Prod.snd = ["@class", "@class"] ∧
        ¬ (plan.parameters.map Prod.snd).Nodup := by
  refine ⟨_, List.mem_cons_self, ?_⟩
  decide +kernel

end ConstructorPlans

end ClassSynthesis
