import ClassSynthesis.Proofs.Synthesis.Merge
import Mathlib.Order.Lattice

/-!
# What a Merged Member Gathers

A member is decided by the declarations of its key alone (`gathers_of_mem_merge`): the first of
them represents it, its accessors are the accessors of all of them together, and each contract
is an origin with the first declaration that it contributes. None of this depends on the
declarations of other keys.

Accessor sets are ordered by inclusion, where `AccessorSet.union` is the least upper bound.
-/

namespace ClassSynthesis

namespace AccessorSet

instance : Max AccessorSet := ⟨union⟩

/-- Accessor sets are ordered by inclusion. -/
instance : SemilatticeSup AccessorSet := SemilatticeSup.mk' union_comm union_assoc union_self

theorem union_eq_sup (a b : AccessorSet) : a.union b = a ⊔ b := rfl

/-- A set is below another one when the other one has its accessors. -/
theorem le_iff {a b : AccessorSet} :
    a ≤ b ↔ (a.get → b.get) ∧ (a.set → b.set) ∧ (a.init → b.init) := by
  rw [← sup_eq_right, ← union_eq_sup, union]
  obtain ⟨g, s, i⟩ := b
  simp only [mk.injEq, Bool.or_eq_right_iff_imp]

end AccessorSet

/-- The declarations of a key, in the order given. -/
def declarationsOf (key : MemberKey) (origins : List MemberOrigin) : List MemberOrigin :=
  origins.filter (·.key == key)

namespace MergedMember

/-- What a member gathers from declarations: the first one represents it, the accessors of all
make up its accessors, and each contract is an origin with its first declaration. -/
structure Gathers (declared : List MemberOrigin) (m : MergedMember) : Prop where
  first : declared.head? = some m.first
  accessors : ∀ a, m.accessors ≤ a ↔ ∀ o ∈ declared, o.member.accessors ≤ a
  origins : ∀ o, o ∈ m.origins ↔ declared.find? (·.contract == o.contract) = some o

theorem gathers_ofOrigin (o : MemberOrigin) : Gathers [o] (ofOrigin o) where
  first := rfl
  accessors := by simp [ofOrigin]
  origins := by
    intro p
    simp only [origins, ofOrigin, List.mem_singleton, List.find?_singleton]
    constructor
    · rintro rfl
      simp
    · intro h
      split at h
      · exact (Option.some.inj h).symm
      · simp at h

/-- Among what a member gathers, a contract declares something exactly when it is an origin. -/
theorem Gathers.hasOrigin_iff {declared : List MemberOrigin} {m : MergedMember}
    (h : m.Gathers declared) (contract : ContractId) :
    m.hasOrigin contract = true ↔ (declared.find? (·.contract == contract)).isSome := by
  rw [MergedMember.hasOrigin_iff, List.mem_map, Option.isSome_iff_exists]
  constructor
  · rintro ⟨o, ho, rfl⟩
    exact ⟨o, (h.origins o).1 ho⟩
  · rintro ⟨o, ho⟩
    have hcontract : o.contract = contract := by simpa using List.find?_some ho
    exact ⟨o, (h.origins o).2 (by rwa [hcontract]), hcontract⟩

/-- A member has the accessors of all its origins. -/
theorem Gathers.le_accessors {declared : List MemberOrigin} {m : MergedMember}
    (h : m.Gathers declared) {o : MemberOrigin} (ho : o ∈ m.origins) :
    o.member.accessors ≤ m.accessors :=
  (h.accessors m.accessors).1 le_rfl o (List.mem_of_find?_eq_some ((h.origins o).1 ho))

/-- A further declaration is gathered by taking it in. -/
theorem Gathers.absorb {declared : List MemberOrigin} {m : MergedMember}
    (h : m.Gathers declared) (o : MemberOrigin) : (m.absorb o).Gathers (declared ++ [o]) where
  first := by
    rw [List.head?_append, h.first]
    rfl
  accessors := by
    intro a
    show m.accessors ⊔ o.member.accessors ≤ a ↔ _
    rw [sup_le_iff, h.accessors]
    simp [or_imp, forall_and]
  origins := by
    intro p
    rw [origins_absorb, List.find?_append]
    by_cases hhas : m.hasOrigin o.contract = true
    · -- The contract of the new declaration is found earlier, so the new one never is.
      rw [if_pos hhas, h.origins]
      cases hfind : declared.find? (·.contract == p.contract) with
      | some q => simp
      | none =>
        have hne : o.contract ≠ p.contract := by
          intro heq
          rw [h.hasOrigin_iff, heq, hfind] at hhas
          simp at hhas
        simp [hne]
    · -- The contract is new, and so are the declaration and the origin.
      have hnone : declared.find? (·.contract == o.contract) = none := by
        rw [h.hasOrigin_iff] at hhas
        simpa using hhas
      rw [if_neg hhas, List.mem_append, List.mem_singleton, h.origins]
      by_cases heq : p.contract = o.contract
      · rw [heq, hnone]
        simp [eq_comm]
      · have hp : p ≠ o := fun hpo => heq (congrArg MemberOrigin.contract hpo)
        simp [hp, Ne.symm heq]

end MergedMember

/-- One more declaration joins the member of its key, or makes a new one; the other members
stay. -/
theorem mem_addOrigin {members : List MergedMember} {o : MemberOrigin} {m : MergedMember}
    (hnodup : (members.map MergedMember.key).Nodup) (h : m ∈ addOrigin members o) :
    (m ∈ members ∧ m.key ≠ o.key) ∨ (∃ old ∈ members, old.key = o.key ∧ m = old.absorb o) ∨
      (o.key ∉ members.map MergedMember.key ∧ m = .ofOrigin o) := by
  induction members with
  | nil => exact Or.inr (Or.inr ⟨by simp, List.mem_singleton.1 h⟩)
  | cons first rest ih =>
    rw [List.map_cons, List.nodup_cons] at hnodup
    rw [addOrigin] at h
    change m ∈ if first.key = o.key then _ else _ at h
    by_cases hkey : first.key = o.key
    · -- The first member takes the declaration in.
      rw [if_pos hkey] at h
      rcases List.mem_cons.1 h with rfl | h
      · exact Or.inr (Or.inl ⟨first, List.mem_cons_self, hkey, rfl⟩)
      · -- Another member of the key would repeat the first one.
        refine Or.inl ⟨List.mem_cons_of_mem _ h, fun heq => hnodup.1 ?_⟩
        rw [hkey, ← heq]
        exact List.mem_map_of_mem h
    · rw [if_neg hkey] at h
      rcases List.mem_cons.1 h with rfl | h
      · exact Or.inl ⟨List.mem_cons_self, hkey⟩
      · rcases ih hnodup.2 h with ⟨hmem, hne⟩ | ⟨old, hold, heq⟩ | ⟨hnew, heq⟩
        · exact Or.inl ⟨List.mem_cons_of_mem _ hmem, hne⟩
        · exact Or.inr (Or.inl ⟨old, List.mem_cons_of_mem _ hold, heq⟩)
        · refine Or.inr (Or.inr ⟨?_, heq⟩)
          rw [List.map_cons, List.mem_cons, not_or]
          exact ⟨fun heq => hkey heq.symm, hnew⟩

theorem declarationsOf_append (key : MemberKey) (origins more : List MemberOrigin) :
    declarationsOf key (origins ++ more) = declarationsOf key origins ++ declarationsOf key more :=
  List.filter_append ..

theorem declarationsOf_concat {key : MemberKey} {o : MemberOrigin} (origins : List MemberOrigin)
    (h : o.key = key) :
    declarationsOf key (origins ++ [o]) = declarationsOf key origins ++ [o] := by
  simp [declarationsOf, h]

theorem declarationsOf_concat_of_ne {key : MemberKey} {o : MemberOrigin}
    (origins : List MemberOrigin) (h : o.key ≠ key) :
    declarationsOf key (origins ++ [o]) = declarationsOf key origins := by
  simp [declarationsOf, h]

/-- What one declaration makes of a member, and what taking in a further one keeps, holds of
every member and the declarations of its key. -/
theorem merge_induction {P : List MemberOrigin → MergedMember → Prop}
    (single : ∀ o, P [o] (.ofOrigin o))
    (absorb : ∀ declared m o, P declared m → P (declared ++ [o]) (m.absorb o))
    {origins : List MemberOrigin} :
    ∀ m ∈ merge origins, P (declarationsOf m.key origins) m := by
  induction origins using List.reverseRecOn with
  | nil => simp [merge]
  | append_singleton origins o ih =>
    intro m hm
    rw [merge_concat] at hm
    rcases mem_addOrigin (keys_merge_nodup origins) hm with
      ⟨hmem, hne⟩ | ⟨old, hold, hkey, rfl⟩ | ⟨hnew, rfl⟩
    · rw [declarationsOf_concat_of_ne origins hne.symm]
      exact ih m hmem
    · rw [MergedMember.key_absorb, declarationsOf_concat origins hkey.symm]
      exact absorb _ old o (ih old hold)
    · -- Nothing of the key was declared before, because no member has it.
      have hnone : declarationsOf o.key origins = [] := by
        rw [mem_keys_merge] at hnew
        simpa [declarationsOf] using hnew
      show P (declarationsOf o.key (origins ++ [o])) _
      rw [declarationsOf_concat origins rfl, hnone]
      exact single o

/-- Every member gathers the declarations of its key. -/
theorem gathers_of_mem_merge {origins : List MemberOrigin} :
    ∀ m ∈ merge origins, m.Gathers (declarationsOf m.key origins) :=
  merge_induction MergedMember.gathers_ofOrigin fun _ _ o h => h.absorb o

/-- So does every member whose collisions have been decided. -/
theorem gathers_of_mem_qualifyCollisions {origins : List MemberOrigin} {m : ResolvedMember}
    (h : m ∈ qualifyCollisions (merge origins)) : m.Gathers (declarationsOf m.key origins) :=
  gathers_of_mem_merge m.toMergedMember (toMergedMember_mem h)

end ClassSynthesis
