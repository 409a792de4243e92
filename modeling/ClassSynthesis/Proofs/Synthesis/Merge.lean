import ClassSynthesis.Synthesis.Merge
import Mathlib.Data.List.Induction
import Mathlib.Data.List.Nodup

/-!
# The Members That Declarations Make

Merging goes through the declarations one by one, so its laws are proved for one more
declaration at the end (`merge_concat`, `keys_addOrigin`) and carried over the list.

- `keys_merge_nodup`, `mem_keys_merge`, `keys_merge_pairwise`: there is one member for each
  key declared, and members stand in the order in which their keys are first declared.
- `MergedMember.Sound`: the origins of a member are declarations of its key, one for each
  contract.
- `names_unqualified_nodup`: members that are not qualified have distinct names.
-/

namespace ClassSynthesis

/-- The identity of the member that is declared. -/
def MemberOrigin.key (o : MemberOrigin) : MemberKey := o.member.key

theorem merge_concat (origins : List MemberOrigin) (o : MemberOrigin) :
    merge (origins ++ [o]) = addOrigin (merge origins) o := by
  rw [merge, List.foldl_append]
  rfl

/-! ## Keys -/

/-- One more declaration adds its key at the end unless a member has it. -/
theorem keys_addOrigin (members : List MergedMember) (o : MemberOrigin) :
    (addOrigin members o).map MergedMember.key =
      if o.key ∈ members.map MergedMember.key then members.map MergedMember.key
      else members.map MergedMember.key ++ [o.key] := by
  induction members with
  | nil => rfl
  | cons m rest ih =>
    rw [addOrigin]
    by_cases h : m.key = o.member.key
    · have hmem : o.key ∈ (m :: rest).map MergedMember.key :=
        List.mem_cons.2 (Or.inl h.symm)
      rw [if_pos h, if_pos hmem]
      rfl
    · -- The first member is another one, so the rest decides.
      have hmem : o.key ∈ (m :: rest).map MergedMember.key ↔
          o.key ∈ rest.map MergedMember.key := by
        rw [List.map_cons, List.mem_cons]
        exact or_iff_right fun heq => h heq.symm
      rw [if_neg h, List.map_cons, ih, if_congr hmem rfl rfl]
      split <;> rfl

/-- The keys of the members are the keys declared. -/
theorem mem_keys_merge {origins : List MemberOrigin} {key : MemberKey} :
    key ∈ (merge origins).map MergedMember.key ↔ key ∈ origins.map MemberOrigin.key := by
  induction origins using List.reverseRecOn with
  | nil => rfl
  | append_singleton origins o ih =>
    rw [merge_concat, keys_addOrigin, List.map_append, List.mem_append, ← ih]
    by_cases h : o.key ∈ (merge origins).map MergedMember.key
    · rw [if_pos h]
      constructor
      · exact Or.inl
      · rintro (hkey | hkey)
        · exact hkey
        · rw [List.mem_singleton.1 hkey]
          exact h
    · rw [if_neg h, List.mem_append]
      rfl

/-- Members stand in the order in which their keys are first declared. -/
theorem keys_merge_pairwise (origins : List MemberOrigin) :
    ((merge origins).map MergedMember.key).Pairwise fun a b =>
      (origins.map MemberOrigin.key).idxOf a < (origins.map MemberOrigin.key).idxOf b := by
  induction origins using List.reverseRecOn with
  | nil => exact List.Pairwise.nil
  | append_singleton origins o ih =>
    -- A key declared before keeps its first position when one more declaration follows.
    have hkeep : ∀ key ∈ (merge origins).map MergedMember.key,
        ((origins ++ [o]).map MemberOrigin.key).idxOf key =
          (origins.map MemberOrigin.key).idxOf key := by
      intro key hkey
      rw [List.map_append, List.idxOf_append, if_pos (mem_keys_merge.1 hkey)]
    have hold := ih.imp_of_mem fun ha hb hab => by
      rwa [← hkeep _ ha, ← hkeep _ hb] at hab
    rw [merge_concat, keys_addOrigin]
    by_cases h : o.key ∈ (merge origins).map MergedMember.key
    · rw [if_pos h]
      exact hold
    · rw [if_neg h, List.pairwise_append]
      refine ⟨hold, List.pairwise_singleton _ _, ?_⟩
      intro a ha b hb
      -- A new key is first declared behind all others.
      have hnew : o.key ∉ origins.map MemberOrigin.key := fun hmem => h (mem_keys_merge.2 hmem)
      have hlt := List.idxOf_lt_length_of_mem (mem_keys_merge.1 ha)
      rw [List.mem_singleton.1 hb, hkeep a ha, List.map_append, List.idxOf_append, if_neg hnew]
      omega

/-- No two members have the same key. -/
theorem keys_merge_nodup (origins : List MemberOrigin) :
    ((merge origins).map MergedMember.key).Nodup := by
  refine (keys_merge_pairwise origins).imp fun hlt heq => ?_
  rw [heq] at hlt
  exact Nat.lt_irrefl _ hlt

/-! ## Origins -/

namespace MergedMember

theorem hasOrigin_iff (m : MergedMember) (contract : ContractId) :
    m.hasOrigin contract = true ↔ contract ∈ m.origins.map MemberOrigin.contract := by
  rw [hasOrigin, List.any_eq_true, List.mem_map]
  simp only [beq_iff_eq]

theorem origins_absorb (m : MergedMember) (o : MemberOrigin) :
    (m.absorb o).origins =
      if m.hasOrigin o.contract then m.origins else m.origins ++ [o] := by
  rw [origins, absorb]
  by_cases h : m.hasOrigin o.contract = true
  · rw [if_pos h, if_pos h]
    rfl
  · rw [if_neg h, if_neg h]
    rfl

/-- A member as a list of declarations makes it: its origins are among the declarations,
declare its key, and belong to distinct contracts. -/
structure Sound (declared : List MemberOrigin) (m : MergedMember) : Prop where
  declared : ∀ o ∈ m.origins, o ∈ declared
  key : ∀ o ∈ m.origins, o.key = m.key
  contracts : (m.origins.map MemberOrigin.contract).Nodup

theorem Sound.mono {declared more : List MemberOrigin} {m : MergedMember}
    (h : Sound declared m) (hsub : ∀ o ∈ declared, o ∈ more) : Sound more m :=
  ⟨fun o ho => hsub o (h.declared o ho), h.key, h.contracts⟩

theorem sound_ofOrigin {declared : List MemberOrigin} {o : MemberOrigin} (h : o ∈ declared) :
    Sound declared (ofOrigin o) where
  declared := by
    intro p hp
    rwa [List.mem_singleton.1 hp]
  key := by
    intro p hp
    rw [List.mem_singleton.1 hp]
    rfl
  contracts := List.nodup_singleton _

theorem Sound.absorb {declared : List MemberOrigin} {m : MergedMember} {o : MemberOrigin}
    (h : Sound declared m) (ho : o ∈ declared) (hkey : m.key = o.key) :
    Sound declared (m.absorb o) := by
  by_cases hhas : m.hasOrigin o.contract = true
  · -- Its contract is an origin already, and the origins stay.
    have horigins : (m.absorb o).origins = m.origins := by
      rw [origins_absorb, if_pos hhas]
    refine ⟨?_, ?_, ?_⟩ <;> rw [horigins]
    · exact h.declared
    · exact h.key
    · exact h.contracts
  · have horigins : (m.absorb o).origins = m.origins ++ [o] := by
      rw [origins_absorb, if_neg hhas]
    refine ⟨?_, ?_, ?_⟩ <;> rw [horigins]
    · intro p hp
      rcases List.mem_append.1 hp with hp | hp
      · exact h.declared p hp
      · rwa [List.mem_singleton.1 hp]
    · intro p hp
      rcases List.mem_append.1 hp with hp | hp
      · exact h.key p hp
      · rw [List.mem_singleton.1 hp]
        exact hkey.symm
    · rw [List.map_append, List.map_singleton, ← List.concat_eq_append]
      exact List.Nodup.concat (fun hmem => hhas ((hasOrigin_iff m _).2 hmem)) h.contracts

end MergedMember

theorem sound_addOrigin {declared : List MemberOrigin} {members : List MergedMember}
    {o : MemberOrigin} (h : ∀ m ∈ members, m.Sound declared) (ho : o ∈ declared) :
    ∀ m ∈ addOrigin members o, m.Sound declared := by
  induction members with
  | nil =>
    intro m hm
    rw [List.mem_singleton.1 hm]
    exact MergedMember.sound_ofOrigin ho
  | cons first rest ih =>
    rw [addOrigin]
    have hrest := ih fun m hm => h m (List.mem_cons_of_mem _ hm)
    have hfirst := h first List.mem_cons_self
    by_cases hkey : first.key = o.member.key
    · rw [if_pos hkey]
      intro m hm
      rcases List.mem_cons.1 hm with rfl | hm
      · exact hfirst.absorb ho hkey
      · exact h m (List.mem_cons_of_mem _ hm)
    · rw [if_neg hkey]
      intro m hm
      rcases List.mem_cons.1 hm with rfl | hm
      · exact hfirst
      · exact hrest m hm

/-- The members that declarations make are as the declarations make them. -/
theorem sound_of_mem_merge {origins : List MemberOrigin} :
    ∀ m ∈ merge origins, m.Sound origins := by
  induction origins using List.reverseRecOn with
  | nil =>
    intro m hm
    cases hm
  | append_singleton origins o ih =>
    rw [merge_concat]
    refine sound_addOrigin (fun m hm => ?_) (List.mem_append_right _ List.mem_cons_self)
    exact (ih m hm).mono fun p hp => List.mem_append_left _ hp

/-! ## Collided names -/

/-- A name is repeated when it stands in the list more than once. -/
theorem mem_repeatedNames {names : List String} {name : String} :
    name ∈ repeatedNames names ↔ 1 < names.count name := by
  rw [repeatedNames, List.mem_eraseDups, List.mem_filter, decide_eq_true_iff]
  refine and_iff_right_of_imp fun h => ?_
  exact List.count_pos_iff.1 (Nat.lt_trans Nat.zero_lt_one h)

/-- Marking the collided members changes nothing else. -/
theorem map_toMergedMember_qualifyCollisions (members : List MergedMember) :
    (qualifyCollisions members).map ResolvedMember.toMergedMember = members := by
  rw [qualifyCollisions, List.map_map]
  exact List.map_id' members

/-- The members marked are the members merged. -/
theorem toMergedMember_mem {members : List MergedMember} {m : ResolvedMember}
    (h : m ∈ qualifyCollisions members) : m.toMergedMember ∈ members := by
  rw [← map_toMergedMember_qualifyCollisions members]
  exact List.mem_map_of_mem h

theorem map_name_qualifyCollisions (members : List MergedMember) :
    (qualifyCollisions members).map (·.name) = members.map (·.name) := by
  conv_rhs => rw [← map_toMergedMember_qualifyCollisions members]
  rw [List.map_map]
  rfl

/-- A member is qualified exactly when its name is collided. -/
theorem isQualified_iff_mem_collisions {members : List MergedMember} {m : ResolvedMember}
    (h : m ∈ qualifyCollisions members) :
    m.isQualified = true ↔ m.name ∈ collisions members := by
  rw [qualifyCollisions] at h
  obtain ⟨merged, -, rfl⟩ := List.mem_map.1 h
  exact List.contains_iff_mem

/-- Members that are not qualified have distinct names. -/
theorem names_unqualified_nodup (members : List MergedMember) :
    (((qualifyCollisions members).filter (!·.isQualified)).map (·.name)).Nodup := by
  rw [List.nodup_iff_count_le_one]
  intro name
  by_cases h : name ∈ ((qualifyCollisions members).filter (!·.isQualified)).map (·.name)
  · obtain ⟨m, hm, rfl⟩ := List.mem_map.1 h
    obtain ⟨hmem, hplain⟩ := List.mem_filter.1 hm
    -- A member that is not qualified has a name of its own among all members.
    have hnot : ¬ 1 < (members.map (·.name)).count m.name := by
      rw [← mem_repeatedNames]
      intro hcollided
      rw [(isQualified_iff_mem_collisions hmem).2 hcollided] at hplain
      cases hplain
    calc (((qualifyCollisions members).filter (!·.isQualified)).map (·.name)).count m.name
        ≤ ((qualifyCollisions members).map (·.name)).count m.name :=
          (List.filter_sublist.map _).count_le _
      _ ≤ 1 := by
          rw [map_name_qualifyCollisions]
          exact Nat.le_of_not_lt hnot
  · rw [List.count_eq_zero_of_not_mem h]
    exact Nat.zero_le _

end ClassSynthesis
