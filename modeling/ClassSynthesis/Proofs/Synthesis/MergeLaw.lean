import ClassSynthesis.Proofs.Synthesis.Accessors

/-!
# The Law of Merging

The members that a sequence of declarations makes, told from the declarations alone: one for
each key, in the order in which the keys first come up (`map_key_merge`); each the first
declaration of its key with the accessors of all of them (`accessors_of_mem_merge`), and with the
first declaration of each contract as its origins (`origins_of_mem_merge`). A member is qualified
when another one has its name. `Resolution.merge_law` puts these together.
-/

namespace ClassSynthesis

/-- Keys of members stand in the order of first declaration, each once. -/
theorem map_key_merge (origins : List MemberOrigin) :
    (merge origins).map MergedMember.key = (origins.map MemberOrigin.key).eraseDups := by
  induction origins using List.reverseRecOn with
  | nil => rfl
  | append_singleton origins o ih =>
    rw [merge_concat, keys_addOrigin, List.map_append, List.map_singleton, eraseDups_concat, ih]
    simp only [List.mem_eraseDups]

/-- A member has the accessors of all declarations of its key. -/
theorem accessors_of_mem_merge {origins : List MemberOrigin} {m : MergedMember}
    (h : m ∈ merge origins) :
    m.accessors = .unionAll ((declarationsOf m.key origins).map (·.member.accessors)) := by
  -- Both are the least set that has the accessors of all the declarations.
  refine eq_of_forall_ge_iff fun a => ?_
  rw [(gathers_of_mem_merge m h).accessors, AccessorSet.unionAll_le_iff, List.forall_mem_map]

/-- For each contract the first declaration that it makes, in the order of these. -/
def firstOfEachContract (declared : List MemberOrigin) : List MemberOrigin :=
  (declared.map MemberOrigin.contract).eraseDups.filterMap fun contract =>
    declared.find? (·.contract == contract)

/-- The origins of a member are the first declarations of its key by each contract. -/
theorem origins_of_mem_merge {origins : List MemberOrigin} {m : MergedMember}
    (h : m ∈ merge origins) : m.origins = firstOfEachContract (declarationsOf m.key origins) := by
  -- Contracts of the origins are those that declare the key, in order of their first declarations,
  -- so it is enough to find each origin from its contract.
  rw [firstOfEachContract, ← map_contract_of_mem_merge m h, List.filterMap_map]
  have hfirst : ∀ o ∈ m.origins,
      (declarationsOf m.key origins).find? (·.contract == o.contract) = some o :=
    fun o ho => ((gathers_of_mem_merge m h).origins o).1 ho
  calc m.origins = m.origins.filterMap some := List.filterMap_some.symm
    _ = _ := List.filterMap_congr fun o ho => (hfirst o ho).symm

namespace Resolution

variable {id : ContractId} {origins : List MemberOrigin}

/-- Members of one key are one member. -/
theorem eq_of_key_eq {m other : ResolvedMember} (hm : m ∈ (ofOrigins id origins).members)
    (hother : other ∈ (ofOrigins id origins).members) (h : m.key = other.key) : m = other := by
  have hnodup : ((ofOrigins id origins).members.map (·.key)).Nodup := by
    rw [map_key_members_ofOrigins id origins]
    exact keys_merge_nodup origins
  exact List.inj_on_of_nodup_map hnodup hm hother h

/-- A member is qualified exactly when another member has its name. -/
theorem isQualified_iff {m : ResolvedMember} (hm : m ∈ (ofOrigins id origins).members) :
    m.isQualified = true ↔
      ∃ other ∈ (ofOrigins id origins).members, other ≠ m ∧ other.name = m.name := by
  have hcollided : m.isQualified = true ↔ (ofOrigins id origins).Collides m.name := by
    rw [isQualified_iff_mem_collisions hm, ← mem_collisions_iff]
    rfl
  rw [hcollided]
  constructor
  · rintro ⟨a, ha, b, hb, hname, hname', htype⟩
    -- The two members of the name differ, so one of them is another one.
    by_cases hsame : a = m
    · refine ⟨b, hb, fun heq => htype ?_, hname'⟩
      rw [hsame, heq]
    · exact ⟨a, ha, hsame, hname⟩
  · rintro ⟨other, hother, hne, hname⟩
    refine ⟨other, hother, m, hm, hname, rfl, fun htype => hne (eq_of_key_eq hother hm ?_)⟩
    exact congrArg₂ MemberKey.mk hname htype

/-- A name is collided exactly when two or more members have it. -/
theorem mem_collisions_iff_two_le {name : String} :
    name ∈ (ofOrigins id origins).collisions ↔
      2 ≤ ((ofOrigins id origins).members.filter (·.name == name)).length := by
  -- Members keep their names when they are qualified, so the count is that of the merge.
  have hcount : ((ofOrigins id origins).members.filter (·.name == name)).length =
      ((merge origins).map (·.name)).count name := by
    rw [← map_name_qualifyCollisions, List.count, List.countP_map, List.countP_eq_length_filter]
    rfl
  rw [hcount]
  exact mem_repeatedNames

/-- What any sequence of declarations makes. There is one member for each key, in the order in
which the keys are first declared. A member is the first declaration of its key, in the nullable
context of this one, with the accessors of all declarations of the key; its origins are the first
of these by each contract, in order; and it is qualified exactly when another member has its
name. The collided names are those of two or more members, each listed once, ordered by the first
member that has it. -/
theorem merge_law (id : ContractId) (origins : List MemberOrigin) :
    (ofOrigins id origins).members.map (·.key) = (origins.map MemberOrigin.key).eraseDups ∧
    (∀ m ∈ (ofOrigins id origins).members,
      (declarationsOf m.key origins).head? = some m.first ∧
      m.member = { m.first.member with
        accessors := .unionAll ((declarationsOf m.key origins).map (·.member.accessors)) } ∧
      m.origins = firstOfEachContract (declarationsOf m.key origins) ∧
      (m.isQualified = true ↔
        ∃ other ∈ (ofOrigins id origins).members, other ≠ m ∧ other.name = m.name)) ∧
    (∀ name, name ∈ (ofOrigins id origins).collisions ↔
      2 ≤ ((ofOrigins id origins).members.filter (·.name == name)).length) ∧
    (ofOrigins id origins).collisions.Nodup ∧
    (ofOrigins id origins).collisions.Pairwise fun a b =>
      ((ofOrigins id origins).members.map (·.name)).idxOf a <
        ((ofOrigins id origins).members.map (·.name)).idxOf b := by
  refine ⟨?_, fun m hm => ?_, fun name => mem_collisions_iff_two_le,
    nodup_collisions id origins, pairwise_collisions id origins⟩
  · rw [map_key_members_ofOrigins, map_key_merge]
  · have hmerged : m.toMergedMember ∈ merge origins := toMergedMember_mem hm
    refine ⟨(gathers_of_mem_merge _ hmerged).first, ?_, origins_of_mem_merge hmerged,
      isQualified_iff hm⟩
    rw [MergedMember.member, accessors_of_mem_merge hmerged]

end Resolution

end ClassSynthesis
