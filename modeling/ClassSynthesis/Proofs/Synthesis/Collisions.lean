import ClassSynthesis.Proofs.Synthesis.Resolution

/-!
# Collided Names

The members of a resolution have distinct keys, so a name that several of them bear is one
that occurs with several types (`Resolution.mem_collisions_iff`). Collided names are listed
once each, in the order in which the members first bear them
(`Resolution.pairwise_collisions`), and each has at least two declarations
(`Resolution.two_le_length_originsNamed`).
-/

namespace ClassSynthesis

/-- A list with two different elements has at least two. -/
theorem two_le_length_of_ne {α : Type} {l : List α} {a b : α} (ha : a ∈ l) (hb : b ∈ l)
    (hne : a ≠ b) : 2 ≤ l.length := by
  have hpair : [a, b].Nodup := by simp [hne]
  refine hpair.length_le_of_subset fun x hx => ?_
  rcases List.mem_cons.1 hx with rfl | hx
  · exact ha
  · rw [List.mem_singleton.1 hx]
    exact hb

/-- One more element stands last when repetitions are left out, if it is new. -/
theorem eraseDups_concat {α : Type} [BEq α] [LawfulBEq α] [DecidableEq α] (l : List α) (a : α) :
    (l ++ [a]).eraseDups = if a ∈ l then l.eraseDups else l.eraseDups ++ [a] := by
  rw [List.eraseDups_append]
  by_cases h : a ∈ l <;> simp [List.removeAll, List.eraseDups_cons, h]

/-- What is left of a list without repetitions stands in the order of first occurrence. -/
theorem pairwise_idxOf_eraseDups_filter (names : List String) (p : String → Bool) :
    (names.filter p).eraseDups.Pairwise fun a b => names.idxOf a < names.idxOf b := by
  -- The condition varies: once a name is listed, it is left out of the rest.
  induction names generalizing p with
  | nil => simp
  | cons first rest ih =>
    -- Any other name is found one place later than in the rest.
    have hshift : ∀ q : String → Bool, (∀ name, q name = true → name ≠ first) →
        (rest.filter q).eraseDups.Pairwise fun a b =>
          (first :: rest).idxOf a < (first :: rest).idxOf b := by
      intro q hq
      refine (ih q).imp_of_mem fun {a b} ha hb hlt => ?_
      have ha' := hq a (List.mem_filter.1 (List.mem_eraseDups.1 ha)).2
      have hb' := hq b (List.mem_filter.1 (List.mem_eraseDups.1 hb)).2
      rw [List.idxOf_cons_ne _ ha'.symm, List.idxOf_cons_ne _ hb'.symm]
      omega
    cases hp : p first with
    | false =>
      rw [List.filter_cons_of_neg (by simp [hp])]
      refine hshift p fun name hname hfirst => ?_
      rw [hfirst, hp] at hname
      cases hname
    | true =>
      rw [List.filter_cons_of_pos hp, List.eraseDups_cons, List.filter_filter,
        List.pairwise_cons]
      constructor
      · intro name hname
        have hne : name ≠ first := by
          have hkept := (List.mem_filter.1 (List.mem_eraseDups.1 hname)).2
          simpa using (Bool.and_eq_true_iff.1 hkept).1
        rw [List.idxOf_cons_self, List.idxOf_cons_ne _ hne.symm]
        omega
      · refine hshift _ fun name hname => ?_
        simpa using (Bool.and_eq_true_iff.1 hname).1

/-- Repeated names are listed in the order of first occurrence. -/
theorem pairwise_repeatedNames (names : List String) :
    (repeatedNames names).Pairwise fun a b => names.idxOf a < names.idxOf b :=
  pairwise_idxOf_eraseDups_filter names _

example : repeatedNames ["Size", "Name", "Kind", "Name", "Size"] = ["Size", "Name"] := by decide

/-- Among distinct keys, a name is repeated when it stands there with several types. -/
theorem one_lt_count_name_iff {keys : List MemberKey} (h : keys.Nodup) {name : String} :
    1 < (keys.map MemberKey.name).count name ↔
      ∃ k ∈ keys, ∃ k' ∈ keys, k.name = name ∧ k'.name = name ∧ k.type ≠ k'.type := by
  have hcount : (keys.map MemberKey.name).count name =
      (keys.filter (·.name == name)).length := by
    rw [List.count, List.countP_map, List.countP_eq_length_filter]
    rfl
  have hmem : ∀ {k}, k ∈ keys.filter (·.name == name) ↔ k ∈ keys ∧ k.name = name := by
    simp
  have hnodup : (keys.filter (·.name == name)).Nodup := h.filter _
  rw [hcount]
  constructor
  · -- The keys of the name are distinct, and there are two of them.
    intro hlt
    obtain ⟨k, k', rest, hnamed⟩ :
        ∃ k k' rest, keys.filter (·.name == name) = k :: k' :: rest := by
      cases hnamed : keys.filter (·.name == name) with
      | nil => simp [hnamed] at hlt
      | cons k others =>
        cases others with
        | nil => simp [hnamed] at hlt
        | cons k' rest => exact ⟨k, k', rest, rfl⟩
    obtain ⟨hk, hname⟩ := hmem.1 (hnamed ▸ List.mem_cons_self)
    obtain ⟨hk', hname'⟩ := hmem.1 (hnamed ▸ List.mem_cons_of_mem k List.mem_cons_self)
    refine ⟨k, hk, k', hk', hname, hname', fun htype => ?_⟩
    -- Equal types would make the two keys equal.
    have hsame : k = k' := by
      cases k
      cases k'
      simp_all
    rw [hnamed] at hnodup
    simp [hsame] at hnodup
  · rintro ⟨k, hk, k', hk', hname, hname', htype⟩
    have hne : k ≠ k' := fun heq => htype (congrArg MemberKey.type heq)
    exact two_le_length_of_ne (hmem.2 ⟨hk, hname⟩) (hmem.2 ⟨hk', hname'⟩) hne

namespace Resolution

/-- A name occurs with two or more declared types among the members. -/
def Collides (r : Resolution) (name : String) : Prop :=
  ∃ m ∈ r.members, ∃ m' ∈ r.members, m.name = name ∧ m'.name = name ∧ m.type ≠ m'.type

/-- The declarations of the members of a name. -/
def originsNamed (r : Resolution) (name : String) : List MemberOrigin :=
  (r.members.filter (·.name == name)).flatMap (·.origins)

/-- The names borne by several members are those that occur with several types. -/
theorem mem_collisions_iff {id : ContractId} {origins : List MemberOrigin} {name : String} :
    name ∈ (ofOrigins id origins).collisions ↔ (ofOrigins id origins).Collides name := by
  have hnames : (merge origins).map (·.name) =
      ((merge origins).map MergedMember.key).map MemberKey.name := by
    rw [List.map_map]
    rfl
  have hcollisions : (ofOrigins id origins).collisions =
      repeatedNames (((merge origins).map MergedMember.key).map MemberKey.name) := by
    rw [← hnames]
    rfl
  rw [hcollisions, mem_repeatedNames, one_lt_count_name_iff (keys_merge_nodup origins),
    ← map_key_members_ofOrigins id origins]
  constructor
  · rintro ⟨k, hk, k', hk', hname, hname', htype⟩
    obtain ⟨m, hm, rfl⟩ := List.mem_map.1 hk
    obtain ⟨m', hm', rfl⟩ := List.mem_map.1 hk'
    exact ⟨m, hm, m', hm', hname, hname', htype⟩
  · rintro ⟨m, hm, m', hm', hname, hname', htype⟩
    exact ⟨m.key, List.mem_map_of_mem hm, m'.key, List.mem_map_of_mem hm', hname, hname',
      htype⟩

/-- Collided names are listed in the order in which the members first bear them. -/
theorem pairwise_collisions (id : ContractId) (origins : List MemberOrigin) :
    (ofOrigins id origins).collisions.Pairwise fun a b =>
      ((ofOrigins id origins).members.map (·.name)).idxOf a <
        ((ofOrigins id origins).members.map (·.name)).idxOf b := by
  have hnames : (ofOrigins id origins).members.map (·.name) = (merge origins).map (·.name) :=
    map_name_qualifyCollisions _
  rw [hnames]
  exact pairwise_repeatedNames _

/-- No collided name is listed twice. -/
theorem nodup_collisions (id : ContractId) (origins : List MemberOrigin) :
    (ofOrigins id origins).collisions.Nodup := by
  refine (pairwise_collisions id origins).imp fun hlt heq => ?_
  rw [heq] at hlt
  exact Nat.lt_irrefl _ hlt

/-- A collided name has at least two declarations. -/
theorem two_le_length_originsNamed {r : Resolution} {name : String} (h : r.Collides name) :
    2 ≤ (r.originsNamed name).length := by
  obtain ⟨m, hm, m', hm', hname, hname', htype⟩ := h
  have hfirst : ∀ {m : ResolvedMember}, m ∈ r.members → m.name = name →
      m.first ∈ r.originsNamed name := by
    intro m hm hname
    refine List.mem_flatMap.2 ⟨m, List.mem_filter.2 ⟨hm, by simpa using hname⟩, ?_⟩
    exact List.mem_cons_self
  -- The first declarations of the two members differ by their types.
  have hne : m.first ≠ m'.first := fun heq => htype (congrArg (·.member.type) heq)
  exact two_le_length_of_ne (hfirst hm hname) (hfirst hm' hname') hne

end Resolution

end ClassSynthesis
