import ClassSynthesis.Proofs.Synthesis.Collisions
import ClassSynthesis.Proofs.Synthesis.Gathering

/-!
# Inherited Members

What an ancestor resolves to, a contract resolves to as well, and possibly more: the same
members with at least the accessors and the origins, and at least the collided names
(`ContractIndex.resolve_inherits`).

The two closures may list the common contracts in different orders. This does not matter,
because which declaration of a contract is an origin of a member depends on the declarations
of that contract alone (`ContractIndex.find?_declarationsOf_eq_some_iff`).
-/

namespace ClassSynthesis

namespace ContractIndex

variable {index : ContractIndex} {id : ContractId} {key : MemberKey}

theorem contract_of_mem_eligibleOrigins {o : MemberOrigin} (h : o ∈ index.eligibleOrigins id) :
    o.contract = id := by
  rw [eligibleOrigins] at h
  split at h
  · simp at h
  · obtain ⟨member, -, rfl⟩ := List.mem_map.1 h
    rfl

/-- A contract contributes declarations of its own only. -/
private theorem find?_contract_eligibleOrigins (id other : ContractId) :
    (index.eligibleOrigins other).find? (fun o => o.key == key && o.contract == id) =
      if other = id then (index.eligibleOrigins other).find? (·.key == key) else none := by
  by_cases h : other = id
  · rw [if_pos h, ← List.head?_filter, ← List.head?_filter]
    refine congrArg List.head? (List.filter_congr fun o ho => ?_)
    simp [contract_of_mem_eligibleOrigins ho, h]
  · rw [if_neg h, List.find?_eq_none]
    intro o ho
    simp [contract_of_mem_eligibleOrigins ho, h]

/-- In the declarations of some contracts, those of one of them are found as they are found in
the contract itself. -/
theorem find?_declarationsOf (contracts : List ContractId) (id : ContractId) :
    (declarationsOf key (contracts.flatMap index.eligibleOrigins)).find? (·.contract == id) =
      if id ∈ contracts then (index.eligibleOrigins id).find? (·.key == key) else none := by
  rw [declarationsOf, List.find?_filter]
  simp only [Bool.decide_and, Bool.decide_eq_true]
  induction contracts with
  | nil => simp
  | cons first rest ih =>
    rw [List.flatMap_cons, List.find?_append, ih, find?_contract_eligibleOrigins]
    by_cases hfirst : first = id
    · -- What follows adds nothing: at most it is the same again.
      subst hfirst
      rw [if_pos rfl, if_pos List.mem_cons_self]
      split <;> simp
    · rw [if_neg hfirst, Option.none_or]
      simp [Ne.symm hfirst]

/-- A declaration is the first one found for its contract when that contract is among those
read and finds it first. -/
theorem find?_declarationsOf_eq_some_iff {contracts : List ContractId} {o : MemberOrigin} :
    (declarationsOf key (contracts.flatMap index.eligibleOrigins)).find?
        (·.contract == o.contract) = some o ↔
      o.contract ∈ contracts ∧
        (index.eligibleOrigins o.contract).find? (·.key == key) = some o := by
  rw [find?_declarationsOf]
  split <;> simp [*]

/-- The ancestors of an ancestor are ancestors. -/
theorem closure_subset_of_mem {child parent : ContractId} {closure above : List ContractId}
    (hchild : index.closure child = .ok closure) (hmem : parent ∈ closure)
    (hparent : index.closure parent = .ok above) : above ⊆ closure := by
  intro id hid
  rw [mem_iff_of_closure hchild] at hmem ⊢
  exact hmem.trans ((mem_iff_of_closure hparent id).1 hid)

end ContractIndex

/-! ## Resolutions of more declarations -/

namespace Resolution

variable {id other : ContractId} {origins more : List MemberOrigin}

/-- There is a member of each key declared. -/
theorem exists_mem_of_mem {o : MemberOrigin} (h : o ∈ origins) :
    ∃ m ∈ (ofOrigins id origins).members, m.key = o.key := by
  rw [← List.mem_map, map_key_members_ofOrigins, mem_keys_merge]
  exact List.mem_map_of_mem h

theorem gathers_of_mem {m : ResolvedMember} (h : m ∈ (ofOrigins id origins).members) :
    m.Gathers (declarationsOf m.key origins) :=
  gathers_of_mem_qualifyCollisions h

/-- The first declaration of a member is one of those resolved. -/
theorem first_mem {m : ResolvedMember} (h : m ∈ (ofOrigins id origins).members) :
    m.first ∈ origins :=
  (List.mem_filter.1 (List.mem_of_mem_head? (gathers_of_mem h).first)).1

/-- More declarations make members of the same keys and possibly of others. -/
theorem exists_mem_of_subset (other : ContractId) (hsub : origins ⊆ more) {m : ResolvedMember}
    (h : m ∈ (ofOrigins id origins).members) :
    ∃ m' ∈ (ofOrigins other more).members, m'.key = m.key :=
  exists_mem_of_mem (hsub (first_mem h))

/-- More declarations widen the accessors of a member. -/
theorem accessors_mono (hsub : origins ⊆ more) {m m' : ResolvedMember}
    (h : m ∈ (ofOrigins id origins).members) (h' : m' ∈ (ofOrigins other more).members)
    (hkey : m'.key = m.key) : m.accessors ≤ m'.accessors := by
  rw [(gathers_of_mem h).accessors]
  intro o ho
  -- The declaration is still there, and the wider member has its accessors.
  obtain ⟨hmem, hdeclares⟩ := List.mem_filter.1 ho
  refine ((gathers_of_mem h').accessors _).1 le_rfl o (List.mem_filter.2 ⟨hsub hmem, ?_⟩)
  rwa [hkey]

/-- More declarations let more names collide. -/
theorem collides_mono (hsub : origins ⊆ more) {name : String}
    (h : (ofOrigins id origins).Collides name) : (ofOrigins other more).Collides name := by
  obtain ⟨m, hm, n, hn, hmname, hnname, htype⟩ := h
  obtain ⟨m', hm', hmkey⟩ := exists_mem_of_subset other hsub hm
  obtain ⟨n', hn', hnkey⟩ := exists_mem_of_subset other hsub hn
  refine ⟨m', hm', n', hn', ?_, ?_, ?_⟩
  · exact (congrArg MemberKey.name hmkey).trans hmname
  · exact (congrArg MemberKey.name hnkey).trans hnname
  · intro heq
    apply htype
    calc m.type = m'.type := (congrArg MemberKey.type hmkey).symm
      _ = n'.type := heq
      _ = n.type := congrArg MemberKey.type hnkey

end Resolution

namespace ContractIndex

variable {index : ContractIndex}

/-- A contract resolves to what its ancestors resolve to, and possibly to more: each member of
an ancestor has a member of the same name and type, which has at least its accessors, has at
least its origins, and is qualified if it is. Names that collide in an ancestor collide in the
contract. -/
theorem resolve_inherits {child parent : ContractId} {closure : List ContractId}
    {below above : Resolution} (hclosure : index.closure child = .ok closure)
    (hmem : parent ∈ closure) (hbelow : index.resolve child = .ok below)
    (habove : index.resolve parent = .ok above) :
    (∀ m ∈ above.members, ∃ m' ∈ below.members,
      m'.key = m.key ∧ m.accessors ≤ m'.accessors ∧ m.origins ⊆ m'.origins ∧
        (m.isQualified = true → m'.isQualified = true)) ∧
    above.collisions ⊆ below.collisions := by
  obtain ⟨closure', hclosure', -, rfl⟩ := resolve_eq_ok_iff.1 hbelow
  obtain ⟨ancestors, hancestors, -, rfl⟩ := resolve_eq_ok_iff.1 habove
  rw [hclosure] at hclosure'
  cases hclosure'
  have hcontracts : ancestors ⊆ closure := closure_subset_of_mem hclosure hmem hancestors
  have hsub : ancestors.flatMap index.eligibleOrigins ⊆ closure.flatMap index.eligibleOrigins := by
    intro o ho
    obtain ⟨owner, howner, ho⟩ := List.mem_flatMap.1 ho
    exact List.mem_flatMap.2 ⟨owner, hcontracts howner, ho⟩
  have hcollisions :
      (Resolution.ofOrigins parent (ancestors.flatMap index.eligibleOrigins)).collisions ⊆
        (Resolution.ofOrigins child (closure.flatMap index.eligibleOrigins)).collisions := by
    intro name hname
    rw [Resolution.mem_collisions_iff] at hname ⊢
    exact Resolution.collides_mono hsub hname
  refine ⟨fun m hm => ?_, hcollisions⟩
  obtain ⟨m', hm', hkey⟩ := Resolution.exists_mem_of_subset child hsub hm
  refine ⟨m', hm', hkey, Resolution.accessors_mono hsub hm hm' hkey, ?_, ?_⟩
  · -- An origin is the first declaration of its contract, in whichever closure it stands.
    intro o ho
    rw [(Resolution.gathers_of_mem hm).origins, find?_declarationsOf_eq_some_iff] at ho
    rw [(Resolution.gathers_of_mem hm').origins, find?_declarationsOf_eq_some_iff, hkey]
    exact ⟨hcontracts ho.1, ho.2⟩
  · have hname : m'.name = m.name := congrArg MemberKey.name hkey
    rw [isQualified_iff_mem_collisions hm, isQualified_iff_mem_collisions hm', hname]
    exact fun hcollided => hcollisions hcollided

/-- A report is an entry and a part. An entry is a part and a named thing, which is an entry
again. The kind of a part is a number and that of a named thing a text. -/
def reports : ContractIndex where
  entries := [
    { contract := { name := .global "IReport", parents := ["IPart", "IEntry"] },
      members := [
        { name := "Title", type := .reference "string", accessors := ⟨true, false, false⟩ }] },
    { contract := { name := .global "IEntry", parents := ["IPart", "INamed"] },
      members := [
        { name := "Title", type := .reference "string", accessors := ⟨true, true, false⟩ }] },
    { contract := { name := .global "IPart" },
      members := [{ name := "Kind", type := .value "int", accessors := ⟨true, false, false⟩ }] },
    { contract := { name := .global "INamed", parents := ["IEntry"] },
      members := [
        { name := "Kind", type := .reference "string", accessors := ⟨true, false, false⟩ },
        { name := "Title", type := .reference "string", accessors := ⟨true, false, true⟩ }] }]
  distinct := by decide

theorem resolve_inherits_reports :
    ∃ below above, reports.resolve ⟨0⟩ = .ok below ∧ reports.resolve ⟨1⟩ = .ok above ∧
      above.collisions = ["Kind"] ∧ above.collisions ⊆ below.collisions ∧
      ∀ m ∈ above.members, ∃ m' ∈ below.members,
        m'.key = m.key ∧ m.accessors ≤ m'.accessors ∧ m.origins ⊆ m'.origins ∧
          (m.isQualified = true → m'.isQualified = true) := by
  have hclosure : reports.closure ⟨0⟩ = .ok [⟨0⟩, ⟨2⟩, ⟨1⟩, ⟨3⟩] := by cbv
  have hancestors : reports.closure ⟨1⟩ = .ok [⟨1⟩, ⟨2⟩, ⟨3⟩] := by cbv
  have hbelow := resolve_eq_ok_iff.2 ⟨_, hclosure, by decide, rfl⟩
  have habove := resolve_eq_ok_iff.2 ⟨_, hancestors, by decide, rfl⟩
  obtain ⟨hmembers, hcollisions⟩ := resolve_inherits hclosure (by decide) hbelow habove
  exact ⟨_, _, hbelow, habove, by decide, hcollisions, hmembers⟩

end ContractIndex

end ClassSynthesis
