import ClassSynthesis.Proofs.Synthesis.Resolution
import ClassSynthesis.Synthesis.SynthesizedClass

/-!
# The Members of a Synthesized Class and Their Origins

A synthesized class has one member for each resolved member; giving backing fields changes
nothing else. The origins of a member are declarations of registered contracts, which
declare the member's name and type, and no contract is an origin of a member twice.

- `declared_of_synthesize`: the origins of the members of a class.
- `nodup_plain_names`: members without a backing field have distinct names.
-/

namespace ClassSynthesis

/-- The accessor plan of one declaration on its own. -/
def MemberOrigin.plan (o : MemberOrigin) : AccessorPlan := .ofMember o.member o.context

/-- The declaration is one that a registered contract contributes. -/
structure MemberOrigin.DeclaredIn (index : ContractIndex) (o : MemberOrigin) : Prop where
  contract : ∃ c, index.contract? o.contract = some c ∧
    o.contractName = c.name ∧ o.context = c.context
  member : o.member ∈ index.membersOf o.contract
  eligible : o.member.isEligible = true

/-- What a contract contributes, it declares. -/
theorem ContractIndex.declaredIn_of_mem_eligibleOrigins {index : ContractIndex}
    {id : ContractId} {o : MemberOrigin} (h : o ∈ index.eligibleOrigins id) :
    o.DeclaredIn index := by
  rw [eligibleOrigins] at h
  cases hc : index.contract? id with
  | none =>
    rw [hc] at h
    cases h
  | some c =>
    rw [hc] at h
    obtain ⟨member, hmember, rfl⟩ := List.mem_map.1 h
    obtain ⟨hmem, heligible⟩ := List.mem_filter.1 hmember
    exact ⟨⟨c, hc, rfl, rfl⟩, hmem, heligible⟩

/-- So are the origins of what is merged from the contributions of several contracts. -/
theorem ContractIndex.declaredIn_of_mem_merge {index : ContractIndex}
    {closure : List ContractId} {m : MergedMember}
    (hm : m ∈ merge (closure.flatMap index.eligibleOrigins)) {o : MemberOrigin}
    (ho : o ∈ m.origins) : o.DeclaredIn index := by
  obtain ⟨owner, -, ho⟩ := List.mem_flatMap.1 ((sound_of_mem_merge _ hm).declared o ho)
  exact declaredIn_of_mem_eligibleOrigins ho

/-- Contracts of one qualified name are one contract. -/
theorem MemberOrigin.contract_eq_of_qualified_eq {index : ContractIndex}
    {o p : MemberOrigin} (ho : o.DeclaredIn index) (hp : p.DeclaredIn index)
    (h : o.contractName.qualified = p.contractName.qualified) : o.contract = p.contract := by
  obtain ⟨c, hc, hcname, -⟩ := ho.contract
  obtain ⟨d, hd, hdname, -⟩ := hp.contract
  obtain ⟨r, hr, rfl⟩ := ContractIndex.contract?_eq_some_iff.1 hc
  obtain ⟨s, hs, rfl⟩ := ContractIndex.contract?_eq_some_iff.1 hd
  rw [hcname, hdname] at h
  exact ContractIndex.eq_of_qualified_eq hr hs h

namespace SynthesizedMember

/-- A member whose origins are declarations of its name and type by distinct contracts of an
index. -/
structure DeclaredIn (index : ContractIndex) (m : SynthesizedMember) : Prop where
  origins : ∀ o ∈ m.resolved.origins, o.DeclaredIn index
  key : ∀ o ∈ m.resolved.origins, o.key = m.resolved.key
  contracts : (m.resolved.origins.map MemberOrigin.contract).Nodup

variable {index : ContractIndex} {m : SynthesizedMember} {o : MemberOrigin}

theorem DeclaredIn.name_eq (h : m.DeclaredIn index) (ho : o ∈ m.resolved.origins) :
    o.member.name = m.name :=
  congrArg MemberKey.name (h.key o ho)

theorem DeclaredIn.type_eq (h : m.DeclaredIn index) (ho : o ∈ m.resolved.origins) :
    o.member.type = m.type :=
  congrArg MemberKey.type (h.key o ho)

/-- The origins of a member belong to contracts of distinct qualified names. -/
theorem DeclaredIn.nodup_qualified (h : m.DeclaredIn index) :
    (m.resolved.origins.map fun o => o.contractName.qualified).Nodup := by
  -- Origins of one qualified name are of one contract, and each contract is an origin once.
  refine List.Nodup.map_on (fun o ho p hp hname => ?_) (List.Nodup.of_map _ h.contracts)
  have hcontract := MemberOrigin.contract_eq_of_qualified_eq (h.origins o ho) (h.origins p hp)
    hname
  exact List.inj_on_of_nodup_map h.contracts ho hp hcontract

end SynthesizedMember

/-! ## Backing fields -/

/-- Giving backing fields keeps the resolved members in order. -/
@[simp]
theorem map_resolved_assignFields (className : String) (scope : NameScope)
    (members : List ResolvedMember) :
    (assignFields className scope members).map SynthesizedMember.resolved = members := by
  induction members generalizing scope with
  | nil => rfl
  | cons m rest ih =>
    rw [assignFields]
    split
    · rw [List.map_cons, ih]
    · rw [List.map_cons, ih]

theorem SynthesizedClass.map_resolved_ofResolution (contract : Contract) (r : Resolution)
    (className : String) :
    (ofResolution contract r className).members.map SynthesizedMember.resolved = r.members :=
  map_resolved_assignFields ..

theorem SynthesizedClass.map_name_ofResolution (contract : Contract) (r : Resolution)
    (className : String) :
    (ofResolution contract r className).members.map SynthesizedMember.name =
      r.members.map (·.name) := by
  rw [← map_resolved_ofResolution contract r className, List.map_map]
  rfl

/-- A member has a backing field exactly when it needs one. -/
theorem isSome_backingField_of_mem {className : String} {scope : NameScope}
    {members : List ResolvedMember} {m : SynthesizedMember}
    (h : m ∈ assignFields className scope members) :
    m.backingField.isSome = m.resolved.needsField className := by
  induction members generalizing scope with
  | nil => cases h
  | cons first rest ih =>
    rw [assignFields] at h
    split at h
    next hneeds =>
      rcases List.mem_cons.1 h with rfl | h
      · exact hneeds.symm
      · exact ih h
    next hneeds =>
      rcases List.mem_cons.1 h with rfl | h
      · rw [Bool.not_eq_true] at hneeds
        exact hneeds.symm
      · exact ih h

namespace ContractIndex

/-- A class that is synthesized is the one for what its contract resolves to. -/
theorem synthesize_eq_ok_iff {index : ContractIndex} {id : ContractId} {className : String}
    {c : SynthesizedClass} :
    index.synthesize id className = .ok c ↔
      ∃ contract resolution, index.contract? id = some contract ∧
        index.resolve id = .ok resolution ∧
        c = .ofResolution contract resolution className := by
  constructor
  · intro h
    rw [synthesize] at h
    cases hresolve : index.resolve id with
    | error e =>
      rw [hresolve] at h
      cases h
    | ok resolution =>
      rw [hresolve] at h
      cases hcontract : index.contract? id with
      | none =>
        simp only [hcontract] at h
        cases h
      | some contract =>
        simp only [hcontract] at h
        cases h
        exact ⟨contract, resolution, rfl, rfl, rfl⟩
  · rintro ⟨contract, resolution, hcontract, hresolve, rfl⟩
    simp only [synthesize, hresolve, hcontract]
    rfl

variable {index : ContractIndex} {id : ContractId} {className : String} {c : SynthesizedClass}

/-- The members of a synthesized class are those of a merge over a closure, with fields. -/
theorem members_of_synthesize (h : index.synthesize id className = .ok c) :
    ∃ closure, index.closure id = .ok closure ∧
      c.members.map SynthesizedMember.resolved =
        qualifyCollisions (merge (closure.flatMap index.eligibleOrigins)) ∧
      ∀ m ∈ c.members, m.backingField.isSome = m.resolved.needsField className := by
  obtain ⟨contract, resolution, -, hresolve, rfl⟩ := synthesize_eq_ok_iff.1 h
  obtain ⟨closure, hclosure, -, rfl⟩ := resolve_eq_ok_iff.1 hresolve
  exact ⟨closure, hclosure, map_resolved_assignFields .., fun m hm =>
    isSome_backingField_of_mem hm⟩

/-- The origins of the members of a synthesized class are declarations of its index. -/
theorem declared_of_synthesize (h : index.synthesize id className = .ok c) :
    ∀ m ∈ c.members, m.DeclaredIn index := by
  obtain ⟨closure, -, hmembers, -⟩ := members_of_synthesize h
  intro m hm
  have hresolved : m.resolved.toMergedMember ∈
      merge (closure.flatMap index.eligibleOrigins) := by
    refine toMergedMember_mem ?_
    rw [← hmembers]
    exact List.mem_map_of_mem hm
  have hsound := sound_of_mem_merge _ hresolved
  exact ⟨fun o => declaredIn_of_mem_merge hresolved, hsound.key, hsound.contracts⟩

/-- Members without a backing field have distinct names. -/
theorem nodup_plain_names (h : index.synthesize id className = .ok c) :
    ((c.members.filter (·.backingField.isNone)).map SynthesizedMember.name).Nodup := by
  obtain ⟨closure, -, hmembers, hfields⟩ := members_of_synthesize h
  -- A member without a field is not qualified, so these names are some of the plain ones.
  have hplain : ∀ m ∈ c.members, m.backingField.isNone = true →
      (!m.resolved.isQualified) = true := by
    intro m hm hnone
    have hneeds := hfields m hm
    rw [Option.isSome_eq_false_iff.2 hnone, ResolvedMember.needsField] at hneeds
    rw [(Bool.or_eq_false_iff.1 hneeds.symm).1]
    rfl
  have hsub : ((c.members.filter (·.backingField.isNone)).map SynthesizedMember.name).Sublist
      (((c.members.map SynthesizedMember.resolved).filter (!·.isQualified)).map (·.name)) := by
    rw [List.filter_map, List.map_map]
    refine List.Sublist.map _ ?_
    have hfilter : c.members.filter (·.backingField.isNone) =
        (c.members.filter ((!·.isQualified) ∘ SynthesizedMember.resolved)).filter
          (·.backingField.isNone) := by
      rw [List.filter_filter]
      refine List.filter_congr fun m hm => ?_
      cases hnone : m.backingField.isNone with
      | false => rfl
      | true => exact (hplain m hm hnone).symm
    rw [hfilter]
    exact List.filter_sublist
  apply hsub.nodup
  rw [hmembers]
  exact names_unqualified_nodup _

end ContractIndex

end ClassSynthesis
