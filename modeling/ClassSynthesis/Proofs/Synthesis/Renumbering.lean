import ClassSynthesis.Proofs.Contract.Renumbering
import ClassSynthesis.Proofs.Synthesis.Origins

/-!
# Synthesis Does Not Depend on Numbers

Declarations remember the identity of their contract, and merging compares identities to
keep each contract once. Renumbering by an injection keeps these comparisons, so it commutes
with merging (`merge_renumber`). Nothing after merging looks at an identity. So the class
that another index gives to a corresponding contract is the renumbered class
(`Renumbers.synthesize`).
-/

namespace ClassSynthesis

/-! ## Renumbered records -/

/-- The declaration with its contract renumbered. -/
def MemberOrigin.renumber (f : ContractId → ContractId) (o : MemberOrigin) : MemberOrigin :=
  { o with contract := f o.contract }

/-- The member with the contracts of its origins renumbered. -/
def MergedMember.renumber (f : ContractId → ContractId) (m : MergedMember) : MergedMember :=
  { m with first := m.first.renumber f, others := m.others.map (·.renumber f) }

/-- The member with the contracts of its origins renumbered. -/
def ResolvedMember.renumber (f : ContractId → ContractId) (m : ResolvedMember) :
    ResolvedMember :=
  { m.toMergedMember.renumber f with isQualified := m.isQualified }

/-- The resolution with its contract and those of its members renumbered. -/
def Resolution.renumber (f : ContractId → ContractId) (r : Resolution) : Resolution :=
  { r with contract := f r.contract, members := r.members.map (·.renumber f) }

/-- The error with the identities in it renumbered. -/
def SynthesisError.renumber (f : ContractId → ContractId) (e : SynthesisError) :
    SynthesisError :=
  { e with cause := e.cause.renumber f }

/-- The member with the contracts of its origins renumbered. -/
def SynthesizedMember.renumber (f : ContractId → ContractId) (m : SynthesizedMember) :
    SynthesizedMember :=
  { m with resolved := m.resolved.renumber f }

/-- The class with its contract and those of its members renumbered. -/
def SynthesizedClass.renumber (f : ContractId → ContractId) (c : SynthesizedClass) :
    SynthesizedClass :=
  { c with contract := f c.contract, members := c.members.map (·.renumber f) }

/-! ## Merging -/

section Merge

variable {f : ContractId → ContractId}

theorem MergedMember.origins_renumber (m : MergedMember) :
    (m.renumber f).origins = m.origins.map (·.renumber f) := rfl

theorem MergedMember.hasOrigin_renumber (hf : Function.Injective f) (m : MergedMember)
    (contract : ContractId) :
    (m.renumber f).hasOrigin (f contract) = m.hasOrigin contract := by
  have hcontracts : (m.renumber f).origins.map MemberOrigin.contract =
      (m.origins.map MemberOrigin.contract).map f := by
    rw [origins_renumber, List.map_map, List.map_map]
    rfl
  rw [Bool.eq_iff_iff, hasOrigin_iff, hasOrigin_iff, hcontracts, List.mem_map_of_injective hf]

theorem MergedMember.absorb_renumber (hf : Function.Injective f) (m : MergedMember)
    (o : MemberOrigin) : (m.renumber f).absorb (o.renumber f) = (m.absorb o).renumber f := by
  have hhas : (m.renumber f).hasOrigin (o.renumber f).contract = m.hasOrigin o.contract :=
    m.hasOrigin_renumber hf o.contract
  unfold absorb
  rw [hhas]
  by_cases h : m.hasOrigin o.contract = true
  · -- The contract is an origin already, in both members.
    simp only [if_pos h]
    rfl
  · simp only [if_neg h, renumber, List.map_append]
    rfl

theorem addOrigin_renumber (hf : Function.Injective f) (members : List MergedMember)
    (o : MemberOrigin) :
    addOrigin (members.map (·.renumber f)) (o.renumber f) =
      (addOrigin members o).map (·.renumber f) := by
  induction members with
  | nil => rfl
  | cons m rest ih =>
    rw [List.map_cons, addOrigin, addOrigin]
    by_cases h : m.key = o.member.key
    · have h' : (m.renumber f).key = (o.renumber f).member.key := h
      rw [if_pos h, if_pos h', MergedMember.absorb_renumber hf]
      rfl
    · have h' : (m.renumber f).key ≠ (o.renumber f).member.key := h
      rw [if_neg h, if_neg h', ih]
      rfl

/-- Renumbered declarations make the renumbered members. -/
theorem merge_renumber (hf : Function.Injective f) (origins : List MemberOrigin) :
    merge (origins.map (·.renumber f)) = (merge origins).map (·.renumber f) := by
  induction origins using List.reverseRecOn with
  | nil => rfl
  | append_singleton origins o ih =>
    rw [List.map_append, List.map_singleton, merge_concat, merge_concat, ih,
      addOrigin_renumber hf]

theorem collisions_renumber (members : List MergedMember) :
    collisions (members.map (·.renumber f)) = collisions members := by
  unfold collisions
  rw [List.map_map]
  rfl

theorem qualifyCollisions_renumber (members : List MergedMember) :
    qualifyCollisions (members.map (·.renumber f)) =
      (qualifyCollisions members).map (·.renumber f) := by
  unfold qualifyCollisions
  rw [collisions_renumber, List.map_map, List.map_map]
  rfl

theorem Resolution.ofOrigins_renumber (hf : Function.Injective f) (id : ContractId)
    (origins : List MemberOrigin) :
    ofOrigins (f id) (origins.map (·.renumber f)) = (ofOrigins id origins).renumber f := by
  unfold ofOrigins
  rw [merge_renumber hf, qualifyCollisions_renumber, collisions_renumber]
  rfl

end Merge

/-! ## Classes -/

section Classes

variable {f : ContractId → ContractId} {className : String}

@[simp]
theorem ResolvedMember.name_renumber (m : ResolvedMember) : (m.renumber f).name = m.name := rfl

@[simp]
theorem ResolvedMember.needsField_renumber (m : ResolvedMember) :
    (m.renumber f).needsField className = m.needsField className := rfl

theorem fieldScope_renumber (members : List ResolvedMember) :
    fieldScope (members.map (·.renumber f)) className = fieldScope members className := by
  unfold fieldScope
  rw [List.filter_map, List.foldl_map]
  rfl

theorem assignFields_renumber (scope : NameScope) (members : List ResolvedMember) :
    assignFields className scope (members.map (·.renumber f)) =
      (assignFields className scope members).map (·.renumber f) := by
  induction members generalizing scope with
  | nil => rfl
  | cons m rest ih =>
    rw [List.map_cons, assignFields, assignFields, ResolvedMember.needsField_renumber,
      ResolvedMember.name_renumber]
    split
    · cases scope.allocate (Identifier.lowerCamel m.name) with
      | mk field next =>
        dsimp only
        rw [List.map_cons, ih]
        rfl
    · rw [List.map_cons, ih]
      rfl

theorem SynthesizedClass.ofResolution_renumber (contract : Contract) (r : Resolution) :
    ofResolution contract (r.renumber f) className =
      (ofResolution contract r className).renumber f := by
  have hresolved : (r.renumber f).members = r.members.map (·.renumber f) := rfl
  unfold ofResolution
  rw [hresolved, fieldScope_renumber, assignFields_renumber]
  -- Constructors are planned from names and plans, which show no number.
  dsimp only
  rw [List.map_map]
  rfl

end Classes

namespace ContractIndex.Renumbers

variable {index other : ContractIndex} {ρ : ContractId ≃ ContractId}
  (h : Renumbers ρ index other)
include h

theorem hasBlankName (id : ContractId) : other.hasBlankName (ρ id) = index.hasBlankName id := by
  unfold ContractIndex.hasBlankName
  rw [h.membersOf]

/-- A registered contract is reported under the same name. -/
theorem displayName {id : ContractId} {c : Contract} (hc : index.contract? id = some c) :
    other.displayName (ρ id) = index.displayName id := by
  unfold ContractIndex.displayName
  rw [h.contract?, hc]

theorem eligibleOrigins (id : ContractId) :
    other.eligibleOrigins (ρ id) = (index.eligibleOrigins id).map (·.renumber ρ) := by
  unfold ContractIndex.eligibleOrigins
  rw [h.contract?, h.membersOf]
  cases index.contract? id with
  | none => rfl
  | some c =>
    dsimp only
    rw [List.map_map]
    rfl

/-- A registered contract resolves to the renumbered resolution, or fails likewise. -/
theorem resolve {id : ContractId} {c : Contract} (hc : index.contract? id = some c) :
    other.resolve (ρ id) =
      match index.resolve id with
      | .ok r => .ok (r.renumber ρ)
      | .error e => .error (e.renumber ρ) := by
  rw [resolve_eq, resolve_eq, h.closure, h.displayName hc]
  cases hclosure : index.closure id with
  | error e => rfl
  | ok closure =>
    have hblank : other.hasBlankName ∘ ρ = index.hasBlankName := by
      ext owner
      exact h.hasBlankName owner
    dsimp only [renumberResult]
    rw [List.find?_map, hblank]
    cases hfind : closure.find? index.hasBlankName with
    | some owner =>
      -- The contract with the blank name is named in the error, so it has to be registered.
      obtain ⟨d, hd⟩ := registered_of_closure hclosure owner (List.mem_of_find?_eq_some hfind)
      dsimp only [Option.map_some]
      rw [h.displayName hd]
      rfl
    | none =>
      have horigins : (closure.map ρ).flatMap other.eligibleOrigins =
          (closure.flatMap index.eligibleOrigins).map (·.renumber ρ) := by
        rw [List.flatMap_map, List.map_flatMap]
        congr 1
        ext1 owner
        exact h.eligibleOrigins owner
      dsimp only [Option.map_none]
      rw [horigins, Resolution.ofOrigins_renumber ρ.injective]

/-- A registered contract gets the renumbered class, or fails likewise. -/
theorem synthesize {id : ContractId} {c : Contract} (hc : index.contract? id = some c)
    (className : String) :
    other.synthesize (ρ id) className =
      match index.synthesize id className with
      | .ok c => .ok (c.renumber ρ)
      | .error e => .error (e.renumber ρ) := by
  unfold ContractIndex.synthesize
  rw [h.resolve hc, h.contract?, hc]
  cases index.resolve id with
  | error e => rfl
  | ok r => exact congrArg Except.ok (SynthesizedClass.ofResolution_renumber c r)

end ContractIndex.Renumbers

end ClassSynthesis
