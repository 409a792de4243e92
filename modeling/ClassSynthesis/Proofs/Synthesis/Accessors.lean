import ClassSynthesis.Proofs.Synthesis.Collisions
import ClassSynthesis.Proofs.Synthesis.Inheritance
import ClassSynthesis.Proofs.Synthesis.Origins

/-!
# The Accessors That Contracts Declare

A resolved member has one origin for each contract of the closure that declares its key, in
closure order, and the accessors of the member are those of all declarations together. An
origin is the first declaration of the key in its contract. So it has all accessors that the
contract declares for the key exactly when the first of these declarations has them
(`ContractIndex.origins_declare`); a contract that repeats a key may declare more than its
origin shows (`ContractIndex.accessors_lost_after_repetition`).

## Main definitions

- `ContractIndex.readable`: the readable properties of a key that a contract declares.
- `ContractIndex.declaredAccessors`: their accessors together.
-/

namespace ClassSynthesis

namespace AccessorSet

/-- The accessors of several sets together. -/
def unionAll (sets : List AccessorSet) : AccessorSet := sets.foldr union empty

/-- Several sets are below one that each of them is below. -/
theorem unionAll_le_iff {sets : List AccessorSet} {a : AccessorSet} :
    unionAll sets ≤ a ↔ ∀ b ∈ sets, b ≤ a := by
  induction sets with
  | nil => simp [unionAll, le_iff, empty]
  | cons first rest ih =>
    show first ⊔ unionAll rest ≤ a ↔ _
    rw [sup_le_iff, ih, List.forall_mem_cons]

theorem le_unionAll {sets : List AccessorSet} {b : AccessorSet} (h : b ∈ sets) :
    b ≤ unionAll sets :=
  unionAll_le_iff.1 le_rfl b h

/-- One of several sets is all of them together when the others are below it. -/
theorem eq_unionAll_iff {sets : List AccessorSet} {b : AccessorSet} (h : b ∈ sets) :
    b = unionAll sets ↔ ∀ a ∈ sets, a ≤ b := by
  rw [← unionAll_le_iff]
  exact ⟨fun heq => heq.ge, fun hle => le_antisymm (le_unionAll h) hle⟩

end AccessorSet

namespace MergedMember

/-- A further declaration adds its contract to those of the origins, if it is not one of them. -/
theorem map_contract_absorb (m : MergedMember) (o : MemberOrigin) :
    (m.absorb o).origins.map MemberOrigin.contract =
      if o.contract ∈ m.origins.map MemberOrigin.contract then
        m.origins.map MemberOrigin.contract
      else m.origins.map MemberOrigin.contract ++ [o.contract] := by
  rw [origins_absorb, if_congr (hasOrigin_iff m o.contract) rfl rfl]
  split
  · rfl
  · rw [List.map_append, List.map_singleton]

end MergedMember

/-- The contracts of the origins are those that declare the key, in the order in which they
first do. -/
theorem map_contract_of_mem_merge {origins : List MemberOrigin} :
    ∀ m ∈ merge origins, m.origins.map MemberOrigin.contract =
      ((declarationsOf m.key origins).map MemberOrigin.contract).eraseDups := by
  refine merge_induction (P := fun declared m =>
    m.origins.map MemberOrigin.contract = (declared.map MemberOrigin.contract).eraseDups) ?_ ?_
  · intro o
    rfl
  · intro declared m o h
    rw [MergedMember.map_contract_absorb, List.map_append, List.map_singleton, eraseDups_concat, h]
    simp only [List.mem_eraseDups]

/-- Removing what does not occur changes nothing. -/
private theorem removeAll_eq_self {α : Type} [BEq α] [LawfulBEq α] {l removed : List α}
    (h : ∀ a ∈ l, a ∉ removed) : l.removeAll removed = l := by
  rw [List.removeAll, List.filter_eq_self]
  simpa using h

namespace ContractIndex

variable {index : ContractIndex} {id : ContractId} {key : MemberKey}

/-- The readable properties of a key that a contract declares, in the order declared. -/
def readable (index : ContractIndex) (id : ContractId) (key : MemberKey) : List Member :=
  (index.membersOf id).filter fun m => m.kind == .property && m.accessors.get && m.key == key

/-- The accessors that a contract declares for a key. -/
def declaredAccessors (index : ContractIndex) (id : ContractId) (key : MemberKey) :
    AccessorSet :=
  .unionAll ((index.readable id key).map (·.accessors))

/-- The declarations of a key that a registered contract contributes are its readable
properties of the key. -/
theorem declarationsOf_eligibleOrigins {c : Contract} (h : index.contract? id = some c)
    (key : MemberKey) :
    declarationsOf key (index.eligibleOrigins id) =
      (index.readable id key).map fun member => ⟨id, c.name, c.context, member⟩ := by
  rw [declarationsOf, eligibleOrigins, h, readable]
  simp only [List.filter_map, List.filter_filter]
  refine congrArg _ (List.filter_congr fun m _ => ?_)
  show (m.key == key && m.isEligible) = _
  rw [Bool.and_comm]
  rfl

/-- An origin is the first readable property of its key that its contract declares. -/
theorem head?_readable_of_mem_origins {closure : List ContractId} {m : ResolvedMember}
    (hm : m ∈ qualifyCollisions (merge (closure.flatMap index.eligibleOrigins)))
    {o : MemberOrigin} (ho : o ∈ m.origins) :
    (index.readable o.contract m.key).head? = some o.member ∧
      ∃ c, index.contract? o.contract = some c ∧ o.contractName = c.name ∧
        o.context = c.context := by
  rw [(gathers_of_mem_qualifyCollisions hm).origins, find?_declarationsOf_eq_some_iff] at ho
  have hmem := List.mem_of_find?_eq_some ho.2
  obtain ⟨c, hc, hname, hcontext⟩ := (declaredIn_of_mem_eligibleOrigins hmem).contract
  refine ⟨?_, c, hc, hname, hcontext⟩
  have hfirst : (declarationsOf m.key (index.eligibleOrigins o.contract)).head? = some o := by
    rw [declarationsOf, List.head?_filter]
    exact ho.2
  rw [declarationsOf_eligibleOrigins hc, List.head?_map, Option.map_eq_some_iff] at hfirst
  obtain ⟨member, hmember, heq⟩ := hfirst
  rw [hmember, ← heq]

/-- The contracts that declare a key among some contracts are some of these. -/
private theorem contract_mem_of_mem_declarationsOf {contracts : List ContractId}
    {other : ContractId} (h : other ∈ (declarationsOf key
      (contracts.flatMap index.eligibleOrigins)).map MemberOrigin.contract) :
    other ∈ contracts := by
  obtain ⟨o, ho, rfl⟩ := List.mem_map.1 h
  obtain ⟨owner, howner, ho⟩ := List.mem_flatMap.1 (List.mem_filter.1 ho).1
  rwa [contract_of_mem_eligibleOrigins ho]

/-- A contract that declares a key comes up once, however often it declares it. -/
private theorem eraseDups_map_contract_eligibleOrigins (h : ∃ c, index.contract? id = some c) :
    ((declarationsOf key (index.eligibleOrigins id)).map MemberOrigin.contract).eraseDups =
      if (index.readable id key).isEmpty then [] else [id] := by
  obtain ⟨c, hc⟩ := h
  rw [declarationsOf_eligibleOrigins hc, List.map_map]
  show ((index.readable id key).map fun _ => id).eraseDups = _
  cases index.readable id key with
  | nil => rfl
  | cons first rest => simp [List.eraseDups_cons]

/-- Among the declarations of several contracts, each contract that declares a key comes up at
its own place. -/
theorem eraseDups_map_contract_declarationsOf {contracts : List ContractId}
    (hnodup : contracts.Nodup) (hregistered : ∀ id ∈ contracts, ∃ c, index.contract? id = some c) :
    ((declarationsOf key (contracts.flatMap index.eligibleOrigins)).map
        MemberOrigin.contract).eraseDups =
      contracts.filter fun id => !(index.readable id key).isEmpty := by
  induction contracts with
  | nil => rfl
  | cons first rest ih =>
    obtain ⟨hfirst, hrest⟩ := List.nodup_cons.1 hnodup
    rw [List.forall_mem_cons] at hregistered
    rw [List.flatMap_cons, declarationsOf_append, List.map_append, List.eraseDups_append]
    -- What follows is by other contracts, so nothing of it has come up before.
    have hothers : ∀ other ∈ (declarationsOf key
        (rest.flatMap index.eligibleOrigins)).map MemberOrigin.contract,
        other ∉ (declarationsOf key (index.eligibleOrigins first)).map MemberOrigin.contract := by
      intro other hother hmem
      obtain ⟨o, ho, rfl⟩ := List.mem_map.1 hmem
      rw [contract_of_mem_eligibleOrigins (List.mem_filter.1 ho).1] at hother
      exact hfirst (contract_mem_of_mem_declarationsOf hother)
    rw [removeAll_eq_self hothers, eraseDups_map_contract_eligibleOrigins hregistered.1,
      ih hrest hregistered.2, List.filter_cons]
    cases (index.readable first key).isEmpty <;> rfl

/-- The declarations of a key in several contracts are the readable properties of the key that
each of them declares. -/
theorem forall_declarationsOf_iff {contracts : List ContractId}
    (hregistered : ∀ id ∈ contracts, ∃ c, index.contract? id = some c) {p : Member → Prop} :
    (∀ o ∈ declarationsOf key (contracts.flatMap index.eligibleOrigins), p o.member) ↔
      ∀ id ∈ contracts, ∀ d ∈ index.readable id key, p d := by
  have hpart : ∀ id ∈ contracts, (∀ o ∈ declarationsOf key (index.eligibleOrigins id), p o.member) ↔
      ∀ d ∈ index.readable id key, p d := by
    intro id hid
    obtain ⟨c, hc⟩ := hregistered id hid
    simp [declarationsOf_eligibleOrigins hc]
  rw [← forall₂_congr hpart, declarationsOf, List.filter_flatMap]
  simp only [List.mem_flatMap, declarationsOf]
  grind

/-- Each member of a resolution has one origin for each contract of the closure that declares
its key, in closure order. The origin is the first readable property of the key that the
contract declares, so it has all the accessors that the contract declares for the key exactly
when the first of these properties has them. The member has the accessors that the contracts
declare for its key together; so have its origins, if each has those of its contract. -/
theorem origins_declare {r : Resolution} (hresolve : index.resolve id = .ok r)
    {m : ResolvedMember} (hm : m ∈ r.members) :
    ∃ closure, index.closure id = .ok closure ∧ closure.Nodup ∧
      m.origins.map (·.contract) =
        closure.filter (fun owner => !(index.readable owner m.key).isEmpty) ∧
      (∀ o ∈ m.origins,
        (index.readable o.contract m.key).head? = some o.member ∧
        (∃ c, index.contract? o.contract = some c ∧ o.contractName = c.name ∧
          o.context = c.context) ∧
        (o.member.accessors = index.declaredAccessors o.contract m.key ↔
          ∀ d ∈ index.readable o.contract m.key, d.accessors ≤ o.member.accessors)) ∧
      m.accessors = .unionAll (closure.map fun owner => index.declaredAccessors owner m.key) ∧
      ((∀ o ∈ m.origins, o.member.accessors = index.declaredAccessors o.contract m.key) →
        .unionAll (m.origins.map (·.member.accessors)) = m.accessors) := by
  obtain ⟨closure, hclosure, -, rfl⟩ := resolve_eq_ok_iff.1 hresolve
  have hnodup := nodup_of_closure hclosure
  have hregistered := registered_of_closure hclosure
  have hgathers := gathers_of_mem_qualifyCollisions hm
  have hcontracts : m.origins.map (·.contract) =
      closure.filter (fun owner => !(index.readable owner m.key).isEmpty) := by
    rw [← eraseDups_map_contract_declarationsOf hnodup hregistered]
    exact map_contract_of_mem_merge m.toMergedMember (toMergedMember_mem hm)
  have haccessors : m.accessors =
      .unionAll (closure.map fun owner => index.declaredAccessors owner m.key) := by
    -- Both are the least set that has the accessors of all the declarations.
    refine eq_of_forall_ge_iff fun a => ?_
    have hdeclared : (∀ o ∈ declarationsOf m.key (closure.flatMap index.eligibleOrigins),
        o.member.accessors ≤ a) ↔
          ∀ owner ∈ closure, ∀ d ∈ index.readable owner m.key, d.accessors ≤ a :=
      forall_declarationsOf_iff (p := (·.accessors ≤ a)) hregistered
    rw [hgathers.accessors, hdeclared]
    simp [declaredAccessors, AccessorSet.unionAll_le_iff]
  refine ⟨closure, hclosure, hnodup, hcontracts, ?_, haccessors, ?_⟩
  · intro o ho
    obtain ⟨hfirst, hcontract⟩ := head?_readable_of_mem_origins hm ho
    refine ⟨hfirst, hcontract, ?_⟩
    rw [declaredAccessors, AccessorSet.eq_unionAll_iff
      (List.mem_map_of_mem (List.mem_of_mem_head? hfirst)), List.forall_mem_map]
  · intro hwhole
    rw [haccessors]
    refine eq_of_forall_ge_iff fun a => ?_
    rw [AccessorSet.unionAll_le_iff, AccessorSet.unionAll_le_iff, List.forall_mem_map,
      List.forall_mem_map]
    constructor
    · -- A contract without an origin declares nothing for the key.
      intro h owner howner
      by_cases hempty : index.readable owner m.key = []
      · simp [declaredAccessors, hempty, AccessorSet.unionAll_le_iff]
      · have hmem : owner ∈ m.origins.map (·.contract) := by
          rw [hcontracts]
          simp [howner, hempty]
        obtain ⟨o, ho, rfl⟩ := List.mem_map.1 hmem
        rw [← hwhole o ho]
        exact h o ho
    · intro h o ho
      have hmem : o.contract ∈ m.origins.map (·.contract) := List.mem_map_of_mem ho
      rw [hcontracts] at hmem
      rw [hwhole o ho]
      exact h o.contract (List.mem_filter.1 hmem).1

/-- A box whose size can be read, and which declares the size a second time, now to be written.
A part of it has a size that can be initialized. -/
def sized : ContractIndex where
  entries := [
    { contract := { name := .global "IBox", parents := ["IPart"] },
      members := [
        { name := "Size", type := .value "int", accessors := ⟨true, false, false⟩ },
        { name := "Size", type := .value "int", accessors := ⟨true, true, false⟩ }] },
    { contract := { name := .global "IPart" },
      members := [
        { name := "Size", type := .value "int", accessors := ⟨true, false, true⟩ }] }]
  distinct := by decide

theorem origins_declare_sized :
    ∃ r m, sized.resolve ⟨0⟩ = .ok r ∧ m ∈ r.members ∧ m.key = ⟨"Size", .value "int"⟩ ∧
      m.origins.map (·.contract) = [⟨0⟩, ⟨1⟩] ∧ m.accessors = ⟨true, true, true⟩ := by
  have hclosure : sized.closure ⟨0⟩ = .ok [⟨0⟩, ⟨1⟩] := by cbv
  have hresolve := resolve_eq_ok_iff.2 ⟨_, hclosure, by decide, rfl⟩
  obtain ⟨closure, hsame, -, horigins, -, haccessors, -⟩ :=
    origins_declare hresolve (List.mem_of_getElem? (i := 0) rfl)
  rw [hclosure] at hsame
  cases hsame
  exact ⟨_, _, hresolve, List.mem_of_getElem? (i := 0) rfl, by decide, horigins, haccessors⟩

/-- The origin of the box has lost the accessor that only its second declaration has. -/
theorem accessors_lost_after_repetition :
    ∃ r m o, sized.resolve ⟨0⟩ = .ok r ∧ m ∈ r.members ∧ o ∈ m.origins ∧
      o.contract = ⟨0⟩ ∧ o.member.accessors = ⟨true, false, false⟩ ∧
      sized.declaredAccessors ⟨0⟩ m.key = ⟨true, true, false⟩ ∧
      m.accessors ≠ .unionAll (m.origins.map (·.member.accessors)) := by
  have hclosure : sized.closure ⟨0⟩ = .ok [⟨0⟩, ⟨1⟩] := by cbv
  have hresolve := resolve_eq_ok_iff.2 ⟨_, hclosure, by decide, rfl⟩
  exact ⟨_, _, _, hresolve, List.mem_of_getElem? (i := 0) rfl, List.mem_cons_self, by decide⟩

end ContractIndex

end ClassSynthesis
