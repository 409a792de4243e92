import ClassSynthesis.Proofs.Contract.Registered
import ClassSynthesis.Proofs.Synthesis.Merge
import ClassSynthesis.Synthesis.Resolution
import Mathlib.Data.List.TakeWhile

/-!
# What a Contract Resolves To

Resolution reads the closure contract by contract. A blank name stops it at the first
contract that has one; otherwise the readable properties read are merged. `resolve_eq` says
this in one equation, from which the other statements follow.

## Main definitions

- `ContractIndex.eligibleOrigins`: the declarations that one contract contributes.
- `ContractIndex.declaredKeys`: the identities declared by a list of contracts.
-/

namespace ClassSynthesis

/-- A text is all blank when nothing of it is left after trimming. -/
theorem Text.allBlank_iff_trim_eq_empty (s : String) :
    Text.allBlank s = true ↔ Text.trim s = "" := by
  have hnil : Text.trim s = "" ↔ Text.trimBlanks s.toList = [] := by
    rw [Text.trim, String.ofList_eq_empty_iff]
  rw [hnil, Text.trimBlanks, List.reverse_eq_nil_iff, List.dropWhile_eq_nil_iff, Text.allBlank,
    List.all_eq_true]
  constructor
  · intro h c hc
    have hsub := (List.dropWhile_suffix Text.isBlank).subset (List.mem_reverse.1 hc)
    exact h c hsub
  · intro h
    -- What is left after the first trim starts with a character that is not blank.
    have hempty : s.toList.dropWhile Text.isBlank = [] := by
      by_contra hne
      have hhead := List.head_dropWhile_not Text.isBlank hne
      have hblank := h _ (List.mem_reverse.2 (List.head_mem hne))
      rw [hblank] at hhead
      cases hhead
    exact List.dropWhile_eq_nil_iff.1 hempty

namespace ContractIndex

/-- Some member that the contract declares has a blank name. -/
def hasBlankName (index : ContractIndex) (id : ContractId) : Bool :=
  (index.membersOf id).any fun member => Text.allBlank member.name

/-- The declarations that a contract contributes: its readable properties. -/
def eligibleOrigins (index : ContractIndex) (id : ContractId) : List MemberOrigin :=
  match index.contract? id with
  | none => []
  | some contract =>
    ((index.membersOf id).filter Member.isEligible).map fun member =>
      { contract := id, contractName := contract.name, context := contract.context, member }

/-- The identities of the readable properties that contracts declare, in the order read. -/
def declaredKeys (index : ContractIndex) (contracts : List ContractId) : List MemberKey :=
  ((contracts.flatMap index.membersOf).filter fun member =>
    member.kind == .property && member.accessors.get).map Member.key

theorem hasBlankName_eq_false_iff (index : ContractIndex) (id : ContractId) :
    index.hasBlankName id = false ↔ ∀ m ∈ index.membersOf id, Text.trim m.name ≠ "" := by
  rw [hasBlankName, List.any_eq_false]
  refine forall₂_congr fun m _ => ?_
  rw [not_iff_not]
  exact Text.allBlank_iff_trim_eq_empty m.name

/-- A registered contract contributes its declarations unless one of its names is blank. -/
theorem originsOf_eq {index : ContractIndex} {id : ContractId} {c : Contract}
    (h : index.contract? id = some c) :
    index.originsOf id =
      if index.hasBlankName id then .error (.emptyMemberName c.name.qualified)
      else .ok (index.eligibleOrigins id) := by
  have hrequire : index.require id = .ok c := by rw [require, h]
  rw [originsOf, hrequire, hasBlankName, eligibleOrigins, h]
  cases (index.membersOf id).any fun member => Text.allBlank member.name with
  | true => rfl
  | false => rfl

/-- Registered contracts contribute their declarations up to the first with a blank name. -/
theorem mapM_originsOf {index : ContractIndex} {ids : List ContractId}
    (h : ∀ id ∈ ids, ∃ c, index.contract? id = some c) :
    ids.mapM index.originsOf =
      match ids.find? index.hasBlankName with
      | some owner => .error (.emptyMemberName (index.displayName owner))
      | none => .ok (ids.map index.eligibleOrigins) := by
  induction ids with
  | nil => rfl
  | cons id rest ih =>
    -- The first contract either stops the reading or adds what it declares to the rest.
    obtain ⟨c, hc⟩ := h id List.mem_cons_self
    rw [List.mapM_cons, originsOf_eq hc, ih fun other hother =>
      h other (List.mem_cons_of_mem _ hother), List.find?_cons]
    cases hblank : index.hasBlankName id with
    | true =>
      change Except.error (ModelError.emptyMemberName c.name.qualified) =
        Except.error (.emptyMemberName (index.displayName id))
      rw [displayName_of_contract? hc]
    | false =>
      rw [if_neg Bool.false_ne_true]
      cases rest.find? index.hasBlankName with
      | some owner => rfl
      | none => rfl

/-- Resolution fails where the closure does, else at the first contract of the closure with
a blank name, and else merges what the contracts contribute. -/
theorem resolve_eq (index : ContractIndex) (id : ContractId) :
    index.resolve id =
      match index.closure id with
      | .error cause => .error ⟨index.displayName id, cause⟩
      | .ok closure =>
        match closure.find? index.hasBlankName with
        | some owner =>
          .error ⟨index.displayName id, .emptyMemberName (index.displayName owner)⟩
        | none => .ok (.ofOrigins id (closure.flatMap index.eligibleOrigins)) := by
  cases hclosure : index.closure id with
  | error cause =>
    rw [resolve, inheritedOrigins, hclosure]
    rfl
  | ok closure =>
    have hinherited : index.inheritedOrigins id =
        (closure.mapM index.originsOf).map List.flatten := by
      rw [inheritedOrigins, hclosure]
      rfl
    rw [resolve, hinherited, mapM_originsOf (registered_of_closure hclosure)]
    dsimp only
    cases closure.find? index.hasBlankName with
    | some owner => rfl
    | none =>
      rw [List.flatMap_def]
      rfl

theorem hasBlankName_eq_false_of_find? {index : ContractIndex} {closure : List ContractId} :
    closure.find? index.hasBlankName = none ↔
      ∀ owner ∈ closure, ∀ m ∈ index.membersOf owner, Text.trim m.name ≠ "" := by
  rw [List.find?_eq_none]
  refine forall₂_congr fun owner _ => ?_
  rw [Bool.not_eq_true, hasBlankName_eq_false_iff]

/-- A resolution that succeeds merges the declarations of its closure. -/
theorem resolve_eq_ok_iff {index : ContractIndex} {id : ContractId} {r : Resolution} :
    index.resolve id = .ok r ↔
      ∃ closure, index.closure id = .ok closure ∧
        (∀ owner ∈ closure, ∀ m ∈ index.membersOf owner, Text.trim m.name ≠ "") ∧
        r = .ofOrigins id (closure.flatMap index.eligibleOrigins) := by
  rw [resolve_eq]
  cases hclosure : index.closure id with
  | error cause =>
    constructor
    · intro h
      cases h
    · rintro ⟨closure, h, -⟩
      cases h
  | ok closure =>
    dsimp only
    cases hfind : closure.find? index.hasBlankName with
    | some owner =>
      -- A blank name is found, so it is not true that there is none.
      constructor
      · intro h
        cases h
      · rintro ⟨closure', h, hblank, -⟩
        cases h
        rw [hasBlankName_eq_false_of_find?.2 hblank] at hfind
        cases hfind
    | none =>
      constructor
      · intro h
        cases h
        exact ⟨closure, rfl, hasBlankName_eq_false_of_find?.1 hfind, rfl⟩
      · rintro ⟨closure', h, -, rfl⟩
        cases h
        rfl

/-- Where the closure succeeds, only a blank name in it makes resolution fail, and the contract
that declares it is named. -/
theorem cause_of_resolve_error {index : ContractIndex} {id : ContractId}
    {closure : List ContractId} {e : SynthesisError} (hclosure : index.closure id = .ok closure)
    (h : index.resolve id = .error e) :
    ∃ owner ∈ closure, index.hasBlankName owner = true ∧
      e.cause = .emptyMemberName (index.displayName owner) := by
  rw [resolve_eq, hclosure] at h
  dsimp only at h
  cases hfind : closure.find? index.hasBlankName with
  | some owner =>
    rw [hfind] at h
    cases h
    exact ⟨owner, List.mem_of_find?_eq_some hfind, List.find?_some hfind, rfl⟩
  | none =>
    rw [hfind] at h
    cases h

/-- Every failure is reported under the name of the contract. -/
theorem contract_of_resolve_error {index : ContractIndex} {id : ContractId}
    {e : SynthesisError} (h : index.resolve id = .error e) :
    e.contract = index.displayName id := by
  rw [resolve] at h
  split at h
  · cases h
  · cases h
    rfl

/-- The keys contributed by contracts are the keys they declare. -/
theorem map_key_eligibleOrigins {index : ContractIndex} {contracts : List ContractId}
    (h : ∀ id ∈ contracts, ∃ c, index.contract? id = some c) :
    (contracts.flatMap index.eligibleOrigins).map MemberOrigin.key =
      index.declaredKeys contracts := by
  induction contracts with
  | nil => rfl
  | cons id rest ih =>
    obtain ⟨c, hc⟩ := h id List.mem_cons_self
    have hrest := ih fun other hother => h other (List.mem_cons_of_mem _ hother)
    rw [declaredKeys] at hrest ⊢
    rw [List.flatMap_cons, List.flatMap_cons, List.map_append, hrest, List.filter_append,
      List.map_append, eligibleOrigins, hc]
    rw [List.map_map]
    rfl

end ContractIndex

/-- The keys of a resolution are those of the members merged. -/
theorem Resolution.map_key_members_ofOrigins (id : ContractId) (origins : List MemberOrigin) :
    (Resolution.ofOrigins id origins).members.map (·.key) =
      (merge origins).map MergedMember.key := by
  conv_rhs => rw [← map_toMergedMember_qualifyCollisions (merge origins)]
  rw [List.map_map]
  rfl

namespace ContractIndex

/-- Resolution succeeds exactly when the closure does and no contract of the closure
declares a member with a blank name. An error of the closure comes first; any other error is
that of a contract with a blank name. Every error is reported under the qualified name of
the contract, or under the number of an identity that is not registered. The members of a
resolution have distinct keys, which are the keys of the readable properties that the
contracts of the closure declare, in the order in which reading the closure first meets
them. -/
theorem resolve_members (index : ContractIndex) (id : ContractId) :
    ((∃ r, index.resolve id = .ok r) ↔
      ∃ closure, index.closure id = .ok closure ∧
        ∀ owner ∈ closure, ∀ m ∈ index.membersOf owner, Text.trim m.name ≠ "") ∧
    (∀ cause, index.closure id = .error cause →
      ∃ e, index.resolve id = .error e ∧ e.cause = cause) ∧
    (∀ closure e, index.closure id = .ok closure → index.resolve id = .error e →
      ∃ owner ∈ closure, index.hasBlankName owner = true ∧
        e.cause = .emptyMemberName (index.displayName owner)) ∧
    (∀ e, index.resolve id = .error e →
      e.contract =
        match index.contract? id with
        | some c => c.name.qualified
        | none => "#" ++ toString id.index) ∧
    ∀ r, index.resolve id = .ok r →
      ∃ closure, index.closure id = .ok closure ∧
        (r.members.map (·.key)).Nodup ∧
        (∀ key, key ∈ r.members.map (·.key) ↔ key ∈ index.declaredKeys closure) ∧
        (r.members.map (·.key)).Pairwise fun a b =>
          (index.declaredKeys closure).idxOf a < (index.declaredKeys closure).idxOf b := by
  refine ⟨?_, ?_, ?_, ?_, ?_⟩
  · constructor
    · rintro ⟨r, hr⟩
      obtain ⟨closure, hclosure, hblank, -⟩ := resolve_eq_ok_iff.1 hr
      exact ⟨closure, hclosure, hblank⟩
    · rintro ⟨closure, hclosure, hblank⟩
      exact ⟨_, resolve_eq_ok_iff.2 ⟨closure, hclosure, hblank, rfl⟩⟩
  · intro cause hcause
    rw [resolve_eq, hcause]
    exact ⟨_, rfl, rfl⟩
  · intro closure e hclosure he
    exact cause_of_resolve_error hclosure he
  · intro e he
    exact contract_of_resolve_error he
  · intro r hr
    obtain ⟨closure, hclosure, -, rfl⟩ := resolve_eq_ok_iff.1 hr
    refine ⟨closure, hclosure, ?_⟩
    rw [Resolution.map_key_members_ofOrigins,
      ← map_key_eligibleOrigins (registered_of_closure hclosure)]
    exact ⟨keys_merge_nodup _, fun _ => mem_keys_merge, keys_merge_pairwise _⟩

/-- An interface that repeats a property of its parent, which declares a method too. -/
def repeating : ContractIndex where
  entries := [
    { contract := { name := .global "IShape", parents := ["INamed"] },
      members := [
        { name := "Name", type := .reference "string", accessors := ⟨true, true, false⟩ }] },
    { contract := { name := .global "INamed" },
      members := [
        { name := "Reset", kind := .method, type := .reference "void" },
        { name := "Name", type := .reference "string", accessors := ⟨true, false, false⟩ },
        { name := "Size", type := .value "int", accessors := ⟨true, false, false⟩ }] }]
  distinct := by decide

theorem resolve_members_repeating :
    ∃ r, repeating.resolve ⟨0⟩ = .ok r ∧ (r.members.map (·.key)).Nodup ∧
      ∀ key, key ∈ r.members.map (·.key) ↔
        key = ⟨"Name", .reference "string"⟩ ∨ key = ⟨"Size", .value "int"⟩ := by
  have hclosure : repeating.closure ⟨0⟩ = .ok [⟨0⟩, ⟨1⟩] := by cbv
  obtain ⟨hsucceeds, -, -, -, hmembers⟩ := resolve_members repeating ⟨0⟩
  obtain ⟨r, hr⟩ := hsucceeds.2 ⟨_, hclosure, by decide⟩
  obtain ⟨closure, hsame, hnodup, hkeys, -⟩ := hmembers r hr
  rw [hclosure] at hsame
  cases hsame
  have hdeclared : repeating.declaredKeys [⟨0⟩, ⟨1⟩] =
      [⟨"Name", .reference "string"⟩, ⟨"Name", .reference "string"⟩,
        ⟨"Size", .value "int"⟩] := by
    decide
  refine ⟨r, hr, hnodup, fun key => ?_⟩
  rw [hkeys, hdeclared]
  simp

end ContractIndex

end ClassSynthesis
