import ClassSynthesis.Proofs.Decimal.Numeral
import ClassSynthesis.Synthesis.NameScope
import Mathlib.Data.Finset.Card
import Mathlib.Data.List.Nodup
import Mathlib.Order.Bounds.Basic

/-!
# Names Handed Out by a Scope

The wish and its suffixed forms are one more name than there are names in use, so one of the
suffixed forms is free and the search for the smallest suffix ends (`NameScope.search_iff`). It
ends at a suffix that is not larger than the number of names in use
(`NameScope.freeSuffix_le_card`).

From one call the laws of a whole run follow by induction: what is in use after it are the names
reserved and returned (`NameScope.isUsed_serveAll_iff`), so the names returned are distinct and
differ from those reserved before (`NameScope.requests_granted`).

## Main definitions

- `NameScope.Search`: the search for a suffix as a loop that tries one suffix after the other.
- `NameScope.Request`, `NameScope.serveAll`, `NameScope.returned`: calls on a scope and what they
  return.
- `NameScope.Grants`: the name that is due to a wish.
-/

namespace ClassSynthesis

namespace NameScope

variable {scope : NameScope} {base name : String}

theorem isUsed_iff : scope.isUsed name = true ↔ name ∈ scope.used := by
  simp [isUsed]

/-- Suffixed forms of one wish differ by their suffixes. -/
theorem suffixed_injective (base : String) : Function.Injective (suffixed base) := by
  intro m n h
  apply Decimal.toString_injective
  exact (String.append_right_inj base).1 h

/-- A suffixed form is longer than the wish. -/
theorem suffixed_ne (base : String) (n : Nat) : suffixed base n ≠ base := by
  intro h
  exact Nat.repr_ne_empty (String.append_eq_left_iff.1 h)

/-- When the wish is in use, a suffix up to the number of names in use makes it free. -/
theorem exists_free_suffix (h : scope.isUsed base = true) :
    ∃ n < scope.used.toFinset.card, scope.isUsed (suffixed base (n + 1)) = false := by
  by_contra! hall
  -- Otherwise the wish and its suffixed forms are all in use, and they are too many.
  let candidates :=
    base :: (List.range scope.used.toFinset.card).map fun n => suffixed base (n + 1)
  have hsub : candidates ⊆ scope.used.dedup := by
    intro name hname
    apply List.mem_dedup.2
    rcases List.mem_cons.1 hname with rfl | hname
    · exact isUsed_iff.1 h
    · obtain ⟨n, hn, rfl⟩ := List.mem_map.1 hname
      exact isUsed_iff.1 (by simpa using hall n (List.mem_range.1 hn))
  have hnodup : candidates.Nodup := by
    refine List.nodup_cons.2 ⟨?_, List.nodup_range.map fun m n hmn => ?_⟩
    · simp [suffixed_ne]
    · exact Nat.succ.inj (suffixed_injective base hmn)
  have hlength := hnodup.length_le_of_subset hsub
  have hcandidates : candidates.length = scope.used.toFinset.card + 1 := by simp [candidates]
  rw [hcandidates, ← List.card_toFinset] at hlength
  omega

/-- The suffix found is the smallest positive one that makes the wish free. -/
theorem isLeast_freeSuffix (h : scope.isUsed base = true) :
    IsLeast {k | 1 ≤ k ∧ scope.isUsed (suffixed base k) = false} (scope.freeSuffix base) := by
  obtain ⟨n, hn, hfree⟩ := exists_free_suffix h
  rw [freeSuffix]
  cases hfind : (List.range scope.used.length).find? fun n =>
      !scope.isUsed (suffixed base (n + 1)) with
  | none =>
    -- The search passes over no free suffix.
    have hrange : n ∈ List.range scope.used.length :=
      List.mem_range.2 (hn.trans_le (List.toFinset_card_le scope.used))
    have hnone := List.find?_eq_none.1 hfind n hrange
    simp [hfree] at hnone
  | some m =>
    obtain ⟨hm, -, hbefore⟩ := List.find?_range_eq_some.1 hfind
    refine ⟨⟨Nat.succ_le_succ (Nat.zero_le m), by simpa using hm⟩, ?_⟩
    rintro k ⟨hpos, hk⟩
    show m + 1 ≤ k
    by_contra hlt
    have htaken := hbefore (k - 1) (by omega)
    rw [Nat.sub_add_cancel hpos, hk] at htaken
    simp at htaken

/-- There are at least as many names in use as the suffix says. -/
theorem freeSuffix_le_card (h : scope.isUsed base = true) :
    scope.freeSuffix base ≤ scope.used.toFinset.card := by
  obtain ⟨n, hn, hfree⟩ := exists_free_suffix h
  have hle := (isLeast_freeSuffix h).2 ⟨Nat.succ_le_succ (Nat.zero_le n), hfree⟩
  omega

/-- The suffix found makes the wish free. -/
theorem isUsed_suffixed_freeSuffix (h : scope.isUsed base = true) :
    scope.isUsed (suffixed base (scope.freeSuffix base)) = false :=
  (isLeast_freeSuffix h).1.2

theorem pick_of_isUsed (h : scope.isUsed base = true) :
    scope.pick base = suffixed base (scope.freeSuffix base) := by
  simp [pick, h]

/-- The name handed out is not in use. -/
theorem isUsed_pick (scope : NameScope) (base : String) :
    scope.isUsed (scope.pick base) = false := by
  cases h : scope.isUsed base with
  | false => rwa [pick_of_not_isUsed h]
  | true =>
    rw [pick_of_isUsed h]
    exact isUsed_suffixed_freeSuffix h

/-- A name in use is not handed out. -/
theorem pick_ne_of_isUsed (h : scope.isUsed name = true) : scope.pick base ≠ name := by
  rintro rfl
  rw [isUsed_pick] at h
  cases h

/-! ## The search as a loop -/

/-- The search for a suffix, entered with some suffix: it ends with the first suffixed form that
is free. There is no step to a suffix that reaches the limit of the counter. -/
inductive Search (scope : NameScope) (base : String) (limit : Nat) : Nat → String → Prop
  /-- The suffixed form is free. -/
  | free {k : Nat} : scope.isUsed (suffixed base k) = false →
      Search scope base limit k (suffixed base k)
  /-- The suffixed form is taken, and the search goes on with the next suffix. -/
  | taken {k : Nat} {found : String} : scope.isUsed (suffixed base k) = true → k + 1 < limit →
      Search scope base limit (k + 1) found → Search scope base limit k found

/-- The search ends with one name at most. -/
theorem Search.unique {limit k : Nat} {found other : String}
    (h : Search scope base limit k found) (h' : Search scope base limit k other) :
    found = other := by
  induction h with
  | free hfree =>
    cases h' with
    | free => rfl
    | taken htaken => simp [hfree] at htaken
  | taken htaken _ _ ih =>
    cases h' with
    | free hfree => simp [hfree] at htaken
    | taken _ _ hrest => exact ih hrest

/-- From every positive suffix up to the one found, the search ends there. -/
theorem search_freeSuffix {limit : Nat} (h : scope.isUsed base = true)
    (hlimit : scope.freeSuffix base < limit) {k : Nat} (hpos : 1 ≤ k)
    (hk : k ≤ scope.freeSuffix base) : Search scope base limit k (scope.pick base) := by
  rw [pick_of_isUsed h]
  -- The induction is on the number of suffixes that are still to be tried.
  obtain ⟨rest, hrest⟩ := Nat.exists_eq_add_of_le hk
  induction rest generalizing k with
  | zero =>
    have hend : k = scope.freeSuffix base := by omega
    rw [hend]
    exact Search.free (isUsed_suffixed_freeSuffix h)
  | succ rest ih =>
    have htaken : scope.isUsed (suffixed base k) = true := by
      by_contra hfree
      have hle := (isLeast_freeSuffix h).2 ⟨hpos, by simpa using hfree⟩
      omega
    exact Search.taken htaken (by omega) (ih (by omega) (by omega) (by omega))

/-- When the wish is in use, the search that begins with the suffix one ends with the name that
is handed out, unless the limit of the counter is as small as the number of names in use. -/
theorem search_iff {limit : Nat} (h : scope.isUsed base = true)
    (hlimit : scope.used.toFinset.card < limit) {found : String} :
    Search scope base limit 1 found ↔ found = scope.pick base := by
  have hend : Search scope base limit 1 (scope.pick base) :=
    search_freeSuffix h ((freeSuffix_le_card h).trans_lt hlimit) le_rfl (isLeast_freeSuffix h).1.1
  constructor
  · intro hfound
    exact hfound.unique hend
  · rintro rfl
    exact hend

/-! ## Calls in any order -/

/-- A call on a scope. -/
inductive Request
  /-- Take a name out of circulation. -/
  | reserve (name : String)
  /-- Hand out a name for a wish. -/
  | allocate (wish : String)

/-- The scope after a call. -/
def serve (scope : NameScope) : Request → NameScope
  | .reserve name => scope.reserve name
  | .allocate wish => (scope.allocate wish).2

/-- The scope after calls in turn. -/
def serveAll (scope : NameScope) (requests : List Request) : NameScope :=
  requests.foldl serve scope

/-- The names that calls return, in order. -/
def returned (scope : NameScope) : List Request → List String
  | [] => []
  | .reserve name :: rest => (scope.reserve name).returned rest
  | .allocate wish :: rest =>
    (scope.allocate wish).1 :: (scope.allocate wish).2.returned rest

/-- The names that calls reserve, in order. -/
def reserved : List Request → List String
  | [] => []
  | .reserve name :: rest => name :: reserved rest
  | .allocate _ :: rest => reserved rest

/-- The names reserved or returned by calls on a scope in which every name was free. -/
def namesInUse (requests : List Request) : Finset String :=
  (reserved requests ++ empty.returned requests).toFinset

variable {requests : List Request}

/-- After calls, the names that they have reserved or returned are in use as well. -/
theorem isUsed_serveAll_iff :
    (scope.serveAll requests).isUsed name = true ↔
      scope.isUsed name = true ∨ name ∈ reserved requests ∨ name ∈ scope.returned requests := by
  induction requests generalizing scope with
  | nil => simp [serveAll, reserved, returned]
  | cons request rest ih =>
    rw [serveAll, List.foldl_cons]
    refine ih.trans ?_
    cases request with
    | reserve other =>
      simp only [serve, isUsed_reserve, Bool.or_eq_true, beq_iff_eq, reserved, returned,
        List.mem_cons]
      tauto
    | allocate wish =>
      simp only [serve, allocate, isUsed_reserve, Bool.or_eq_true, beq_iff_eq, reserved,
        returned, List.mem_cons]
      tauto

/-- The names returned were free. -/
theorem isUsed_of_mem_returned (h : name ∈ scope.returned requests) :
    scope.isUsed name = false := by
  induction requests generalizing scope with
  | nil => cases h
  | cons request rest ih =>
    have hlater : ∀ other, name ∈ (scope.reserve other).returned rest →
        scope.isUsed name = false := by
      intro other hmem
      have hfree := ih hmem
      rw [isUsed_reserve, Bool.or_eq_false_iff] at hfree
      exact hfree.2
    cases request with
    | reserve other => exact hlater other h
    | allocate wish =>
      rcases List.mem_cons.1 h with rfl | hmem
      · exact isUsed_pick scope wish
      · exact hlater _ hmem

/-- No name is returned twice. -/
theorem nodup_returned (scope : NameScope) (requests : List Request) :
    (scope.returned requests).Nodup := by
  induction requests generalizing scope with
  | nil => exact List.nodup_nil
  | cons request rest ih =>
    cases request with
    | reserve other => exact ih _
    | allocate wish =>
      refine List.nodup_cons.2 ⟨fun hmem => ?_, ih _⟩
      -- What is returned first is in use when the others are returned.
      have hfree := isUsed_of_mem_returned hmem
      simp [allocate] at hfree

/-- In use are the names reserved and returned. -/
theorem toFinset_used_serveAll (requests : List Request) :
    (empty.serveAll requests).used.toFinset = namesInUse requests := by
  ext name
  have hempty : empty.isUsed name = false := rfl
  rw [List.mem_toFinset, ← isUsed_iff, isUsed_serveAll_iff, hempty, namesInUse,
    List.mem_toFinset, List.mem_append]
  simp

/-- `name` is due to the wish where some names are in use: the wish itself when it is free, and
otherwise the wish with the smallest positive suffix that makes it free. The suffix is at most
the number of names in use. -/
def Grants (inUse : Finset String) (wish name : String) : Prop :=
  (wish ∉ inUse → name = wish) ∧
  (wish ∈ inUse → ∃ k, IsLeast {k | 1 ≤ k ∧ wish ++ toString k ∉ inUse} k ∧ k ≤ inUse.card ∧
    name = wish ++ toString k)

theorem grants_pick (scope : NameScope) (wish : String) :
    Grants scope.used.toFinset wish (scope.pick wish) := by
  have hmem : ∀ name, name ∈ scope.used.toFinset ↔ scope.isUsed name = true := by
    intro name
    rw [List.mem_toFinset, isUsed_iff]
  constructor
  · intro hfree
    rw [hmem, Bool.not_eq_true] at hfree
    exact pick_of_not_isUsed hfree
  · intro hused
    rw [hmem] at hused
    refine ⟨scope.freeSuffix wish, ?_, freeSuffix_le_card hused, pick_of_isUsed hused⟩
    simp only [hmem, Bool.not_eq_true]
    exact isLeast_freeSuffix hused

/-- After any calls on a fresh scope, a wish is granted the name that is due to it among the names
reserved and returned so far. If it is in use, the search for a suffix ends with this name, and it
does so with every counter whose limit is above the number of names in use. No name is returned
twice, and no name that is returned later has been reserved. -/
theorem requests_granted (requests : List Request) :
    (∀ wish, Grants (namesInUse requests) wish ((empty.serveAll requests).allocate wish).1) ∧
    (∀ wish ∈ namesInUse requests, ∀ limit, (namesInUse requests).card < limit →
      ∀ found, Search (empty.serveAll requests) wish limit 1 found ↔
        found = ((empty.serveAll requests).allocate wish).1) ∧
    (empty.returned requests).Nodup ∧
    (∀ later, ∀ name ∈ (empty.serveAll requests).returned later, name ∉ reserved requests) := by
  rw [← toFinset_used_serveAll]
  refine ⟨fun wish => grants_pick _ wish, ?_, nodup_returned _ _, ?_⟩
  · intro wish hwish limit hlimit found
    exact search_iff (isUsed_iff.2 (List.mem_toFinset.1 hwish)) hlimit
  · intro later name hname hreserved
    -- What is reserved is in use from then on, and what is returned was free.
    have hused : (empty.serveAll requests).isUsed name = true :=
      isUsed_serveAll_iff.2 (Or.inr (Or.inl hreserved))
    rw [isUsed_of_mem_returned hname] at hused
    cases hused

/-- A suffixed form can be wished for as well, before or after it has been handed out. -/
example :
    empty.returned [.reserve "woo1", .allocate "woo", .allocate "woo", .allocate "woo2"] =
      ["woo", "woo2", "woo21"] := by decide +kernel

end NameScope

end ClassSynthesis
