import ClassSynthesis.Proofs.Text.ByteOrder
import ClassSynthesis.Proofs.Text.SortedTable
import ClassSynthesis.Synthesis.Identifier
import Mathlib.Data.List.Nodup

/-!
# Reserved Words

The search for a reserved word is a look-up in the table of reserved words
(`Identifier.isReserved_iff`). What escaping makes of a name is never a reserved word
(`Identifier.escape_not_mem`). Two names become the same text only when one is a reserved word
and the other is this word with an `@` of its own (`Identifier.eq_or_of_escape_eq`), so distinct
names stay distinct exactly when no reserved word stands next to such a name
(`Identifier.nodup_map_escape_iff`), and the like holds of names that are taken by others
(`Identifier.forall_map_escape_not_mem_iff`). In particular names without an `@` in front stay
distinct (`Identifier.reserved_words_law`).
-/

namespace ClassSynthesis

namespace Identifier

/-- The table of reserved words is increasing. -/
theorem increasing_reservedWords : reservedWords.toList.Pairwise (· < ·) := by
  rw [← List.isChain_iff_pairwise]
  decide +kernel

/-- The words found are the reserved words. -/
theorem isReserved_iff {word : String} : isReserved word = true ↔ word ∈ reservedWords :=
  Text.search_eq_true_iff increasing_reservedWords

/-- What holds of every character in the table holds of the characters of a reserved word. -/
theorem forall_of_mem_reservedWords {p : Char → Bool}
    (hall : (reservedWords.toList.all fun word => word.toList.all p) = true) {word : String}
    (h : word ∈ reservedWords) : ∀ c ∈ word.toList, p c = true := by
  simp only [List.all_eq_true] at hall
  exact hall word (Array.mem_toList_iff.2 h)

/-- There are no digits in reserved words. -/
theorem isDigit_of_mem_reservedWords {word : String} (h : word ∈ reservedWords) :
    ∀ c ∈ word.toList, c.isDigit = false := by
  intro c hc
  simpa using forall_of_mem_reservedWords (p := fun c => !c.isDigit) (by decide +kernel) h c hc

/-- No reserved word starts with an `@`. -/
theorem at_append_not_mem (word : String) : "@" ++ word ∉ reservedWords := by
  intro h
  have hat := forall_of_mem_reservedWords (p := (· != '@')) (by decide +kernel) h '@' (by simp)
  exact absurd hat (by decide)

theorem escape_of_mem {word : String} (h : word ∈ reservedWords) : escape word = "@" ++ word := by
  rw [escape, if_pos (isReserved_iff.2 h)]

theorem escape_of_not_mem {name : String} (h : name ∉ reservedWords) : escape name = name := by
  rw [escape, if_neg fun hreserved => h (isReserved_iff.1 hreserved)]

/-- An escaped name is not a reserved word. -/
theorem escape_not_mem (name : String) : escape name ∉ reservedWords := by
  by_cases h : name ∈ reservedWords
  · rw [escape_of_mem h]
    exact at_append_not_mem name
  · rwa [escape_of_not_mem h]

/-- Names that are escaped to one text are the same, or one of them is a reserved word and the
other is this word with an `@`. -/
theorem eq_or_of_escape_eq {a b : String} (h : escape a = escape b) :
    a = b ∨ (a ∈ reservedWords ∧ b = "@" ++ a) ∨ (b ∈ reservedWords ∧ a = "@" ++ b) := by
  by_cases ha : a ∈ reservedWords <;> by_cases hb : b ∈ reservedWords
  · rw [escape_of_mem ha, escape_of_mem hb] at h
    exact Or.inl ((String.append_right_inj "@").1 h)
  · rw [escape_of_mem ha, escape_of_not_mem hb] at h
    exact Or.inr (Or.inl ⟨ha, h.symm⟩)
  · rw [escape_of_not_mem ha, escape_of_mem hb] at h
    exact Or.inr (Or.inr ⟨hb, h⟩)
  · rw [escape_of_not_mem ha, escape_of_not_mem hb] at h
    exact Or.inl h

/-- Names that do not start with an `@` stay distinct when they are escaped. -/
theorem escape_injOn : {name : String | name.toList.head? ≠ some '@'}.InjOn escape := by
  intro a ha b hb h
  -- A name that another one is turned into has an `@` in front.
  have hat : ∀ word : String, ("@" ++ word).toList.head? = some '@' := by simp
  rcases eq_or_of_escape_eq h with heq | ⟨-, rfl⟩ | ⟨-, rfl⟩
  · exact heq
  · exact absurd (hat _) hb
  · exact absurd (hat _) ha

/-- The search compares words by their bytes in UTF-8, the table is increasing in this order, and
so the words found are exactly the words in the table. An escaped name is not found, and names
that do not start with an `@` stay distinct when they are escaped. -/
theorem reserved_words_law :
    (∀ word entry : String,
      compare word entry = compareOfLessAndEq (Text.bytes word) (Text.bytes entry)) ∧
    (reservedWords.toList.Pairwise fun entry later => Text.bytes entry < Text.bytes later) ∧
    (∀ word, isReserved word = true ↔ word ∈ reservedWords) ∧
    (∀ name, isReserved (escape name) = false) ∧
    {name : String | name.toList.head? ≠ some '@'}.InjOn escape := by
  refine ⟨Text.compare_eq_compareOfLessAndEq_bytes, ?_, fun _ => isReserved_iff, ?_, escape_injOn⟩
  · exact increasing_reservedWords.imp Text.bytes_lt_bytes
  · intro name
    apply Bool.eq_false_iff.2
    intro hreserved
    exact escape_not_mem name (isReserved_iff.1 hreserved)

/-- Distinct names stay distinct when they are escaped unless a reserved word and the same word
with an `@` are among them. -/
theorem nodup_map_escape_iff {names : List String} (h : names.Nodup) :
    (names.map escape).Nodup ↔
      ∀ word ∈ names, word ∈ reservedWords → "@" ++ word ∉ names := by
  constructor
  · intro hnodup word hword hreserved hat
    -- The word and the word with an `@` become the same text.
    have hsame : escape word = escape ("@" ++ word) := by
      rw [escape_of_mem hreserved, escape_of_not_mem (at_append_not_mem word)]
    have heq : word = "@" ++ word := List.inj_on_of_nodup_map hnodup hword hat hsame
    exact at_append_not_mem word (heq ▸ hreserved)
  · intro hapart
    refine h.map_on fun a ha b hb hsame => ?_
    rcases eq_or_of_escape_eq hsame with heq | ⟨hreserved, rfl⟩ | ⟨hreserved, rfl⟩
    · exact heq
    · exact absurd hb (hapart a ha hreserved)
    · exact absurd ha (hapart b hb hreserved)

/-- Where names are not taken, escaping them gives no name that is taken unless one of them is a
reserved word and this word with an `@` is taken. -/
theorem forall_map_escape_not_mem_iff {names taken : List String}
    (h : ∀ name ∈ names, name ∉ taken) :
    (∀ name ∈ names.map escape, name ∉ taken) ↔
      ∀ word ∈ names, word ∈ reservedWords → "@" ++ word ∉ taken := by
  rw [List.forall_mem_map]
  refine forall₂_congr fun name hname => ?_
  by_cases hreserved : name ∈ reservedWords
  · rw [escape_of_mem hreserved]
    exact ⟨fun hfree _ => hfree, fun hfree => hfree hreserved⟩
  · rw [escape_of_not_mem hreserved]
    exact iff_of_true (h name hname) fun hmem => absurd hmem hreserved

end Identifier

/-! ## Names that start with an `@` -/

/-- Only the `@` has a lower case that starts with an `@`. -/
theorem Text.lowercase_append_eq_at_cons_iff {c : Char} {rest tail : List Char} :
    Text.lowercase c ++ rest = '@' :: tail ↔ c = '@' ∧ rest = tail := by
  constructor
  · intro h
    rw [Text.lowercase] at h
    split at h
    · simp at h
    · split at h
      next run hrun =>
        -- The lower cases of all runs lie behind the `@`.
        have hbehind : ∀ run ∈ Text.caseRuns, 0x40 < run.lower := by decide +kernel
        have hlower := hbehind run (List.mem_of_find?_eq_some hrun)
        have hchar := (List.cons.inj h).1
        by_cases hvalid : (run.lower + (c.toNat - run.first)).isValidChar
        · rw [Char.ofNat, dif_pos hvalid] at hchar
          have hcode : run.lower + (c.toNat - run.first) = 0x40 := congrArg Char.toNat hchar
          omega
        · rw [Char.ofNat, dif_neg hvalid] at hchar
          exact absurd hchar (by decide)
      next hnone =>
        simpa using h
  · rintro ⟨rfl, rfl⟩
    have hat : Text.lowercase '@' = ['@'] := by decide +kernel
    rw [hat]
    rfl

/-- Lower-casing the first character makes an `@` of nothing else. -/
theorem Identifier.lowerCamel_eq_at_append_iff {name word : String} :
    lowerCamel name = "@" ++ word ↔ name = "@" ++ word := by
  have hat : ("@" ++ word).toList = '@' :: word.toList := by simp
  rw [← String.toList_inj, ← String.toList_inj, hat, lowerCamel]
  cases name.toList with
  | nil => simp
  | cons first rest =>
    rw [String.toList_ofList, Text.lowercase_append_eq_at_cons_iff, List.cons.injEq]

end ClassSynthesis
