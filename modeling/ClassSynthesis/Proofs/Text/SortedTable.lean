import ClassSynthesis.Text.SortedTable
import Mathlib.Data.String.Basic

/-!
# Searching a Sorted Table

In an increasing table, everything before an entry that is too small is too small as well, and
everything behind an entry that is too large is too large. So the half that binary search leaves
aside does not have the text, and the search finds a text exactly when the table has it
(`search_eq_true_iff`).
-/

namespace ClassSynthesis.Text

variable {table : Array String} {text : String}

/-- The search between two bounds finds a text exactly when it is an entry there. -/
theorem searchBetween_eq_true_iff (increasing : table.toList.Pairwise (· < ·)) {low high : Nat}
    (bound : high ≤ table.size) :
    searchBetween table text low high bound = true ↔
      ∃ i, ∃ h : i < table.size, low ≤ i ∧ i < high ∧ table[i] = text := by
  have hmono : ∀ {i j : Nat} (hi : i < table.size) (hj : j < table.size), i ≤ j →
      table[i] ≤ table[j] := by
    intro i j hi hj hij
    rcases Nat.eq_or_lt_of_le hij with rfl | hlt
    · exact le_rfl
    · exact (List.pairwise_iff_getElem.1 increasing i j hi hj hlt).le
  -- Along the search: the text is an entry of the half that goes on, or of neither half.
  induction low, high, bound using searchBetween.induct table text with
  | case1 low high bound hne middle inside hcompare ih =>
    have htext : text < table[middle] := compare_lt_iff_lt.1 hcompare
    rw [searchBetween, dif_pos hne]
    dsimp only
    rw [hcompare]
    -- The text comes before the middle, so an entry that it is does too.
    refine ih.trans ⟨?_, ?_⟩
    · rintro ⟨i, hi, hlow, hhigh, heq⟩
      exact ⟨i, hi, hlow, by omega, heq⟩
    · rintro ⟨i, hi, hlow, -, rfl⟩
      refine ⟨i, hi, hlow, ?_, rfl⟩
      by_contra hbehind
      exact not_lt.2 (hmono inside hi (Nat.le_of_not_lt hbehind)) htext
  | case2 low high bound hne middle inside hcompare =>
    rw [searchBetween, dif_pos hne]
    dsimp only
    rw [hcompare]
    exact iff_of_true rfl ⟨middle, inside, by omega, by omega, (compare_eq_iff_eq.1 hcompare).symm⟩
  | case3 low high bound hne middle inside hcompare ih =>
    have htext : table[middle] < text := compare_gt_iff_gt.1 hcompare
    rw [searchBetween, dif_pos hne]
    dsimp only
    rw [hcompare]
    refine ih.trans ⟨?_, ?_⟩
    · rintro ⟨i, hi, hlow, hhigh, heq⟩
      exact ⟨i, hi, by omega, hhigh, heq⟩
    · rintro ⟨i, hi, -, hhigh, rfl⟩
      refine ⟨i, hi, ?_, hhigh, rfl⟩
      by_contra hbefore
      exact not_lt.2 (hmono hi inside (Nat.le_of_not_lt hbefore)) htext
  | case4 low high bound hempty =>
    rw [searchBetween, dif_neg hempty]
    refine iff_of_false Bool.false_ne_true ?_
    rintro ⟨i, -, hlow, hhigh, -⟩
    omega

/-- In an increasing table, exactly the entries are found. -/
theorem search_eq_true_iff (increasing : table.toList.Pairwise (· < ·)) :
    search table text = true ↔ text ∈ table := by
  rw [search, searchBetween_eq_true_iff increasing, Array.mem_iff_getElem]
  constructor
  · rintro ⟨i, hi, -, -, heq⟩
    exact ⟨i, hi, heq⟩
  · rintro ⟨i, hi, heq⟩
    exact ⟨i, hi, Nat.zero_le i, hi, heq⟩

end ClassSynthesis.Text
