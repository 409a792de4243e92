import ClassSynthesis.Decimal.Natural
import Mathlib.Logic.Function.Basic

/-!
# The Numeral of a Number

The decimal form of a natural number consists of digits (`Decimal.isDigit_of_mem_toString`), and
the number is read back from them (`Decimal.valueOf_toString`).
-/

namespace ClassSynthesis.Decimal

theorem valueOf_eq_ofDigitChars (digits : List Char) :
    valueOf digits = Nat.ofDigitChars 10 digits 0 := by
  simp only [valueOf, Nat.ofDigitChars, digitValue, Nat.mul_comm 10]

/-- A number is read back from its numeral. -/
theorem valueOf_toString (n : Nat) : valueOf (toString n).toList = n := by
  rw [valueOf_eq_ofDigitChars, Nat.toString_eq_repr, Nat.toList_repr,
    Nat.ofDigitChars_ten_toDigits]

/-- Numbers differ by their numerals. -/
theorem toString_injective : Function.Injective (toString : Nat → String) := by
  intro m n h
  rw [← valueOf_toString m, h, valueOf_toString]

theorem toList_toString_ne_nil (n : Nat) : (toString n).toList ≠ [] := by
  rw [Nat.toString_eq_repr, Nat.toList_repr]
  exact Nat.toDigits_ne_nil

theorem isDigit_of_mem_toString {n : Nat} {c : Char} (h : c ∈ (toString n).toList) :
    c.isDigit = true := by
  rw [Nat.toString_eq_repr, Nat.toList_repr] at h
  exact Nat.isDigit_of_mem_toDigits (by decide) (by decide) h

theorem not_mem_toString {c : Char} (h : c.isDigit = false) (n : Nat) :
    c ∉ (toString n).toList := by
  intro hmem
  rw [isDigit_of_mem_toString hmem] at h
  cases h

end ClassSynthesis.Decimal
