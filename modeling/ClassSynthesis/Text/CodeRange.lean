/-!
# Ranges of Code Points

Tables of character properties are lists of inclusive ranges of code points.
-/

namespace ClassSynthesis.Text

/-- The code points from `first` to `last`, both included. -/
structure CodeRange where
  /-- The smallest code point of the range. -/
  first : Nat
  /-- The largest code point of the range. -/
  last : Nat
  deriving DecidableEq, Repr

namespace CodeRange

/-- Whether the range holds the code point of `c`. -/
def has (range : CodeRange) (c : Char) : Bool :=
  range.first ≤ c.toNat && c.toNat ≤ range.last

/-- Whether one of the ranges holds the code point of `c`. -/
def anyHas (ranges : List CodeRange) (c : Char) : Bool :=
  ranges.any (·.has c)

end CodeRange

end ClassSynthesis.Text
