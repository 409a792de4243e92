/-!
# Shortest Decimals

The decimal with the fewest digits that reads back as a given binary floating-point number.
A positive double is `m * 2 ^ q`; the reals that round to it form an interval around it. On
the coarsest decimal grid with a point in that interval, one of the two neighbours of the
number lies in it, and the nearer one is taken.

## Main definitions

- `Binary`: a positive binary number with its rounding interval.
- `Binary.shortest`: its shortest decimal.
- `doubleText`: the text of a double.
-/

namespace ClassSynthesis.Decimal

/-- The decimal `digits * 10 ^ exponent`. -/
structure Scientific where
  /-- The digits, as a natural number. -/
  digits : Nat
  /-- The power of ten. -/
  exponent : Int
  deriving DecidableEq, Repr

/-- The positive binary number `mantissa * 2 ^ exponent`. -/
structure Binary where
  /-- The mantissa. -/
  mantissa : Nat
  /-- The power of two. -/
  exponent : Int
  /-- The next smaller number is only half as far away as the next larger one. -/
  lowerIsCloser : Bool
  deriving DecidableEq, Repr

namespace Binary

/-- The lower end of the rounding interval, in quarters of `2 ^ exponent`. -/
def lowQuarters (b : Binary) : Nat :=
  4 * b.mantissa - (if b.lowerIsCloser then 1 else 2)

/-- The upper end of the rounding interval, in quarters of `2 ^ exponent`. -/
def highQuarters (b : Binary) : Nat := 4 * b.mantissa + 2

/-- A multiple of a quarter of `2 ^ exponent`, scaled so that it can be compared with
decimals on the grid of `10 ^ grid`. -/
def scaled (b : Binary) (grid : Int) (quarters : Nat) : Nat :=
  quarters * Nat.pow 2 (b.exponent - 2).toNat * Nat.pow 10 (-grid).toNat

/-- The distance of neighbours on the grid of `10 ^ grid`, in the same scale. -/
def gridStep (b : Binary) (grid : Int) : Nat :=
  Nat.pow 10 grid.toNat * Nat.pow 2 (2 - b.exponent).toNat

/-- Whether a point of the grid rounds to the number. The ends belong to the interval
exactly if the mantissa is even. -/
def holds (b : Binary) (grid : Int) (point : Nat) : Bool :=
  let place := point * b.gridStep grid
  let low := b.scaled grid b.lowQuarters
  let high := b.scaled grid b.highQuarters
  if b.mantissa % 2 = 0 then low ≤ place && place ≤ high else low < place && place < high

/-- The point of the grid nearest to the number among its neighbours that round to it. -/
def pointOn? (b : Binary) (grid : Int) : Option Nat :=
  let value := b.scaled grid (4 * b.mantissa)
  let below := value / b.gridStep grid
  let nearer :=
    if 2 * value < (2 * below + 1) * b.gridStep grid then below
    else if 2 * value = (2 * below + 1) * b.gridStep grid && below % 2 = 0 then below
    else below + 1
  match b.holds grid below, b.holds grid (below + 1) with
  | true, true => some nearer
  | true, false => some below
  | false, true => some (below + 1)
  | false, false => none

/-- The shortest decimal on the grids from `10 ^ grid` downwards. -/
def shortestFrom (b : Binary) : Nat → Int → Scientific
  | 0, grid => ⟨0, grid⟩
  | steps + 1, grid =>
    match b.pointOn? grid with
    | some point => ⟨point, grid⟩
    | none => shortestFrom b steps (grid - 1)

/-- The shortest decimal of a number in the range of doubles, which lies between the grids
of `10 ^ 309` and `10 ^ -325`. -/
def shortest (b : Binary) : Scientific := b.shortestFrom 640 309

end Binary

/-- The weight of the bit above the 52 fraction bits of a double. -/
def fractionRange : Nat := 0x10000000000000

/-- The number of exponents that 11 bits can hold. -/
def exponentRange : Nat := 0x800

/-- The weight of the sign bit of a double. -/
def signBit : Nat := 0x8000000000000000

/-- The number with the given bits of a finite positive double. -/
def Binary.ofBits (bits : Nat) : Binary :=
  let fraction : Nat := bits % fractionRange
  let exponent : Nat := bits / fractionRange % exponentRange
  if exponent = 0 then ⟨fraction, -1074, false⟩
  else ⟨fraction + fractionRange, (exponent : Int) - 1075, fraction = 0 && exponent > 1⟩

/-- Zeros. -/
def zeros (count : Nat) : String := String.ofList (List.replicate count '0')

/-- A decimal as text. It is positional, with a digit on either side of the point, when the
leading digit stands between the fifth place after the point and the sixteenth before it;
otherwise the leading digit is followed by an exponent. -/
def Scientific.text (d : Scientific) : String :=
  let digits := (toString d.digits).toList
  let point : Int := d.exponent + digits.length
  if 0 ≤ d.exponent && point ≤ 16 then
    String.ofList digits ++ zeros d.exponent.toNat ++ ".0"
  else if 0 < point && point ≤ 16 then
    String.ofList (digits.take point.toNat) ++ "." ++ String.ofList (digits.drop point.toNat)
  else if -5 < point && point ≤ 0 then
    "0." ++ zeros (-point).toNat ++ String.ofList digits
  else
    String.ofList (digits.take 1) ++
      (if digits.length = 1 then "" else "." ++ String.ofList (digits.drop 1)) ++
      "e" ++ toString (point - 1)

/-- The text of a finite double: its shortest decimal, always with a point or an exponent. -/
def doubleText (x : Float) : String :=
  let bits := x.toBits.toNat
  let magnitude := bits % signBit
  (if bits < signBit then "" else "-") ++
    (if magnitude = 0 then "0.0" else (Binary.ofBits magnitude).shortest.text)

end ClassSynthesis.Decimal
