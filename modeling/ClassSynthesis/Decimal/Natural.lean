/-!
# Decimal Numerals

Reading of natural numbers written with ASCII digits.
-/

namespace ClassSynthesis.Decimal

/-- The value of an ASCII digit. -/
def digitValue (c : Char) : Nat := c.toNat - '0'.toNat

/-- The value of a sequence of digits, most significant first. -/
def valueOf (digits : List Char) : Nat :=
  digits.foldl (fun value c => value * 10 + digitValue c) 0

/-- The number written by a non-empty sequence of ASCII digits. -/
def natural? (cs : List Char) : Option Nat :=
  if !cs.isEmpty && cs.all Char.isDigit then some (valueOf cs) else none

/-- The number below 256 written by ASCII digits, one plus sign being allowed before them.
Zeros in front do not matter, however many there are. -/
def byte? (cs : List Char) : Option Nat :=
  let digits := match cs with
    | '+' :: rest => rest
    | _ => cs
  (natural? digits).filter (· < 256)

end ClassSynthesis.Decimal
