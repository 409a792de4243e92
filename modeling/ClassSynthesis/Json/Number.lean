import ClassSynthesis.Decimal.Natural
import ClassSynthesis.Decimal.Shortest
import ClassSynthesis.Json.Reader

/-!
# JSON Numbers

A number is scanned into its digits and then valued. An integer of at most 64 bits stays an
integer; every other number becomes a double, computed from the leading digits that fit into
64 bits and one power of ten. Where a number is only passed over, its value does not matter,
and a text that ends inside it counts as malformed.
-/

namespace ClassSynthesis.Json

/-- The parts of a number without its sign. -/
structure NumberText where
  /-- The digits before the point. -/
  whole : List Char
  /-- The digits after the point; none if there is no point. -/
  fraction : List Char
  /-- Whether the exponent is negative, with its digits. -/
  exponent : Option (Bool × List Char)
  deriving DecidableEq, Repr

/-- The digits at the front of a text. -/
def leadingDigits (cs : List Char) : List Char := cs.takeWhile Char.isDigit

/-- Passing over digits makes a text shorter, if there are any. -/
private theorem length_dropWhile_isDigit_lt {cs : List Char} (h : leadingDigits cs ≠ []) :
    (cs.dropWhile Char.isDigit).length < cs.length := by
  have hsplit := congrArg List.length (List.takeWhile_append_dropWhile (p := Char.isDigit) (l := cs))
  have hpos := List.length_pos_iff.2 h
  rw [List.length_append] at hsplit
  rw [leadingDigits] at hpos
  omega

/-- Scan a non-empty sequence of digits. -/
def scanDigits (atEnd : JsonError) (cs : List Char) :
    Except JsonError (List Char × Rest cs) :=
  if h : leadingDigits cs = [] then
    .error (if cs.isEmpty then atEnd else .malformed)
  else
    .ok (leadingDigits cs, ⟨cs.dropWhile Char.isDigit, length_dropWhile_isDigit_lt h⟩)

/-- The sign at the front of an exponent, a minus giving true, and the text behind it. -/
def exponentSign (cs : List Char) : Bool × Upto cs :=
  match cs with
  | '-' :: rest => (true, (Rest.tail '-' rest).toUpto)
  | '+' :: rest => (false, (Rest.tail '+' rest).toUpto)
  | other => (false, .whole other)

/-- Scan the exponent of a number, if there is one. -/
def scanExponent (atEnd : JsonError) (cs : List Char) :
    Except JsonError (Option (Bool × List Char) × Upto cs) :=
  match cs with
  | [] => .ok (none, .whole [])
  | c :: rest =>
    if c == 'e' || c == 'E' then
      match scanDigits atEnd (exponentSign rest).2.val with
      | .ok (digits, after) =>
        .ok (some ((exponentSign rest).1, digits),
          (Rest.behind ((exponentSign rest).2.trans after.toUpto)).toUpto)
      | .error e => .error e
    else .ok (none, .whole (c :: rest))

/-- Scan the fraction of a number, if there is one. -/
def scanFraction (atEnd : JsonError) (cs : List Char) :
    Except JsonError (List Char × Upto cs) :=
  match cs with
  | '.' :: rest =>
    match scanDigits atEnd rest with
    | .ok (digits, after) => .ok (digits, (Rest.behind after.toUpto).toUpto)
    | .error e => .error e
  | other => .ok ([], .whole other)

/-- Scan a number behind its sign. A zero may only be followed by a point or an exponent. If
the text ends inside the number, the given error is reported. -/
def scanNumber (atEnd : JsonError) (cs : List Char) :
    Except JsonError (NumberText × Rest cs) := do
  let (whole, afterWhole) ← scanDigits atEnd cs
  if whole.head? == some '0' && whole.length != 1 then throw .malformed
  let (fraction, afterFraction) ← scanFraction atEnd afterWhole.val
  let (exponent, afterExponent) ← scanExponent atEnd afterFraction.val
  return (⟨whole, fraction, exponent⟩,
    (afterWhole.thenUpto afterFraction).thenUpto afterExponent)

/-- The largest number of 64 bits. -/
def maxWord : Nat := 0xFFFFFFFFFFFFFFFF

/-- The largest exponent that is read as a number. -/
def maxExponent : Nat := 0x7FFFFFFF

/-- The largest magnitude of a negative integer of 64 bits. -/
def maxNegative : Nat := 0x8000000000000000

/-- Append digits to a number as long as it fits into 64 bits: the number with the digits
that are left over. -/
def appendDigits (value : Nat) : List Char → Nat × List Char
  | [] => (value, [])
  | digit :: rest =>
    if value * 10 + Decimal.digitValue digit > maxWord then (value, digit :: rest)
    else appendDigits (value * 10 + Decimal.digitValue digit) rest

/-- The power of ten as a double. -/
def powerOfTen (exponent : Nat) : Float := OfScientific.ofScientific 1 false exponent

/-- Divide a double by a power of ten, in steps that doubles can express. -/
def scaleDown (x : Float) (exponent : Nat) : Float :=
  if exponent ≤ 308 then x / powerOfTen exponent
  else if x == 0 then x
  else scaleDown (x / powerOfTen 308) (exponent - 308)
termination_by exponent

/-- The double near a number of 64 bits times a power of ten; nothing when it would be
infinite. -/
def scaleDouble? (value : Nat) : Int → Option Float
  | .ofNat exponent =>
    let x := (UInt64.ofNat value).toFloat
    if exponent ≤ 308 then
      let scaled := x * powerOfTen exponent
      if scaled.isInf then none else some scaled
    else if x == 0 then some x
    else none
  | .negSucc exponent => some (scaleDown (UInt64.ofNat value).toFloat (exponent + 1))

namespace NumberText

/-- The leading digits of the whole part as a number, with the count of the others. -/
def wholeValue (n : NumberText) : Nat × Nat :=
  let (value, left) := appendDigits 0 n.whole
  (value, left.length)

/-- The double that a number stands for, without its sign. -/
def double? (n : NumberText) : Option Float :=
  let (whole, dropped) := n.wholeValue
  let (value, left) := appendDigits whole n.fraction
  let start : Int := dropped - (n.fraction.length - left.length : Nat)
  match n.exponent with
  | none => scaleDouble? value start
  | some (isNegative, digits) =>
    let exponent := Decimal.valueOf digits
    if exponent > maxExponent then
      if value != 0 && !isNegative then none else some 0
    else scaleDouble? value (if isNegative then start - exponent else start + exponent)

/-- The number as a value. A negative number is an integer down to the least one of 64 bits,
and a negative zero is a double. -/
def shape? (isNegative : Bool) (n : NumberText) : Option Shape :=
  let (value, dropped) := n.wholeValue
  let isWhole := n.fraction.isEmpty && n.exponent.isNone && dropped == 0
  if isWhole && !isNegative then some (.integer value)
  else if isWhole && 0 < value && value ≤ maxNegative then some (.integer (-value))
  else n.double?.map fun x => .decimal (Decimal.doubleText (if isNegative then -x else x))

end NumberText

/-- Read a number that starts with a digit or a minus sign. -/
def number (cs : List Char) : Except JsonError (Shape × Rest cs) :=
  let value (isNegative : Bool) (n : NumberText) : Except JsonError Shape :=
    match n.shape? isNegative with
    | some shape => .ok shape
    | none => .error .malformed
  match cs with
  | '-' :: rest => do
    let (n, after) ← scanNumber .endOfInput rest
    return (← value true n, .behind after.toUpto)
  | other => do
    let (n, after) ← scanNumber .endOfInput other
    return (← value false n, after)

/-- Pass over a number that starts with a digit or a minus sign. -/
def skipNumber (cs : List Char) : Except JsonError (Rest cs) :=
  match cs with
  | '-' :: rest => do
    let (_, after) ← scanNumber .malformed rest
    return .behind after.toUpto
  | other => do
    let (_, after) ← scanNumber .malformed other
    return after

end ClassSynthesis.Json
