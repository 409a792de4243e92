import ClassSynthesis.Json.Number

/-!
# Decoding Values

Decoders for the values that a JSON text is made of. A decoder reads one value from the front
of a text and leaves the rest. It looks at no more of the text than it needs, so that a value
of the wrong kind is reported even where the text is malformed further on.

## Main definitions

- `text`, `boolean`, `nullable`, `listOf`, `choice`: values of a wanted kind.
- `anyValue`: a value of any kind, with its strings decoded and its numbers valued.
- `skipValue`: a value of which only the grammar matters.
- `decode`: a whole text.
-/

namespace ClassSynthesis.Json

namespace Decoder

variable {α β : Type}

/-- Change what a decoder answers. -/
def map (f : α → β) (decoder : Decoder α) : Decoder β := fun cs => do
  let (value, rest) ← decoder cs
  return (f value, rest)

/-- Change what a decoder answers, or refuse it. -/
def refine (f : α → Except DataError β) (decoder : Decoder α) : Decoder β := fun cs => do
  let (value, rest) ← decoder cs
  match f value with
  | .ok refined => return (refined, rest)
  | .error e => throw (.data e)

/-- Pass over the blanks before a value. -/
def afterBlanks (decoder : Decoder α) : Decoder α := fun cs => do
  let start : Upto cs := ⟨significant cs, length_significant_le cs⟩
  let (value, rest) ← decoder start.val
  return (value, .ofUpto start rest)

end Decoder

/-- Read the rest of a keyword that stands for a value. -/
def literal {α : Type} {c : Char} (value : α) (word : String) (cs : List Char) :
    Except JsonError (α × Rest (c :: cs)) := do
  let rest ← keyword word.toList cs
  return (value, .behind rest)

/-- What the value at the front of a text is. Of a sequence or a map only the opening bracket
is looked at. -/
def shape (cs : List Char) : Except JsonError Shape :=
  match significant cs with
  | [] => .error .endOfInput
  | 'n' :: rest => (keyword "ull".toList rest).map fun _ => .null
  | 't' :: rest => (keyword "rue".toList rest).map fun _ => .boolean true
  | 'f' :: rest => (keyword "alse".toList rest).map fun _ => .boolean false
  | '"' :: rest => (string rest).map fun read => .string read.1
  | '[' :: _ => .ok .sequence
  | '\x7b' :: _ => .ok .map
  | c :: rest =>
    if c == '-' || c.isDigit then (number (c :: rest)).map (·.1) else .error .malformed

/-- The error at a value that is not of the expected kind. A value that is malformed itself
is reported as such. -/
def unexpected (expected : String) (cs : List Char) : JsonError :=
  match shape cs with
  | .ok found => .data (.invalidType found expected)
  | .error e => e

/-- A string, which an error message calls by the given description. -/
def textAs (description : String) : Decoder String := .afterBlanks fun
  | '"' :: rest => do
    let (value, after) ← string rest
    return (value, .behind after.toUpto)
  | other => .error (unexpected description other)

/-- A string. -/
def text : Decoder String := textAs "a string"

/-- A truth value. -/
def boolean : Decoder Bool := .afterBlanks fun
  | 't' :: rest => literal true "rue" rest
  | 'f' :: rest => literal false "alse" rest
  | other => .error (unexpected "a boolean" other)

/-- The value `null`. -/
def unit : Decoder Unit := .afterBlanks fun
  | 'n' :: rest => literal () "ull" rest
  | other => .error (unexpected "unit" other)

/-- The value `null`, or a value of the given kind. -/
def nullable {α : Type} (decoder : Decoder α) : Decoder (Option α) := .afterBlanks fun
  | 'n' :: rest => literal none "ull" rest
  | other => decoder.map some other

/-- The items of a sequence up to its closing bracket, which is left in the text. -/
def items {α : Type} (item : Decoder α) (isFirst : Bool) (cs : List Char) :
    Except JsonError (List α × Upto cs) := do
  match ← nextItem ']' isFirst cs with
  | none => return ([], Upto.whole cs)
  | some start =>
    let (value, after) ← item start.val
    have := after.property
    have := start.property
    let (values, last) ← items item false after.val
    return (value :: values, (start.trans after.toUpto).trans last)
termination_by cs.length

/-- The items of a sequence whose opening bracket has been read. -/
def sequenceBody {α : Type} (item : Decoder α) : Decoder (List α) := fun cs => do
  let (values, last) ← items item true cs
  let after ← closing ']' last.val
  return (values, .ofUpto last after)

/-- A sequence of values of the given kind. -/
def listOf {α : Type} (item : Decoder α) : Decoder (List α) := .afterBlanks fun
  | '[' :: rest => do
    let (values, after) ← sequenceBody item rest
    return (values, .behind after.toUpto)
  | other => .error (unexpected "a sequence" other)

/-- The entries of a map up to its closing brace, which is left in the text. Each entry is
handed what was read of the earlier ones; it starts behind the quote that opens the key. -/
def entries {σ : Type} (entry : σ → Decoder σ) (state : σ) (isFirst : Bool)
    (cs : List Char) : Except JsonError (σ × Upto cs) := do
  match ← nextKey isFirst cs with
  | none => return (state, Upto.whole cs)
  | some key =>
    let (next, after) ← entry state key.val
    have := after.property
    have := key.property
    let (final, last) ← entries entry next false after.val
    return (final, (key.trans after).toUpto.trans last)
termination_by cs.length

/-- The value of a map's entry, behind its colon. -/
def entryValue {α : Type} (decoder : Decoder α) : Decoder α := fun cs => do
  let start ← colon cs
  let (value, after) ← decoder start.val
  return (value, start.trans after)

/-- One of some named values: a string with the name, or a map with the name as its only key
and `null` as the value. -/
def choice {α : Type} (choices : List (String × α)) : Decoder α :=
  let pick (name : String) : Except DataError α :=
    match choices.lookup name with
    | some value => .ok value
    | none => .error (.unknownVariant name (choices.map (·.1)))
  .afterBlanks fun
  | [] => .error .endOfInput
  | '"' :: rest => text.refine pick ('"' :: rest)
  | '\x7b' :: rest => do
    let (value, nameEnd) ← (textAs "variant identifier").refine pick rest
    let (_, valueEnd) ← entryValue unit nameEnd.val
    let after ← closing '\x7d' valueEnd.val
    return (value, .behind ((nameEnd.trans valueEnd).trans after).toUpto)
  | _ => .error .malformed

/-- How a value is read whose kind does not matter beforehand. -/
structure Walk (α : Type) where
  /-- A value without parts; the text starts with it. -/
  leaf : Decoder α
  /-- A key, behind its opening quote. -/
  key : Decoder Unit
  /-- The answer for a sequence. -/
  sequence : α
  /-- The answer for a map. -/
  map : α

/-- A value of any kind, with at most `depth` brackets open at once. -/
def Walk.value {α : Type} (walk : Walk α) : Nat → Decoder α
  | 0 => .afterBlanks fun
    | [] => .error .endOfInput
    | '[' :: _ => .error .malformed
    | '\x7b' :: _ => .error .malformed
    | other => walk.leaf other
  | depth + 1 => .afterBlanks fun
    | [] => .error .endOfInput
    | '[' :: rest => do
      let (_, after) ← sequenceBody (walk.value depth) rest
      return (walk.sequence, .behind after.toUpto)
    | '\x7b' :: rest => do
      let entry : Unit → Decoder Unit := fun _ cs => do
        let (_, keyEnd) ← walk.key cs
        let (_, after) ← entryValue (walk.value depth) keyEnd.val
        return ((), keyEnd.trans after)
      let (_, last) ← entries entry () true rest
      let after ← closing '\x7d' last.val
      return (walk.map, .behind (Rest.ofUpto last after).toUpto)
    | other => walk.leaf other

/-- A value without parts, decoded. -/
def scalar : Decoder Shape := fun
  | [] => .error .endOfInput
  | 'n' :: rest => literal .null "ull" rest
  | 't' :: rest => literal (.boolean true) "rue" rest
  | 'f' :: rest => literal (.boolean false) "alse" rest
  | '"' :: rest => do
    let (value, after) ← string rest
    return (.string value, .behind after.toUpto)
  | c :: rest => if c == '-' || c.isDigit then number (c :: rest) else .error .malformed

/-- Pass over a value without parts. -/
def skipScalar : Decoder Unit := fun
  | [] => .error .endOfInput
  | 'n' :: rest => literal () "ull" rest
  | 't' :: rest => literal () "rue" rest
  | 'f' :: rest => literal () "alse" rest
  | '"' :: rest => do
    let after ← skipString rest
    return ((), .behind after.toUpto)
  | c :: rest =>
    if c == '-' || c.isDigit then do
      let after ← skipNumber (c :: rest)
      return ((), after)
    else .error .malformed

/-- How many brackets may be open at once around a value that is kept. -/
def maxNesting : Nat := 127

/-- A value of any kind inside `outer` open brackets, with its strings decoded and its numbers
valued. -/
def anyValue (outer : Nat) : Decoder Shape :=
  let walk : Walk Shape := {
    leaf := scalar
    key := Decoder.map (fun _ => ()) string
    sequence := .sequence
    map := .map }
  walk.value (maxNesting - outer)

/-- Pass over a value of any kind. Its nesting has no limit: a text has no more brackets than
characters. -/
def skipValue : Decoder Unit := fun cs =>
  let walk : Walk Unit := {
    leaf := skipScalar
    key := fun cs => do
      let after ← skipString cs
      return ((), after)
    sequence := ()
    map := () }
  walk.value cs.length cs

/-- Decode a whole text. Only blanks may follow the value. -/
def decode {α : Type} (decoder : Decoder α) (source : String) : Except JsonError α := do
  let (value, rest) ← decoder source.toList
  if (significant rest.val).isEmpty then return value else throw .malformed

end ClassSynthesis.Json
