import ClassSynthesis.Json.Error

/-!
# Reading JSON Text

The lexical parts of JSON, read from a list of characters: blanks, keywords, strings and
structure. Every reader says in its type that it leaves less than it was given, which is why
the loops over items stop.

## Main definitions

- `string`: a string whose escapes are decoded.
- `skipString`: a string that is only checked.
- `nextItem`, `nextKey`: what comes next inside brackets or braces.
-/

namespace ClassSynthesis.Json

/-- What remains of a text from which something has been read. -/
abbrev Rest (cs : List Char) := { rest : List Char // rest.length < cs.length }

/-- What remains of a text from which something may have been read. -/
abbrev Upto (cs : List Char) := { rest : List Char // rest.length ≤ cs.length }

/-- A reader that takes something off the front of a text. -/
abbrev Decoder (α : Type) := (cs : List Char) → Except JsonError (α × Rest cs)

/-- The blanks that may stand between the parts of a JSON text. -/
def isSpace (c : Char) : Bool := c == ' ' || c == '\n' || c == '\t' || c == '\r'

/-- The text from its first significant character on. -/
def significant (cs : List Char) : List Char := cs.dropWhile isSpace

/-- Passing over blanks makes a text no longer. -/
theorem length_significant_le (cs : List Char) : (significant cs).length ≤ cs.length :=
  (List.dropWhile_suffix isSpace).length_le

/-- The text behind the first significant character is shorter. -/
theorem length_lt_of_significant {cs rest : List Char} {c : Char}
    (h : significant cs = c :: rest) : rest.length < cs.length := by
  have := length_significant_le cs
  rw [h] at this
  simp only [List.length_cons] at this
  omega

namespace Upto

/-- The whole text is a part of it. -/
def whole (cs : List Char) : Upto cs := ⟨cs, Nat.le_refl _⟩

/-- A part of a part of a text is a part of the text. -/
def trans {cs : List Char} (middle : Upto cs) (rest : Upto middle.val) : Upto cs :=
  ⟨rest.val, Nat.le_trans rest.property middle.property⟩

end Upto

namespace Rest

/-- The text behind the first character. -/
def tail (c : Char) (cs : List Char) : Rest (c :: cs) := ⟨cs, Nat.lt_succ_self _⟩

/-- A part of the text behind the first character. -/
def behind {c : Char} {cs : List Char} (rest : Upto cs) : Rest (c :: cs) :=
  ⟨rest.val, Nat.lt_succ_of_le rest.property⟩

/-- Less than less than a text is less than the text. -/
def trans {cs : List Char} (middle : Rest cs) (rest : Rest middle.val) : Rest cs :=
  ⟨rest.val, Nat.lt_trans rest.property middle.property⟩

/-- Less than a part of a text is less than the text. -/
def ofUpto {cs : List Char} (middle : Upto cs) (rest : Rest middle.val) : Rest cs :=
  ⟨rest.val, Nat.lt_of_lt_of_le rest.property middle.property⟩

/-- A part of less than a text is less than the text. -/
def thenUpto {cs : List Char} (middle : Rest cs) (rest : Upto middle.val) : Rest cs :=
  ⟨rest.val, Nat.lt_of_le_of_lt rest.property middle.property⟩

/-- Less than a text is a part of it. -/
def toUpto {cs : List Char} (rest : Rest cs) : Upto cs :=
  ⟨rest.val, Nat.le_of_lt rest.property⟩

end Rest

/-- Read the rest of a keyword whose first character has been read. -/
def keyword : List Char → (cs : List Char) → Except JsonError (Upto cs)
  | [], cs => .ok (.whole cs)
  | _ :: _, [] => .error .endOfInput
  | expected :: more, c :: cs =>
    if c = expected then
      match keyword more cs with
      | .ok rest => .ok (Rest.behind rest).toUpto
      | .error e => .error e
    else
      .error .malformed

/-- The value of a hexadecimal digit. -/
def hexValue? (c : Char) : Option Nat :=
  if '0' ≤ c && c ≤ '9' then some (c.toNat - '0'.toNat)
  else if 'a' ≤ c && c ≤ 'f' then some (c.toNat - 'a'.toNat + 10)
  else if 'A' ≤ c && c ≤ 'F' then some (c.toNat - 'A'.toNat + 10)
  else none

/-- The number written by four hexadecimal digits. -/
def hexNumber? (a b c d : Char) : Option Nat := do
  return ((← hexValue? a) * 16 + (← hexValue? b)) * 256
    + (← hexValue? c) * 16 + (← hexValue? d)

/-- The number of bytes that the first four characters of a text take. -/
def leadingBytes (cs : List Char) : Nat :=
  (cs.take 4).foldl (fun count c => count + c.utf8Size) 0

/-- Read four hexadecimal digits. With fewer than four bytes left the text has ended too
early, whatever they are. -/
def hexDigits (cs : List Char) : Except JsonError (Nat × Rest cs) :=
  if leadingBytes cs < 4 then .error .endOfInput
  else match cs with
    | a :: b :: c :: d :: rest =>
      match hexNumber? a b c d with
      | some n =>
        .ok (n, .behind (Rest.behind (Rest.behind (Rest.tail d rest).toUpto).toUpto).toUpto)
      | none => .error .malformed
    | _ => .error .malformed

/-- The first unit of a surrogate pair. -/
def isHighSurrogate (n : Nat) : Bool := 0xD800 ≤ n && n ≤ 0xDBFF

/-- The second unit of a surrogate pair. -/
def isLowSurrogate (n : Nat) : Bool := 0xDC00 ≤ n && n ≤ 0xDFFF

/-- The character written by a surrogate pair. -/
def surrogatePair (high low : Nat) : Char :=
  Char.ofNat (0x10000 + (high - 0xD800) * 0x400 + (low - 0xDC00))

/-- Read the second half of a surrogate pair. -/
def lowSurrogate (high : Nat) (cs : List Char) : Except JsonError (Char × Rest cs) :=
  match cs with
  | [] => .error .endOfInput
  | ['\\'] => .error .endOfInput
  | '\\' :: 'u' :: rest =>
    match hexDigits rest with
    | .ok (low, after) =>
      if isLowSurrogate low then
        .ok (surrogatePair high low, .behind (Rest.behind after.toUpto).toUpto)
      else .error .malformed
    | .error e => .error e
  | _ => .error .malformed

/-- Read the code of a character written by hexadecimal digits. A unit of a surrogate pair
cannot stand alone. -/
def hexEscape (cs : List Char) : Except JsonError (Char × Rest cs) :=
  match hexDigits cs with
  | .ok (n, rest) =>
    if isLowSurrogate n then .error .malformed
    else if isHighSurrogate n then
      match lowSurrogate n rest.val with
      | .ok (c, after) => .ok (c, rest.trans after)
      | .error e => .error e
    else .ok (Char.ofNat n, rest)
  | .error e => .error e

/-- The character that a letter stands for after a backslash. -/
def simpleEscape? : Char → Option Char
  | '"' => some '"'
  | '\\' => some '\\'
  | '/' => some '/'
  | 'b' => some '\x08'
  | 'f' => some '\x0c'
  | 'n' => some '\n'
  | 'r' => some '\r'
  | 't' => some '\t'
  | _ => none

/-- Read what follows a backslash. -/
def escape (cs : List Char) : Except JsonError (Char × Rest cs) :=
  match cs with
  | [] => .error .endOfInput
  | 'u' :: rest =>
    match hexEscape rest with
    | .ok (c, after) => .ok (c, .behind after.toUpto)
    | .error e => .error e
  | c :: rest =>
    match simpleEscape? c with
    | some decoded => .ok (decoded, .tail c rest)
    | none => .error .malformed

/-- Read the characters of a string up to and including the closing quote. -/
def stringBody (cs : List Char) : Except JsonError (List Char × Rest cs) :=
  match cs with
  | [] => .error .endOfInput
  | c :: rest =>
    if c = '"' then .ok ([], .tail c rest)
    else if c = '\\' then
      match escape rest with
      | .ok (c, after) =>
        have := after.property
        match stringBody after.val with
        | .ok (body, last) => .ok (c :: body, .behind (after.trans last).toUpto)
        | .error e => .error e
      | .error e => .error e
    else if c < ' ' then .error .malformed
    else match stringBody rest with
      | .ok (body, last) => .ok (c :: body, .behind last.toUpto)
      | .error e => .error e
termination_by cs.length
decreasing_by all_goals simp only [List.length_cons]; omega

/-- Read a string whose opening quote has been read. -/
def string (cs : List Char) : Except JsonError (String × Rest cs) :=
  match stringBody cs with
  | .ok (body, rest) => .ok (String.ofList body, rest)
  | .error e => .error e

/-- Pass over what follows a backslash. Surrogates need not be paired here. -/
def skipEscape (cs : List Char) : Except JsonError (Rest cs) :=
  match cs with
  | [] => .error .endOfInput
  | 'u' :: rest =>
    match hexDigits rest with
    | .ok (_, after) => .ok (.behind after.toUpto)
    | .error e => .error e
  | c :: rest => if (simpleEscape? c).isSome then .ok (.tail c rest) else .error .malformed

/-- Pass over a string whose opening quote has been read. -/
def skipString (cs : List Char) : Except JsonError (Rest cs) :=
  match cs with
  | [] => .error .endOfInput
  | c :: rest =>
    if c = '"' then .ok (.tail c rest)
    else if c = '\\' then
      match skipEscape rest with
      | .ok after =>
        have := after.property
        match skipString after.val with
        | .ok last => .ok (.behind (after.trans last).toUpto)
        | .error e => .error e
      | .error e => .error e
    else if c < ' ' then .error .malformed
    else match skipString rest with
      | .ok last => .ok (.behind last.toUpto)
      | .error e => .error e
termination_by cs.length
decreasing_by all_goals simp only [List.length_cons]; omega

/-- What comes next inside a sequence or a map: the text at the next item, or nothing when
the closing bracket is next. -/
def nextItem (close : Char) (isFirst : Bool) (cs : List Char) :
    Except JsonError (Option (Upto cs)) :=
  match h : significant cs with
  | [] => .error .endOfInput
  | c :: rest =>
    have shorter := length_lt_of_significant h
    if c = close then .ok none
    else if isFirst then .ok (some ⟨c :: rest, by simp only [List.length_cons]; omega⟩)
    else if c = ',' then
      match h' : significant rest with
      | [] => .error .endOfInput
      | d :: after =>
        have shorter' := length_lt_of_significant h'
        if d = close then .error .malformed
        else .ok (some ⟨d :: after, by simp only [List.length_cons]; omega⟩)
    else .error .malformed

/-- Read the bracket that closes a sequence or a map. -/
def closing (close : Char) (cs : List Char) : Except JsonError (Rest cs) :=
  match h : significant cs with
  | [] => .error .endOfInput
  | c :: rest =>
    if c = close then .ok ⟨rest, length_lt_of_significant h⟩ else .error .malformed

/-- Read the opening quote of the next key of a map, or see that the map closes. -/
def nextKey (isFirst : Bool) (cs : List Char) : Except JsonError (Option (Rest cs)) :=
  match nextItem '\x7d' isFirst cs with
  | .ok none => .ok none
  | .ok (some ⟨'"' :: rest, bound⟩) =>
    .ok (some ⟨rest, by simp only [List.length_cons] at bound; omega⟩)
  | .ok (some _) => .error .malformed
  | .error e => .error e

/-- Read the colon between a key and its value. -/
def colon (cs : List Char) : Except JsonError (Rest cs) := closing ':' cs

end ClassSynthesis.Json
