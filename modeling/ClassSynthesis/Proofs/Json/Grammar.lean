import ClassSynthesis.Json.Reader
import Mathlib.Data.List.Forall2

/-!
# The Grammar of JSON

Which texts write a value. A grammar is a relation between values and texts; where the value
does not matter, it is a set of texts. Nothing here says how a text is read.

## Main definitions

- `StringText`: the texts that write a string, with all ways to escape its characters.
- `SequenceText`, `MapText`: sequences and maps of whatever their items are.
- `IsJson`: the texts that write any value.
- `RecordText`: the maps that write a record, field by field.
-/

namespace ClassSynthesis.Json

/-- Nothing but blanks. -/
def Blank (cs : List Char) : Prop := ∀ c ∈ cs, isSpace c = true

theorem blank_nil : Blank [] := by simp [Blank]

/-! ## Strings -/

/-- A hexadecimal digit, in lower or upper case. -/
def HexDigit (value : Nat) (c : Char) : Prop :=
  value < 16 ∧ (c = value.digitChar ∨ c = value.digitChar.toUpper)

/-- The four hexadecimal digits of a number. -/
def HexDigits (n : Nat) (cs : List Char) : Prop :=
  List.Forall₂ HexDigit [n / 4096, n / 256 % 16, n / 16 % 16, n % 16] cs

/-- The letters that stand for characters behind a backslash. -/
def shortEscapes : List (Char × Char) :=
  [('"', '"'), ('\\', '\\'), ('/', '/'), ('b', '\x08'), ('f', '\x0c'), ('n', '\n'), ('r', '\r'),
    ('t', '\t')]

/-- A character that may stand for itself in a string. -/
def IsPlain (c : Char) : Prop := c ≠ '"' ∧ c ≠ '\\' ∧ ' ' ≤ c

instance : DecidablePred IsPlain := fun _ => inferInstanceAs (Decidable (_ ∧ _))

/-- The first unit of the surrogate pair for a character. -/
def highUnit (c : Char) : Nat := 0xD800 + (c.toNat - 0x10000) / 0x400

/-- The second unit of the surrogate pair for a character. -/
def lowUnit (c : Char) : Nat := 0xDC00 + (c.toNat - 0x10000) % 0x400

/-- The texts for a character inside a string: itself, a letter behind a backslash, its code, or
a surrogate pair if its code has more than four digits. -/
inductive CharText : Char → List Char → Prop
  | plain {c : Char} : IsPlain c → CharText c [c]
  | short {letter c : Char} : (letter, c) ∈ shortEscapes → CharText c ['\\', letter]
  | code {c : Char} {digits : List Char} :
      HexDigits c.toNat digits → CharText c ('\\' :: 'u' :: digits)
  | pair {c : Char} {high low : List Char} : 0x10000 ≤ c.toNat →
      HexDigits (highUnit c) high → HexDigits (lowUnit c) low →
      CharText c ('\\' :: 'u' :: (high ++ '\\' :: 'u' :: low))

/-- The texts that write a string. -/
def StringText (s : String) (text : List Char) : Prop :=
  ∃ parts : List (List Char), List.Forall₂ CharText s.toList parts ∧
    text = '"' :: (parts.flatten ++ ['"'])

theorem stringText_of_plain {s : String} (h : ∀ c ∈ s.toList, IsPlain c) :
    StringText s ('"' :: (s.toList ++ ['"'])) := by
  refine ⟨s.toList.map ([·]), ?_, by simp [← List.flatMap_def]⟩
  rw [List.forall₂_map_right_iff, List.forall₂_same]
  exact fun c hc => .plain (h c hc)

/-- A part of any string. The units of surrogates need not be paired. -/
inductive StringPart : List Char → Prop
  | plain {c : Char} : IsPlain c → StringPart [c]
  | short {letter c : Char} : (letter, c) ∈ shortEscapes → StringPart ['\\', letter]
  | code {n : Nat} {digits : List Char} : HexDigits n digits → StringPart ('\\' :: 'u' :: digits)

/-- The texts that write any string. -/
def IsString (text : List Char) : Prop :=
  ∃ parts : List (List Char), (∀ part ∈ parts, StringPart part) ∧
    text = '"' :: (parts.flatten ++ ['"'])

/-! ## Numbers -/

/-- Decimal digits, at least one. -/
def IsDigits (cs : List Char) : Prop := cs ≠ [] ∧ ∀ c ∈ cs, c.isDigit = true

/-- The texts for the digits behind a point, with the point; nothing if there are none. -/
def FractionText (text : List Char) : Prop :=
  text = [] ∨ ∃ digits, IsDigits digits ∧ text = '.' :: digits

/-- The texts for an exponent with its letter and its sign; nothing if there is none. -/
def ExponentText (text : List Char) : Prop :=
  text = [] ∨ ∃ letter sign digits, letter ∈ ['e', 'E'] ∧ sign ∈ [[], ['-'], ['+']] ∧
    IsDigits digits ∧ text = letter :: (sign ++ digits)

/-- The texts that write any number. A zero at the front is the only digit there. -/
def IsNumber (text : List Char) : Prop :=
  ∃ sign whole fraction exponent, sign ∈ [[], ['-']] ∧
    IsDigits whole ∧ (whole.head? = some '0' → whole = ['0']) ∧
    FractionText fraction ∧ ExponentText exponent ∧
    text = sign ++ (whole ++ (fraction ++ exponent))

/-! ## Sequences and maps -/

/-- The texts for further items, each behind a comma, up to the closing bracket. -/
inductive MoreItems {α : Type} (item : α → List Char → Prop) : List α → List Char → Prop
  | nil {blanks : List Char} : Blank blanks → MoreItems item [] blanks
  | cons {a : α} {as : List α} {before after text more : List Char} :
      Blank before → Blank after → item a text → MoreItems item as more →
      MoreItems item (a :: as) (before ++ ',' :: (after ++ (text ++ more)))

/-- The texts for items between brackets. -/
inductive Items {α : Type} (item : α → List Char → Prop) : List α → List Char → Prop
  | nil {blanks : List Char} : Blank blanks → Items item [] blanks
  | cons {a : α} {as : List α} {before text more : List Char} :
      Blank before → item a text → MoreItems item as more →
      Items item (a :: as) (before ++ (text ++ more))

/-- What the items are is known of texts that are no longer than all of them together. -/
theorem MoreItems.imp {α : Type} {item other : α → List Char → Prop} {as : List α}
    {more : List Char} (h : MoreItems item as more)
    (himp : ∀ a text, text.length ≤ more.length → item a text → other a text) :
    MoreItems other as more := by
  induction h with
  | nil hblank => exact .nil hblank
  | cons hbefore hafter hitem _ ih =>
    refine .cons hbefore hafter (himp _ _ ?_ hitem) (ih fun a text hlength => himp a text ?_)
    · simp
      omega
    · simp
      omega

theorem Items.imp {α : Type} {item other : α → List Char → Prop} {as : List α}
    {body : List Char} (h : Items item as body)
    (himp : ∀ a text, text.length ≤ body.length → item a text → other a text) :
    Items other as body := by
  cases h with
  | nil hblank => exact .nil hblank
  | cons hbefore hitem hmore =>
    refine .cons hbefore (himp _ _ ?_ hitem) (hmore.imp fun a text hlength => himp a text ?_)
    · simp
      omega
    · simp
      omega

/-- The texts that write a sequence. -/
def SequenceText {α : Type} (item : α → List Char → Prop) (items : List α) (text : List Char) :
    Prop :=
  ∃ body, Items item items body ∧ text = '[' :: (body ++ [']'])

/-- The texts that write a map. -/
def MapText {α : Type} (entry : α → List Char → Prop) (entries : List α) (text : List Char) :
    Prop :=
  ∃ body, Items entry entries body ∧ text = '\x7b' :: (body ++ ['\x7d'])

/-- The texts for an entry of a map whose key and value are written in the given way. -/
def EntryText (key value text : List Char) : Prop :=
  ∃ before after, Blank before ∧ Blank after ∧
    text = key ++ (before ++ ':' :: (after ++ value))

/-! ## Values -/

/-- The texts that write `null`. -/
def NullText (text : List Char) : Prop := text = ['n', 'u', 'l', 'l']

/-- The texts that write a truth value. -/
def BooleanText (b : Bool) (text : List Char) : Prop :=
  text = if b then ['t', 'r', 'u', 'e'] else ['f', 'a', 'l', 's', 'e']

/-- The texts that write a value which may be absent, when it is not left out. -/
def NullableText {α : Type} (form : α → List Char → Prop) (a : Option α) (text : List Char) :
    Prop :=
  match a with
  | none => NullText text
  | some a => form a text

/-- The texts that write any value without parts. -/
def IsScalar (text : List Char) : Prop :=
  NullText text ∨ (∃ b, BooleanText b text) ∨ IsString text ∨ IsNumber text

/-- The texts that write any value with at most `depth` brackets open at once. -/
def IsValue : Nat → List Char → Prop
  | 0, text => IsScalar text
  | depth + 1, text =>
    IsScalar text ∨
    (∃ items : List Unit, SequenceText (fun _ item => IsValue depth item) items text) ∨
    ∃ entries : List Unit, MapText (fun _ entry => ∃ key value, IsString key ∧
      IsValue depth value ∧ EntryText key value entry) entries text

/-- The texts that write any value. -/
def IsJson (text : List Char) : Prop := ∃ depth, IsValue depth text

/-! ## Records -/

/-- How a field of a record is written. -/
structure FieldForm (ρ : Type) where
  /-- The name. -/
  name : String
  /-- The values of the field. -/
  Value : Type
  /-- The value in a record. -/
  get : ρ → Value
  /-- The texts that write a value. -/
  text : Value → List Char → Prop
  /-- The value for which the field may be left out; absent if it may not. -/
  default? : Option Value

/-- Entries that write a record, as names with the texts of their values. The fields come once
each and in any order. One may be left out where the record has its default value. Between
them there may be entries of other names, with any values. -/
structure WritesRecord {ρ : Type} (forms : List (FieldForm ρ)) (r : ρ)
    (entries : List (String × List Char)) : Prop where
  written : ∀ e ∈ entries, ∀ form ∈ forms, form.name = e.1 → form.text (form.get r) e.2
  once : ((entries.map Prod.fst).filter (· ∈ forms.map FieldForm.name)).Nodup
  complete : ∀ form ∈ forms,
    form.name ∈ entries.map Prod.fst ∨ form.default? = some (form.get r)
  other : ∀ e ∈ entries, e.1 ∉ forms.map FieldForm.name → IsJson e.2

/-- The texts that write a record as a map. -/
def RecordText {ρ : Type} (forms : List (FieldForm ρ)) (r : ρ) (text : List Char) : Prop :=
  ∃ entries, WritesRecord forms r entries ∧
    MapText (fun e entry => ∃ key, StringText e.1 key ∧ EntryText key e.2 entry) entries text

/-- The texts that write a value as the string of its name. -/
def NameText {α : Type} (name : α → String) (a : α) (text : List Char) : Prop :=
  StringText (name a) text

end ClassSynthesis.Json
