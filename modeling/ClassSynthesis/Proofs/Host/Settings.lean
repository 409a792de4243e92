import ClassSynthesis.Host.Options
import ClassSynthesis.Proofs.Decimal.Numeral
import ClassSynthesis.Proofs.Synthesis.ReservedWord
import Mathlib.Data.List.Forall2
import Mathlib.Data.List.TakeWhile

/-!
# Settings

What a setting may look like, apart from how it is read: a class name is an identifier that is not
reserved, an indentation is the word for tabs or a number of spaces, a line ending is the name of
its characters. Blanks around a setting do not count, and neither does the case of a word.

## Main definitions

- `ClassName.Written`, `Indent.Written`, `LineEnding.Written`: what a setting stands for.
- `IndentSetting.Gives`: what an indentation in a project file stands for, which may be a number.

## Main results

- `Indent.ofSetting?_eq_some_iff`, `LineEnding.ofSetting?_eq_some_iff`: the settings that are read
  are those that are written so.
- `IndentSetting.written_setting_iff`: a number stands for what its digits stand for.
-/

namespace ClassSynthesis

/-! ## Words in either case -/

namespace Text

/-- The lower case of a capital letter stands 32 places behind it. -/
theorem toNat_toLower (c : Char) :
    c.toLower.toNat = if 65 ≤ c.toNat ∧ c.toNat ≤ 90 then c.toNat + 32 else c.toNat := by
  have hcapital : (c.val ≥ 'A'.val ∧ c.val ≤ 'Z'.val) ↔ 65 ≤ c.toNat ∧ c.toNat ≤ 90 := Iff.rfl
  unfold Char.toLower
  split
  next h =>
    rw [if_pos (hcapital.1 h)]
    show (c.toNat + 32) % 2 ^ 32 = _
    have hlast := (hcapital.1 h).2
    omega
  next h => rw [if_neg (mt hcapital.2 h)]

/-- The capital letter stands 32 places before the small one. -/
theorem toNat_toUpper {c : Char} (hfirst : 97 ≤ c.toNat) (hlast : c.toNat ≤ 122) :
    c.toUpper.toNat = c.toNat - 32 := by
  -- The distance is added modulo the size of a word.
  have hdistance : ('A'.val - 'a'.val).toNat = 2 ^ 32 - 32 := rfl
  have hcode : (c.val + ('A'.val - 'a'.val)).toNat = c.toNat - 32 := by
    rw [UInt32.toNat_add, hdistance, Char.toNat_val]
    omega
  unfold Char.toUpper
  rw [dif_pos ⟨hfirst, hlast⟩]
  exact hcode

/-- A small letter is the lower case of itself and of the capital letter. -/
theorem toLower_eq_iff {letter c : Char} (h : letter.isLower = true) :
    c.toLower = letter ↔ c = letter ∨ c = letter.toUpper := by
  obtain ⟨hfirst, hlast⟩ := Bool.and_eq_true_iff.1 h
  replace hfirst : 97 ≤ letter.toNat := of_decide_eq_true hfirst
  replace hlast : letter.toNat ≤ 122 := of_decide_eq_true hlast
  rw [← Char.toNat_inj, ← Char.toNat_inj, ← Char.toNat_inj, toNat_toLower,
    toNat_toUpper hfirst hlast]
  split <;> omega

/-- The characters spell a word, each letter as it is or as a capital letter. -/
def Spells (word : String) (cs : List Char) : Prop :=
  List.Forall₂ (fun letter c => c = letter ∨ c = letter.toUpper) word.toList cs

/-- Characters spell a word of small letters if their lower cases are its letters. -/
theorem spells_iff {word : String} {cs : List Char}
    (h : word.toList.all Char.isLower = true) :
    Spells word cs ↔ cs.map Char.toLower = word.toList := by
  rw [Spells]
  generalize word.toList = letters at h ⊢
  induction letters generalizing cs with
  | nil => simp
  | cons letter rest ih =>
    rw [List.all_cons, Bool.and_eq_true_iff] at h
    obtain ⟨hletter, hrest⟩ := h
    cases cs with
    | nil => simp
    | cons c cs =>
      rw [List.forall₂_cons, List.map_cons, List.cons.injEq, toLower_eq_iff hletter, ih hrest]

theorem isBlank_of_isDigit {c : Char} (h : c.isDigit = true) : isBlank c = false := by
  obtain ⟨hlow, hhigh⟩ : '0'.val ≤ c.val ∧ c.val ≤ '9'.val := by simpa [Char.isDigit] using h
  have hfirst : 48 ≤ c.toNat := hlow
  have hlast : c.toNat ≤ 57 := hhigh
  have houtside : ∀ range ∈ blankRanges, range.last < 48 ∨ 57 < range.first := by decide
  refine List.any_eq_false.2 fun range hrange hhas => ?_
  simp only [CodeRange.has, Bool.and_eq_true, decide_eq_true_iff] at hhas
  have hrange := houtside range hrange
  omega

/-- A text without blanks is not trimmed. -/
theorem trim_eq_self {text : String} (h : ∀ c ∈ text.toList, isBlank c = false) :
    trim text = text := by
  have hkept (cs : List Char) (hcs : ∀ c ∈ cs, isBlank c = false) : cs.dropWhile isBlank = cs :=
    List.dropWhile_eq_self_iff.2 fun hlength => by simp [hcs _ (List.getElem_mem hlength)]
  have hback : ∀ c ∈ text.toList.reverse, isBlank c = false :=
    fun c hc => h c (List.mem_reverse.1 hc)
  rw [trim, trimBlanks, hkept _ h, hkept _ hback, List.reverse_reverse, String.ofList_toList]

end Text

/-! ## Numbers -/

namespace Decimal

/-- Characters that write a number: digits, possibly behind a plus sign. -/
def Writes (cs : List Char) (n : Nat) : Prop :=
  ∃ sign digits, cs = sign ++ digits ∧ (sign = [] ∨ sign = ['+']) ∧ digits ≠ [] ∧
    (∀ c ∈ digits, c.isDigit = true) ∧ Nat.ofDigitChars 10 digits 0 = n

theorem natural?_eq_some_iff {cs : List Char} {n : Nat} :
    natural? cs = some n ↔
      cs ≠ [] ∧ (∀ c ∈ cs, c.isDigit = true) ∧ Nat.ofDigitChars 10 cs 0 = n := by
  rw [natural?, valueOf_eq_ofDigitChars]
  simp [and_assoc]

/-- The numbers read are those written, as long as they fit into a byte. -/
theorem byte?_eq_some_iff {cs : List Char} {n : Nat} :
    byte? cs = some n ↔ Writes cs n ∧ n < 256 := by
  unfold byte?
  dsimp only
  rw [Option.filter_eq_some_iff, natural?_eq_some_iff, decide_eq_true_iff]
  refine and_congr_left fun _ => ?_
  constructor
  · intro h
    -- One plus sign is cut off if there is one.
    split at h
    · exact ⟨['+'], _, rfl, .inr rfl, h⟩
    · exact ⟨[], cs, rfl, .inl rfl, h⟩
  · rintro ⟨sign, digits, rfl, rfl | rfl, h⟩
    · split
      · -- Digits do not start with a plus sign.
        rename_i rest hplus
        rw [List.nil_append] at hplus
        rw [hplus] at h
        exact absurd (h.2.1 '+' List.mem_cons_self) (by decide)
      · exact h
    · exact h

/-- There are only digits and plus signs in a number. -/
theorem Writes.eq_plus_or_isDigit {cs : List Char} {n : Nat} (h : Writes cs n) :
    ∀ c ∈ cs, c = '+' ∨ c.isDigit = true := by
  obtain ⟨sign, digits, rfl, hsign, -, hdigits, -⟩ := h
  refine List.forall_mem_append.2 ⟨?_, fun c hc => .inr (hdigits c hc)⟩
  rcases hsign with rfl | rfl <;> simp

/-- The decimal digits of a number write this number and no other. -/
theorem writes_toString_iff {m n : Nat} : Writes (toString m).toList n ↔ n = m := by
  have hvalue : Nat.ofDigitChars 10 (toString m).toList 0 = m := by
    rw [← valueOf_eq_ofDigitChars, valueOf_toString]
  constructor
  · -- There is no plus sign in front of the digits, so they are all there is.
    rintro ⟨sign, digits, hcs, rfl | rfl, -, -, rfl⟩
    · rw [← hvalue, hcs, List.nil_append]
    · have hplus : '+' ∈ (toString m).toList := by
        rw [hcs]
        exact List.mem_cons_self
      exact absurd (isDigit_of_mem_toString hplus) (by decide)
  · rintro rfl
    exact ⟨[], (toString n).toList, rfl, .inl rfl, toList_toString_ne_nil n,
      fun c => isDigit_of_mem_toString, hvalue⟩

end Decimal

/-! ## Class names -/

namespace Identifier

/-- A letter or an underscore, and then letters, digits and underscores. -/
def IsIdentifier (text : String) : Prop :=
  ∃ first rest, text.toList = first :: rest ∧
    (Text.isAlphabetic first = true ∨ first = '_') ∧
    ∀ c ∈ rest, Text.isAlphabetic c = true ∨ Text.isNumeric c = true ∨ c = '_'

theorem isWellFormed_iff {text : String} : isWellFormed text = true ↔ IsIdentifier text := by
  rw [isWellFormed, IsIdentifier]
  cases text.toList <;> simp [isStart, isPart, Text.isAlphanumeric, or_assoc]

end Identifier

/-- A setting for a class name: with the blanks around it dropped, it is an identifier that is not
reserved. -/
structure ClassName.Written (setting name : String) : Prop where
  trimmed : name = Text.trim setting
  identifier : Identifier.IsIdentifier name
  free : name ∉ Identifier.reservedWords

/-! ## Indentations -/

namespace Indent

/-- The word for tabs, in the singular or in the plural. -/
def SpellsTabs (cs : List Char) : Prop := Text.Spells "tab" cs ∨ Text.Spells "tabs" cs

theorem spellsTabs_iff {cs : List Char} :
    SpellsTabs cs ↔
      cs.map Char.toLower = ['t', 'a', 'b'] ∨ cs.map Char.toLower = ['t', 'a', 'b', 's'] := by
  rw [SpellsTabs, Text.spells_iff (by decide), Text.spells_iff (by decide)]
  rfl

/-- A number does not start with a `t`. -/
theorem not_spellsTabs_of_writes {cs : List Char} {n : Nat} (h : Decimal.Writes cs n) :
    ¬ SpellsTabs cs := by
  intro hword
  obtain ⟨c, rest, rfl, hc⟩ : ∃ c rest, cs = c :: rest ∧ c.toLower = 't' := by
    rcases spellsTabs_iff.1 hword with hword | hword <;>
    · obtain ⟨c, rest, hcs, hc, -⟩ := List.map_eq_cons_iff.1 hword
      exact ⟨c, rest, hcs, hc⟩
  have hdigit := h.eq_plus_or_isDigit c List.mem_cons_self
  rcases (Text.toLower_eq_iff (by decide)).1 hc with rfl | rfl <;> revert hdigit <;> decide

/-- A setting for an indentation: the word for tabs, or a number of spaces. -/
inductive Written (setting : String) : Indent → Prop
  | tabs (h : SpellsTabs (Text.trim setting).toList) : Written setting .tabs
  | spaces {width : Nat} (h : Decimal.Writes (Text.trim setting).toList width)
      (hlow : 1 ≤ width) (hhigh : width ≤ 255) : Written setting (.spaces width)

theorem ofSetting?_eq_some_iff {setting : String} {indent : Indent} :
    ofSetting? setting = some indent ↔ Written setting indent := by
  by_cases h : SpellsTabs (Text.trim setting).toList
  · have hread : ofSetting? setting = some .tabs := by
      rcases spellsTabs_iff.1 h with hword | hword <;> simp only [ofSetting?, hword]
    rw [hread, Option.some.injEq]
    refine ⟨fun heq => heq ▸ .tabs h, fun hwritten => ?_⟩
    cases hwritten with
    | tabs => rfl
    | spaces hnumber => exact absurd h (not_spellsTabs_of_writes hnumber)
  · have hread : ofSetting? setting =
        ((Decimal.byte? (Text.trim setting).toList).filter (0 < ·)).map spaces := by
      unfold ofSetting?
      dsimp only
      split
      · exact absurd (spellsTabs_iff.2 (.inl ‹_›)) h
      · exact absurd (spellsTabs_iff.2 (.inr ‹_›)) h
      · rfl
    -- What is no word for tabs is read as a number that fits into a byte and is not zero.
    simp only [hread, Option.map_eq_some_iff, Option.filter_eq_some_iff, Decimal.byte?_eq_some_iff,
      decide_eq_true_iff]
    constructor
    · rintro ⟨width, ⟨⟨hnumber, hhigh⟩, hlow⟩, rfl⟩
      exact .spaces hnumber hlow (by omega)
    · intro hwritten
      cases hwritten with
      | tabs hword => exact absurd hword h
      | @spaces width hnumber hlow hhigh => exact ⟨width, ⟨⟨hnumber, by omega⟩, hlow⟩, rfl⟩

end Indent

namespace IndentSetting

/-- What an indentation in a project file stands for. -/
inductive Gives : IndentSetting → Indent → Prop
  | width {n : Nat} (hlow : 1 ≤ n) (hhigh : n ≤ 255) : Gives (width n) (.spaces n)
  | name {setting : String} {indent : Indent} (h : Indent.Written setting indent) :
    Gives (name setting) indent

/-- The digits of a number are not trimmed. -/
theorem trim_toString (n : Nat) : Text.trim (toString n) = toString n :=
  Text.trim_eq_self fun _ hc => Text.isBlank_of_isDigit (Decimal.isDigit_of_mem_toString hc)

/-- A number stands for what its digits stand for. -/
theorem written_setting_iff {setting : IndentSetting} {indent : Indent} :
    Indent.Written setting.setting indent ↔ Gives setting indent := by
  cases setting with
  | name setting =>
    refine ⟨.name, fun h => ?_⟩
    cases h with
    | name hwritten => exact hwritten
  | width n =>
    constructor
    · intro h
      cases h with
      | tabs hword =>
        rw [setting, trim_toString] at hword
        exact absurd hword (Indent.not_spellsTabs_of_writes (Decimal.writes_toString_iff.2 rfl))
      | @spaces width hnumber hlow hhigh =>
        rw [setting, trim_toString, Decimal.writes_toString_iff] at hnumber
        subst hnumber
        exact .width hlow hhigh
    · intro h
      cases h with
      | width hlow hhigh =>
        refine .spaces ?_ hlow hhigh
        rw [setting, trim_toString, Decimal.writes_toString_iff]

end IndentSetting

/-! ## Line endings -/

namespace LineEnding

/-- A setting for a line ending: the name of its characters. -/
inductive Written (setting : String) : LineEnding → Prop
  | lineFeed (h : Text.Spells "lf" (Text.trim setting).toList) : Written setting lineFeed
  | carriageReturnLineFeed (h : Text.Spells "crlf" (Text.trim setting).toList) :
    Written setting carriageReturnLineFeed

theorem ofSetting?_eq_some_iff {setting : String} {lineEnding : LineEnding} :
    ofSetting? setting = some lineEnding ↔ Written setting lineEnding := by
  have hlf : Text.Spells "lf" (Text.trim setting).toList ↔
      (Text.trim setting).toList.map Char.toLower = ['l', 'f'] := Text.spells_iff (by decide)
  have hcrlf : Text.Spells "crlf" (Text.trim setting).toList ↔
      (Text.trim setting).toList.map Char.toLower = ['c', 'r', 'l', 'f'] :=
    Text.spells_iff (by decide)
  constructor
  · intro h
    rw [ofSetting?] at h
    split at h
    · cases h
      exact .lineFeed (hlf.2 ‹_›)
    · cases h
      exact .carriageReturnLineFeed (hcrlf.2 ‹_›)
    · cases h
  · intro h
    cases h with
    | lineFeed h => simp only [ofSetting?, hlf.1 h]
    | carriageReturnLineFeed h => simp only [ofSetting?, hcrlf.1 h]

end LineEnding

end ClassSynthesis
