import ClassSynthesis.Diagnostic.Report
import ClassSynthesis.Proofs.Decimal.Numeral
import ClassSynthesis.Proofs.Declaration.Characters
import ClassSynthesis.Proofs.Host.Path
import ClassSynthesis.Proofs.Text.Replacement
import Mathlib.Data.List.Forall2

/-!
# Reports With and Without Colors

A line of a report is a sequence of parts, some of them in a style (`Report.headLine_eq_write`,
`Report.relatedLine_eq_write`), and the parts are the same with colors and without. So it is
enough to look at one part: a text without escape characters stands between two style sequences
with colors and alone without, and deleting the sequences deletes nothing else
(`Style.Colored.wrap`). What is deleted can depend on the text that follows, so `Style.Colored`
speaks about all texts that may follow.

## Main definitions

- `Style.plain`: a text without its style sequences.
- `Style.Colored`: a text is another one with style sequences put in.
- `Report.Part`: a part of a line, in a style or in none.
-/

namespace ClassSynthesis

open Text

namespace Text

/-- Lines without line feeds, each ended by one, are the pieces between the line feeds; nothing
is left behind the last one. -/
theorem pieces_join_lines {lines : List String} (h : ∀ l ∈ lines, Throughout (· ≠ '\n') l) :
    pieces '\n' (String.join (lines.map (· ++ "\n"))).toList =
      lines.map String.toList ++ [[]] := by
  induction lines with
  | nil => rfl
  | cons l rest ih =>
    obtain ⟨hl, hrest⟩ := List.forall_mem_cons.1 h
    have hsplit : (String.join ((l :: rest).map (· ++ "\n"))).toList =
        l.toList ++ '\n' :: (String.join (rest.map (· ++ "\n"))).toList := by
      simp
    rw [hsplit, pieces_append_cons, pieces_of_not_mem (throughout_ne_iff.1 hl), ih hrest]
    rfl

end Text

/-! ## Deleting style sequences -/

namespace Style

/-- Whether a character may stand among the parameters of a style sequence. -/
def isParameter (c : Char) : Bool := c.isDigit || c == ';'

/-- The length of the style sequence that a text begins with: an escape character, a bracket,
parameters and an `m`. It is zero if the text does not begin with one. -/
def sequenceLength : List Char → Nat
  | '\x1b' :: '[' :: cs =>
    let count := (cs.takeWhile isParameter).length
    if cs[count]? = some 'm' then count + 3 else 0
  | _ => 0

/-- Copy the text without its style sequences. The next `skip` characters belong to a sequence
that has begun and are dropped. -/
def plainAfter : Nat → List Char → List Char
  | _, [] => []
  | skip + 1, _ :: cs => plainAfter skip cs
  | 0, c :: cs =>
    match sequenceLength (c :: cs) with
    | 0 => c :: plainAfter 0 cs
    | length + 1 => plainAfter length cs

/-- The text without its style sequences. -/
def plain (text : String) : String := String.ofList (plainAfter 0 text.toList)

/-- What is being dropped is dropped. -/
theorem plainAfter_append (dropped rest : List Char) :
    plainAfter dropped.length (dropped ++ rest) = plainAfter 0 rest := by
  induction dropped with
  | nil => rfl
  | cons c dropped ih => exact ih

theorem sequenceLength_of_ne {c : Char} (h : c ≠ '\x1b') (cs : List Char) :
    sequenceLength (c :: cs) = 0 := by
  unfold sequenceLength
  split
  next heq =>
    injection heq with hc
    exact absurd hc h
  next => rfl

theorem sequenceLength_sequence {parameters : List Char} (h : parameters.all isParameter)
    (rest : List Char) :
    sequenceLength ('\x1b' :: '[' :: (parameters ++ 'm' :: rest)) = parameters.length + 3 := by
  have hcount : (parameters ++ 'm' :: rest).takeWhile isParameter = parameters := by
    rw [List.takeWhile_append_of_pos (by simpa using h)]
    simp [isParameter]
  simp [sequenceLength, hcount]

/-- One text is the other with style sequences put in: without them it is that text, whatever
follows. -/
def Colored (text colored : String) : Prop :=
  ∀ rest, plainAfter 0 (colored.toList ++ rest) = text.toList ++ plainAfter 0 rest

namespace Colored

variable {text colored text' colored' : String}

theorem plain_eq (h : Colored text colored) : plain colored = text := by
  have hall := h []
  rw [List.append_nil] at hall
  rw [plain, hall]
  simp [plainAfter]

theorem append (h : Colored text colored) (h' : Colored text' colored') :
    Colored (text ++ text') (colored ++ colored') := by
  intro rest
  rw [String.toList_append, String.toList_append, List.append_assoc, h, h', List.append_assoc]

theorem empty : Colored "" "" := fun _ => rfl

/-- A text without escape characters has no style sequences, also together with what follows. -/
theorem refl (h : Throughout (· ≠ '\x1b') text) : Colored text text := by
  intro rest
  rw [throughout_ne_iff] at h
  generalize text.toList = cs at h ⊢
  induction cs with
  | nil => rfl
  | cons c cs ih =>
    rw [List.mem_cons, not_or] at h
    rw [List.cons_append, plainAfter, sequenceLength_of_ne (Ne.symm h.1), ih h.2]
    rfl

/-- A style sequence is put into nothing. -/
theorem sequence {parameters : String} (h : parameters.toList.all isParameter) :
    Colored "" (sequence parameters) := by
  intro rest
  have hchars : (Style.sequence parameters).toList ++ rest =
      '\x1b' :: '[' :: (parameters.toList ++ 'm' :: rest) := by
    simp [Style.sequence]
  -- Behind the escape character come the bracket, the parameters and the `m`.
  have hdropped := plainAfter_append ('[' :: (parameters.toList ++ ['m'])) rest
  rw [hchars, plainAfter, sequenceLength_sequence h]
  simpa using hdropped

/-- A style puts nothing but sequences into a text. -/
theorem wrap (style : Style) (h : Throughout (· ≠ '\x1b') text) :
    Colored text (style.wrap text) := by
  have hstart : Colored "" style.start := by
    apply sequence
    cases style <;> decide
  have hreset : Colored "" reset := sequence (by decide)
  have hall := (hstart.append (refl h)).append hreset
  rw [Style.wrap, replaceAll_of_not_mem (throughout_ne_iff.1 h), String.ofList_toList]
  rwa [String.empty_append, String.append_empty] at hall

/-- Other sequences stay. -/
example : plain ("a" ++ Style.error.wrap "b" ++ "\x1b[2J") = "ab\x1b[2J" := by
  decide

theorem join {texts coloreds : List String} (h : List.Forall₂ Colored texts coloreds) :
    Colored (String.join texts) (String.join coloreds) := by
  induction h with
  | nil => exact empty
  | cons hfirst _ ih =>
    rw [String.join_cons, String.join_cons]
    exact hfirst.append ih

end Colored

end Style

/-! ## Parts of a line -/

/-- The texts of a related place. -/
def RelatedInformation.texts (r : RelatedInformation) : List String :=
  r.file :: r.text :: r.contract.toList

/-- The texts of a diagnostic and of its related places. -/
def Diagnostic.texts (d : Diagnostic) : List String :=
  d.file :: d.text :: d.contract.toList ++ d.related.flatMap RelatedInformation.texts

namespace Report

/-- A part of a line: a text in a style or in none. -/
structure Part where
  /-- The style; none where the text stays as it is also with colors. -/
  style : Option Style
  /-- What is said. -/
  text : String

/-- The part as it is written. -/
def Part.write (colors : Bool) (part : Part) : String :=
  match part.style with
  | some style => style.apply colors part.text
  | none => part.text

/-- The line of some parts. -/
def write (colors : Bool) (parts : List Part) : String :=
  String.join (parts.map (·.write colors))

/-- The parts of the first line of a diagnostic. -/
def headParts (d : Diagnostic) : List Part :=
  [⟨some .location, place d.file d.contract⟩, ⟨none, " - "⟩,
    ⟨some (.ofCategory d.category), d.category.name⟩] ++
  (if d.code == 0 then [] else [⟨none, " "⟩, ⟨some .code, "IG" ++ toString d.code⟩]) ++
  [⟨none, ": "⟩, ⟨none, d.text⟩]

/-- The parts of the line of a related place. -/
def relatedParts (r : RelatedInformation) : List Part :=
  [⟨some .related, "  Related"⟩, ⟨none, ": "⟩, ⟨none, r.contract.getD r.file⟩, ⟨none, " - "⟩,
    ⟨none, r.text⟩]

theorem headLine_eq_write (colors : Bool) (d : Diagnostic) :
    headLine colors d = write colors (headParts d) := by
  rw [headLine, codeText, write, headParts]
  split <;> simp [Part.write, String.append_assoc]

theorem relatedLine_eq_write (colors : Bool) (r : RelatedInformation) :
    relatedLine colors r = write colors (relatedParts r) := by
  simp [relatedLine, write, relatedParts, Part.write, String.append_assoc]

/-- The same parts with colors and without differ by style sequences only. -/
theorem colored_write {parts : List Part}
    (h : ∀ part ∈ parts, Throughout (· ≠ '\x1b') part.text) :
    Style.Colored (write false parts) (write true parts) := by
  apply Style.Colored.join
  rw [List.forall₂_map_left_iff, List.forall₂_map_right_iff, List.forall₂_same]
  rintro ⟨style, text⟩ hpart
  cases style with
  | none => exact .refl (h _ hpart)
  | some style => exact .wrap style (h _ hpart)

/-- There are no line feeds in a line if there are none in its parts. -/
theorem throughout_write {parts : List Part} (colors : Bool)
    (hescape : ∀ part ∈ parts, Throughout (· ≠ '\x1b') part.text)
    (h : ∀ part ∈ parts, Throughout (· ≠ '\n') part.text) :
    Throughout (· ≠ '\n') (write colors parts) := by
  apply throughout_join
  rw [List.forall_mem_map]
  rintro ⟨style, text⟩ hpart
  have htext : Throughout (· ≠ '\n') text := h _ hpart
  cases style with
  | none => exact htext
  | some style =>
    cases colors with
    | false => exact htext
    | true =>
      have hstart : Throughout (· ≠ '\n') style.start := by cases style <;> decide
      have hreset : Throughout (· ≠ '\n') Style.reset := by decide
      show Throughout (· ≠ '\n') (style.wrap text)
      rw [Style.wrap, replaceAll_of_not_mem (throughout_ne_iff.1 (hescape _ hpart)),
        String.ofList_toList]
      exact throughout_append.2 ⟨throughout_append.2 ⟨hstart, htext⟩, hreset⟩

/-- A control character is no printable one. -/
theorem ne_of_printable {control : Char} (h : control < ' ') (c : Char) (hc : ' ' ≤ c) :
    c ≠ control := by
  rintro rfl
  exact Char.not_lt.2 hc h

section

variable {p : Char → Prop} (hp : ∀ c, ' ' ≤ c → p c)

include hp

/-- What holds of all printable characters holds throughout the texts that a report adds. -/
theorem throughout_of_printable {text : String} (h : Throughout (' ' ≤ ·) text) :
    Throughout p text := fun c hc => hp c (h c hc)

theorem throughout_place {file : String} {contract : Option String} (hfile : Throughout p file)
    (hcontract : ∀ name ∈ contract.toList, Throughout p name) :
    Throughout p (place file contract) := by
  unfold place
  split
  next contract hsome =>
    have hname := hcontract contract (by simp)
    have hopen : Throughout p "(" := throughout_of_printable hp (by decide)
    have hclose : Throughout p ")" := throughout_of_printable hp (by decide)
    simp only [throughout_append, hfile, hopen, hname, hclose, and_self]
  next => exact hfile
  next contract hsome => exact hcontract contract (by simp)
  next => exact throughout_of_printable hp (by decide)

/-- A number is written with digits. -/
theorem throughout_number (n : Nat) : Throughout p (toString n) := by
  apply throughout_of_printable hp
  intro c hc
  have hdigit := Decimal.isDigit_of_mem_toString hc
  rw [Char.isDigit, Bool.and_eq_true, decide_eq_true_eq] at hdigit
  have hzero : '0' ≤ c := hdigit.1
  exact Char.le_trans (by decide) hzero

theorem throughout_headParts {d : Diagnostic} (h : ∀ text ∈ d.texts, Throughout p text) :
    ∀ part ∈ headParts d, Throughout p part.text := by
  rw [Diagnostic.texts] at h
  simp only [List.forall_mem_cons, List.forall_mem_append] at h
  obtain ⟨⟨hfile, htext, hcontract⟩, -⟩ := h
  have hplace := throughout_place hp hfile hcontract
  have hname : Throughout p d.category.name := by
    apply throughout_of_printable hp
    cases d.category <;> decide
  have hcode : Throughout p ("IG" ++ toString d.code) :=
    throughout_append.2 ⟨throughout_of_printable hp (by decide), throughout_number hp d.code⟩
  have hspace : Throughout p " " := throughout_of_printable hp (by decide)
  have hdash : Throughout p " - " := throughout_of_printable hp (by decide)
  have hcolon : Throughout p ": " := throughout_of_printable hp (by decide)
  rw [headParts]
  refine List.forall_mem_append.2 ⟨List.forall_mem_append.2 ⟨?_, ?_⟩, ?_⟩
  · simp [hplace, hdash, hname]
  · split
    · exact List.forall_mem_nil _
    · exact List.forall_mem_cons.2 ⟨hspace, List.forall_mem_singleton.2 hcode⟩
  · simp [hcolon, htext]

theorem throughout_relatedParts {r : RelatedInformation}
    (h : ∀ text ∈ r.texts, Throughout p text) :
    ∀ part ∈ relatedParts r, Throughout p part.text := by
  rw [RelatedInformation.texts] at h
  simp only [List.forall_mem_cons] at h
  obtain ⟨hfile, htext, hcontract⟩ := h
  have hrelated : Throughout p "  Related" := throughout_of_printable hp (by decide)
  have hdash : Throughout p " - " := throughout_of_printable hp (by decide)
  have hcolon : Throughout p ": " := throughout_of_printable hp (by decide)
  have hplace : Throughout p (r.contract.getD r.file) := by
    cases hname : r.contract with
    | none => exact hfile
    | some name => exact hcontract name (by simp [hname])
  simp [relatedParts, hrelated, hcolon, hplace, hdash, htext]

end

/-! ## Reports -/

/-- The parts of the lines of a report. -/
def parts (ds : List Diagnostic) : List (List Part) :=
  ds.flatMap fun d => headParts d :: d.related.map relatedParts

variable {ds : List Diagnostic}

theorem flatMap_lines (colors : Bool) (ds : List Diagnostic) :
    ds.flatMap (lines colors) = (parts ds).map (write colors) := by
  rw [parts, List.map_flatMap]
  congr 1
  funext d
  simp [lines, headLine_eq_write, relatedLine_eq_write]

/-- What holds of printable characters and throughout the texts of some diagnostics holds
throughout the parts of their lines. -/
theorem throughout_parts {p : Char → Prop} (hp : ∀ c, ' ' ≤ c → p c)
    (h : ∀ d ∈ ds, ∀ text ∈ d.texts, Throughout p text) :
    ∀ line ∈ parts ds, ∀ part ∈ line, Throughout p part.text := by
  refine List.forall_mem_flatMap.2 fun d hd => ?_
  refine List.forall_mem_cons.2 ⟨throughout_headParts hp (h d hd), List.forall_mem_map.2 ?_⟩
  intro r hr
  apply throughout_relatedParts hp
  intro text htext
  exact h d hd text (List.mem_append_right _ (List.mem_flatMap.2 ⟨r, hr, htext⟩))

theorem length_flatMap_lines (colors : Bool) (ds : List Diagnostic) :
    (ds.flatMap (lines colors)).length = ds.length + (ds.flatMap (·.related)).length := by
  induction ds with
  | nil => rfl
  | cons d rest ih =>
    have hlines : (lines colors d).length = d.related.length + 1 := by simp [lines]
    rw [List.flatMap_cons, List.length_append, hlines, ih, List.flatMap_cons, List.length_append,
      List.length_cons]
    omega

/-- Where no text has an escape character, the lines with colors are those without, with style
sequences put in. -/
theorem colored_lines (h : ∀ d ∈ ds, ∀ text ∈ d.texts, Throughout (· ≠ '\x1b') text) :
    List.Forall₂ Style.Colored (ds.flatMap (lines false)) (ds.flatMap (lines true)) := by
  have hparts := throughout_parts (ne_of_printable (by decide)) h
  rw [flatMap_lines, flatMap_lines, List.forall₂_map_left_iff, List.forall₂_map_right_iff,
    List.forall₂_same]
  exact fun line hline => colored_write (hparts line hline)

/-- A report with colors is the report without them, with style sequences put in. -/
theorem colored_render (h : ∀ d ∈ ds, ∀ text ∈ d.texts, Throughout (· ≠ '\x1b') text) :
    Style.Colored (render false ds) (render true ds) := by
  apply Style.Colored.join
  rw [List.forall₂_map_left_iff, List.forall₂_map_right_iff]
  apply (colored_lines h).imp
  intro line colored hline
  exact hline.append (.refl (by decide))

/-- Colors add nothing but style sequences: where no text has an escape character, deleting the
sequences from the report with colors gives the report without. And where no text has a line
feed either, the lines of a report are, in order, one for each diagnostic and one for each of
its related places, and line by line deleting the sequences gives the lines without colors. -/
theorem render_colors (hescape : ∀ d ∈ ds, ∀ text ∈ d.texts, Throughout (· ≠ '\x1b') text) :
    Style.plain (render true ds) = render false ds ∧
      ((∀ d ∈ ds, ∀ text ∈ d.texts, Throughout (· ≠ '\n') text) →
        (∀ colors, pieces '\n' (render colors ds).toList =
            (ds.flatMap fun d => headLine colors d :: d.related.map (relatedLine colors)).map
              String.toList ++ [[]] ∧
          (ds.flatMap (lines colors)).length = ds.length + (ds.flatMap (·.related)).length) ∧
        (ds.flatMap (lines true)).map Style.plain = ds.flatMap (lines false)) := by
  refine ⟨(colored_render hescape).plain_eq, fun hfeed => ⟨fun colors => ?_, ?_⟩⟩
  · refine ⟨?_, length_flatMap_lines colors ds⟩
    apply pieces_join_lines
    show ∀ l ∈ ds.flatMap (lines colors), Throughout (· ≠ '\n') l
    rw [flatMap_lines, List.forall_mem_map]
    intro line hline
    apply throughout_write colors
    · exact throughout_parts (ne_of_printable (by decide)) hescape line hline
    · exact throughout_parts (ne_of_printable (by decide)) hfeed line hline
  · have hlines := (colored_lines hescape).imp fun line colored h => h.plain_eq
    rw [← List.forall₂_eq_eq_eq, List.forall₂_map_left_iff]
    exact hlines.flip.imp fun colored line h => h

/-- A report in which the file, the contract, the code and the related places are missing in
turn. -/
def mixed : List Diagnostic :=
  [ { file := "a.json", contract := some "N.I", text := "one", category := .error, code := 1001,
      related := [{ file := "b.json", contract := some "N.J", text := "two" },
        { file := "c.json", contract := none, text := "three" }] },
    { file := "a.json", contract := none, text := "four", category := .warning, code := 0 },
    { file := "", contract := some "N.K", text := "five", category := .suggestion, code := 7 },
    { file := "", contract := none, text := "six", category := .message, code := 12 } ]

theorem render_colors_mixed :
    Style.plain (render true mixed) = render false mixed ∧
      (∀ colors, pieces '\n' (render colors mixed).toList =
          (mixed.flatMap fun d => headLine colors d :: d.related.map (relatedLine colors)).map
            String.toList ++ [[]] ∧
        (mixed.flatMap (lines colors)).length = 6) ∧
      (mixed.flatMap (lines true)).map Style.plain = mixed.flatMap (lines false) := by
  have hescape : ∀ d ∈ mixed, ∀ text ∈ d.texts, Throughout (· ≠ '\x1b') text := by decide
  obtain ⟨hplain, hlines⟩ := render_colors hescape
  exact ⟨hplain, hlines (by decide)⟩

end Report

end ClassSynthesis
