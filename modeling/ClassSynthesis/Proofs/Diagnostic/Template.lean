import ClassSynthesis.Diagnostic.Message
import ClassSynthesis.Proofs.Decimal.Numeral
import ClassSynthesis.Proofs.Text.Replacement
import Mathlib.Data.List.Basic
import Mathlib.Data.String.Basic

/-!
# Filling a Template

A template consists of characters and of places for arguments (`Message.pieces`). To fill it at
once is to put each argument in its place (`Message.formatTogether`). A message is filled
differently: one argument after the other, each over the whole text, so an argument also fills the
places that an earlier argument has brought in.

In a template whose places are kept apart (`Message.separated`), as they are in all registered
messages, nothing else is filled. So the text is the template filled at once with arguments that
have been settled, that is, in which the places of later arguments are filled
(`Message.format_eq_formatTogether`). Whether an argument was settled shows in the text
(`Message.formatTogether_injective`).

## Main definitions

- `Message.Piece`, `Message.pieces`: the pieces of a template.
- `Message.formatTogether`: the template with every place filled at once.
- `Message.settle`: the arguments with the places in them filled.
-/

namespace ClassSynthesis

namespace Message

/-- The place for the argument with a number, as it stands in a template. -/
def place (number : Nat) : List Char := '\x7b' :: ((toString number).toList ++ ['\x7d'])

/-- A piece of a template. -/
inductive Piece
  /-- A character that stands for itself. -/
  | char (c : Char)
  /-- The place for the argument with a number. -/
  | place (number : Nat)
  deriving DecidableEq, Repr

namespace Piece

/-- The piece as it stands in a template. -/
def text : Piece → List Char
  | char c => [c]
  | place number => Message.place number

/-- The piece with the argument in its place. A place without an argument stays. -/
def fill (arguments : List String) : Piece → List Char
  | char c => [c]
  | place number => (arguments[number]?).elim (Message.place number) String.toList

end Piece

/-- The number of the place that a text begins with. -/
def leadingPlace? (cs : List Char) : Option Nat :=
  let number := Decimal.valueOf ((cs.drop 1).takeWhile Char.isDigit)
  if (place number).isPrefixOf cs then some number else none

/-- Read the pieces of a template. The next `skip` characters belong to a place that has been
read. -/
def piecesAfter : Nat → List Char → List Piece
  | _, [] => []
  | skip + 1, _ :: cs => piecesAfter skip cs
  | 0, c :: cs =>
    match leadingPlace? (c :: cs) with
    | some number => .place number :: piecesAfter ((toString number).length + 1) cs
    | none => .char c :: piecesAfter 0 cs

/-- The pieces of a template. -/
def pieces (template : String) : List Piece := piecesAfter 0 template.toList

/-- The text of a template with all arguments put in their places at once. -/
def formatTogether (template : String) (arguments : List String) : String :=
  String.ofList ((pieces template).flatMap (Piece.fill arguments))

/-- The arguments numbered from `number` on, each with the places of later arguments filled. -/
def settleFrom (number : Nat) : List String → List String
  | [] => []
  | argument :: rest =>
    String.ofList (fillFrom (number + 1) rest argument.toList) :: settleFrom (number + 1) rest

/-- The arguments, each with the places of later arguments filled. -/
def settle (arguments : List String) : List String := settleFrom 0 arguments

/-! ## Reading the pieces -/

theorem leadingPlace?_eq_some {cs : List Char} {number : Nat}
    (h : leadingPlace? cs = some number) : place number <+: cs := by
  rw [leadingPlace?] at h
  split at h
  next hbegin =>
    rw [Option.some.injEq] at h
    rw [← h]
    exact List.isPrefixOf_iff_prefix.1 hbegin
  next => cases h

/-- The pieces of a text are the text again. -/
theorem flatMap_text_piecesAfter (skip : Nat) (cs : List Char) :
    (piecesAfter skip cs).flatMap Piece.text = cs.drop skip := by
  induction cs generalizing skip with
  | nil => simp [piecesAfter]
  | cons c cs ih =>
    cases skip with
    | succ skip => exact ih skip
    | zero =>
      rw [piecesAfter]
      split
      next number hplace =>
        obtain ⟨rest, hrest⟩ := leadingPlace?_eq_some hplace
        have hlength : ((toString number).toList ++ ['\x7d']).length =
            (toString number).length + 1 := by
          rw [List.length_append, String.length_toList]
          rfl
        rw [place, List.cons_append] at hrest
        obtain ⟨rfl, rfl⟩ := List.cons.inj hrest
        rw [List.flatMap_cons, ih, Piece.text, List.drop_left' hlength, List.drop_zero, place,
          List.cons_append]
      next =>
        rw [List.flatMap_cons, ih]
        rfl

theorem flatMap_text_pieces (template : String) :
    (pieces template).flatMap Piece.text = template.toList :=
  flatMap_text_piecesAfter 0 template.toList

example : pieces "a\x7b\x7b0\x7d\x7b12\x7d" =
    [.char 'a', .char '\x7b', .place 0, .place 12] := by decide +kernel

/-! ## Places that are kept apart -/

/-- Whether a character cannot stand in a place. -/
def isSeparator (c : Char) : Bool := c != '\x7b' && c != '\x7d' && !c.isDigit

theorem not_mem_place {c : Char} (h : isSeparator c = true) (number : Nat) :
    c ∉ place number := by
  simp only [isSeparator, Bool.and_eq_true, bne_iff_ne, Bool.not_eq_true'] at h
  obtain ⟨⟨hopen, hclose⟩, hdigit⟩ := h
  simp only [place, List.mem_cons, List.mem_append, List.not_mem_nil, or_false, not_or]
  exact ⟨hopen, Decimal.not_mem_toString hdigit number, hclose⟩

/-- Whether no piece is an opening brace and every place is followed by a character that cannot
stand in a place. -/
def separated : List Piece → Bool
  | [] => true
  | [.place _] => true
  | .char c :: rest => c != '\x7b' && separated rest
  | .place _ :: .char c :: rest => isSeparator c && separated rest
  | .place _ :: .place _ :: _ => false

/-! ## Filling one argument after the other -/

variable {number : Nat} {arguments : List String} {c : Char} {cs ds : List Char}

theorem fillFrom_nil : fillFrom number arguments [] = [] := by
  induction arguments generalizing number with
  | nil => rfl
  | cons argument rest ih => rw [fillFrom, Text.replaceAll_nil, ih]

/-- A character other than an opening brace stays in front. -/
theorem fillFrom_cons (h : c ≠ '\x7b') :
    fillFrom number arguments (c :: cs) = c :: fillFrom number arguments cs := by
  induction arguments generalizing number cs with
  | nil => rfl
  | cons argument rest ih => rw [fillFrom, Text.replaceAll_cons_of_ne h, ih, fillFrom]

/-- A character that cannot stand in a place separates two texts that are filled on their own. -/
theorem fillFrom_append_cons (h : isSeparator c = true) :
    fillFrom number arguments (cs ++ c :: ds) =
      fillFrom number arguments cs ++ c :: fillFrom number arguments ds := by
  induction arguments generalizing number cs ds with
  | nil => rfl
  | cons argument rest ih =>
    rw [fillFrom, Text.replaceAll_append_cons (not_mem_place h number), ih, fillFrom, fillFrom]

/-- A place that a place begins with is the same place. -/
theorem eq_of_prefix_place {m n : Nat} (h : place m <+: place n) : m = n := by
  have hclose : '\x7d' ∉ (toString n).toList := Decimal.not_mem_toString (by decide) n
  obtain ⟨rest, hrest⟩ := h
  rw [place, place, List.cons_append, List.append_assoc, List.singleton_append] at hrest
  -- There is only one closing brace, and the numerals end before it.
  have hsplit := (List.append_cons_inj_of_notMem hclose List.not_mem_nil).1
    (List.cons.inj hrest).2.symm
  exact (Decimal.toString_injective (String.toList_inj.1 hsplit.1)).symm

/-- The place for another argument stays. -/
theorem replaceAll_place {m n : Nat} (h : m ≠ n) (replacement : List Char) :
    Text.replaceAll '\x7b' ((toString m).toList ++ ['\x7d']) replacement (place n) = place n := by
  have hopen : '\x7b' ∉ (toString n).toList ++ ['\x7d'] := by
    rw [List.mem_append, not_or]
    exact ⟨Decimal.not_mem_toString (by decide) n, by decide⟩
  have hbegin : ¬ place m <+: place n := fun hbegin => h (eq_of_prefix_place hbegin)
  rw [place, Text.replaceAll_cons hbegin, Text.replaceAll_of_not_mem hopen]

/-- A place on its own gets its argument, settled. -/
theorem fillFrom_place (number : Nat) (arguments : List String) (i : Nat) :
    fillFrom number arguments (place (number + i)) =
      ((settleFrom number arguments)[i]?).elim (place (number + i)) String.toList := by
  induction arguments generalizing number i with
  | nil => rfl
  | cons argument rest ih =>
    rw [fillFrom, settleFrom]
    cases i with
    | zero =>
      rw [Nat.add_zero number, place, Text.replaceAll_pattern, List.getElem?_cons_zero,
        Option.elim_some, String.toList_ofList]
    | succ i =>
      have hother : number ≠ number + (i + 1) := by omega
      have hnumber : number + (i + 1) = number + 1 + i := by omega
      rw [replaceAll_place hother, List.getElem?_cons_succ, hnumber, ih]

/-- A template whose places are kept apart is filled place by place. -/
theorem fillFrom_flatMap_text {template : List Piece} (h : separated template = true)
    (arguments : List String) :
    fillFrom 0 arguments (template.flatMap Piece.text) =
      template.flatMap (Piece.fill (settle arguments)) := by
  have hplace : ∀ n, fillFrom 0 arguments (place n) = Piece.fill (settle arguments) (.place n) := by
    intro n
    have hfill := fillFrom_place 0 arguments n
    rw [Nat.zero_add] at hfill
    exact hfill
  -- The induction is along the check: a place is filled together with the separator behind it.
  induction template using separated.induct with
  | case1 => exact fillFrom_nil
  | case2 n =>
    rw [List.flatMap_singleton, List.flatMap_singleton]
    exact hplace n
  | case3 c rest ih =>
    rw [separated, Bool.and_eq_true, bne_iff_ne] at h
    rw [List.flatMap_cons, List.flatMap_cons, Piece.text, List.singleton_append,
      fillFrom_cons h.1, ih h.2]
    rfl
  | case4 n c rest ih =>
    rw [separated, Bool.and_eq_true] at h
    rw [List.flatMap_cons, List.flatMap_cons, List.flatMap_cons, List.flatMap_cons, Piece.text,
      Piece.text, List.singleton_append, fillFrom_append_cons h.1, hplace, ih h.2]
    rfl
  | case5 m n rest =>
    rw [separated] at h
    cases h

/-- A text is made as if at once, of settled arguments, if the places of its template are kept
apart. -/
theorem format_eq_formatTogether {template : String} (h : separated (pieces template) = true)
    (arguments : List String) :
    format template arguments = formatTogether template (settle arguments) := by
  rw [format, formatTogether, ← fillFrom_flatMap_text h, flatMap_text_pieces]

theorem separated_registered : ∀ m ∈ registered, separated (pieces m.template) = true := by
  decide +kernel

theorem place_zero_mem_registered :
    ∀ m ∈ registered, m.category = .error → .place 0 ∈ pieces m.template := by
  decide +kernel

theorem format_registered {m : Message} (h : m ∈ registered) (arguments : List String) :
    format m.template arguments = formatTogether m.template (settle arguments) :=
  format_eq_formatTogether (separated_registered m h) arguments

/-! ## Settled arguments -/

theorem settle_singleton (argument : String) : settle [argument] = [argument] := by
  simp [settle, settleFrom, fillFrom]

theorem settle_pair (first second : String) :
    settle [first, second] =
      [String.ofList (Text.replaceAll '\x7b' ((toString 1).toList ++ ['\x7d']) second.toList
        first.toList), second] := by
  simp [settle, settleFrom, fillFrom]

/-- Two arguments are settled exactly when the place for the second does not occur in the first or
is the second. -/
theorem settle_pair_eq_self_iff {first second : String} :
    settle [first, second] = [first, second] ↔
      (place 1 <:+: first.toList → second.toList = place 1) := by
  rw [settle_pair, List.cons.injEq, and_iff_left rfl, String.ofList_eq]
  exact Text.replaceAll_eq_self_iff

/-! ## What a text tells of its first argument -/

theorem Piece.length_fill (piece : Piece) (first : String) (rest : List String) :
    (piece.fill (first :: rest)).length =
      (if piece = .place 0 then first.toList.length else 0) + (piece.fill ("" :: rest)).length := by
  match piece with
  | .char c => simp [fill]
  | .place 0 => simp [fill]
  | .place (number + 1) => simp [fill]

/-- The first argument counts once for each place that it has. -/
theorem length_flatMap_fill (template : List Piece) (first : String) (rest : List String) :
    (template.flatMap (Piece.fill (first :: rest))).length =
      template.count (.place 0) * first.toList.length +
        (template.flatMap (Piece.fill ("" :: rest))).length := by
  induction template with
  | nil => simp
  | cons piece template ih =>
    rw [List.flatMap_cons, List.flatMap_cons, List.length_append, List.length_append, ih,
      piece.length_fill, List.count_cons]
    by_cases hplace : piece = .place 0
    · rw [if_pos hplace, if_pos (beq_iff_eq.2 hplace), Nat.succ_mul]
      omega
    · rw [if_neg hplace, if_neg (mt beq_iff_eq.1 hplace), Nat.add_zero]
      omega

/-- Texts of a template that has a place for the first argument differ by that argument. -/
theorem formatTogether_injective {template : String} (h : .place 0 ∈ pieces template)
    (rest : List String) :
    Function.Injective fun first => formatTogether template (first :: rest) := by
  intro first other heq
  have htext := String.ofList_injective heq
  have hlength : first.toList.length = other.toList.length := by
    have hlengths := congrArg List.length htext
    rw [length_flatMap_fill, length_flatMap_fill _ other, Nat.add_right_cancel_iff] at hlengths
    exact Nat.eq_of_mul_eq_mul_left (List.count_pos_iff.2 h) hlengths
  -- The texts agree up to the first place of the argument.
  obtain ⟨before, after, hsplit, hbefore⟩ := List.eq_append_cons_of_mem h
  have hsame : before.flatMap (Piece.fill (first :: rest)) =
      before.flatMap (Piece.fill (other :: rest)) := by
    refine List.flatMap_congr fun piece hpiece => ?_
    match piece with
    | .char c => rfl
    | .place 0 => exact absurd hpiece hbefore
    | .place (number + 1) => rfl
  rw [hsplit, List.flatMap_append, List.flatMap_append, hsame, List.append_cancel_left_eq,
    List.flatMap_cons, List.flatMap_cons] at htext
  exact String.toList_inj.1 (List.append_inj htext hlength).1

end Message

end ClassSynthesis
