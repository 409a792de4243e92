import ClassSynthesis.Json.Decoder
import ClassSynthesis.Proofs.Json.Reading

/-!
# Decoding What the Grammar Derives

A decoder reads a text as a value (`Reads`) if it does so behind any blanks and in front of
anything that can follow a value. Values without parts come first, then sequences, whose items
are read if each of them is (`reads_listOf`), and maps, where what holds of a state and the
entries to come holds up to the last state (`entries_append`). A value of any kind is passed
over, however deep it is nested (`reads_skipValue`).
-/

namespace ClassSynthesis.Json

/-- The first character of a value is no blank and no closing bracket. -/
def Starts (text : List Char) : Prop :=
  ∃ c cs, text = c :: cs ∧ isSpace c = false ∧ c ∉ [']', '\x7d']

/-- A decoder reads a text as a value, wherever the text stands. -/
structure Reads {α : Type} (decoder : Decoder α) (text : List Char) (a : α) : Prop where
  starts : Starts text
  leaves : ∀ before rest, Blank before → Stops rest →
    Leaves (decoder (before ++ (text ++ rest))) a rest

variable {α β : Type} {text rest : List Char} {a : α}

theorem Starts.significant_append (h : Starts text) {before : List Char} (hbefore : Blank before)
    (rest : List Char) : significant (before ++ (text ++ rest)) = text ++ rest := by
  obtain ⟨c, cs, rfl, hspace, -⟩ := h
  rw [Json.significant_append hbefore]
  exact significant_cons hspace _

theorem Reads.front {decoder : Decoder α} (h : Reads decoder text a) (hrest : Stops rest) :
    Leaves (decoder (text ++ rest)) a rest :=
  h.leaves [] rest blank_nil hrest

/-- A decoder that passes over blanks reads what it reads behind them. -/
theorem Reads.afterBlanks {decoder : Decoder α} (hstarts : Starts text)
    (h : ∀ rest, Stops rest → Leaves (decoder (text ++ rest)) a rest) :
    Reads (.afterBlanks decoder) text a := by
  refine ⟨hstarts, fun before rest hbefore hrest => ?_⟩
  have hread : Leaves (decoder (significant (before ++ (text ++ rest)))) a rest := by
    rw [hstarts.significant_append hbefore]
    exact h rest hrest
  unfold Decoder.afterBlanks
  exact hread.bind fun shorter => .ok _

theorem Reads.map {decoder : Decoder α} (h : Reads decoder text a) (f : α → β) :
    Reads (decoder.map f) text (f a) := by
  refine ⟨h.starts, fun before rest hbefore hrest => ?_⟩
  exact (h.leaves before rest hbefore hrest).bind fun shorter => .ok _

theorem Reads.refine {decoder : Decoder α} (h : Reads decoder text a)
    {f : α → Except DataError β} {b : β} (hf : f a = .ok b) :
    Reads (decoder.refine f) text b := by
  refine ⟨h.starts, fun before rest hbefore hrest => ?_⟩
  refine (h.leaves before rest hbefore hrest).bind fun shorter => ?_
  dsimp only
  rw [hf]
  exact .ok _

/-! ## Values without parts -/

theorem starts_of_mem {c : Char} (h : c ∈ ['"', 'n', 't', 'f', '[', '\x7b', '-']) (cs : List Char) :
    Starts (c :: cs) := by
  refine ⟨c, cs, rfl, ?_⟩
  revert c
  simp [isSpace]

theorem keyword_append (word rest : List Char) :
    ∃ noLonger, keyword word (word ++ rest) = .ok ⟨rest, noLonger⟩ := by
  induction word with
  | nil => exact ⟨Nat.le_refl _, rfl⟩
  | cons c word ih =>
    obtain ⟨noLonger, hread⟩ := ih
    have hkeyword : keyword (c :: word) (c :: (word ++ rest)) =
        .ok (Rest.behind ⟨rest, noLonger⟩).toUpto := by
      rw [keyword, if_pos rfl, hread]
    exact ⟨_, hkeyword⟩

theorem literal_append {c : Char} (a : α) (word : String) (rest : List Char) :
    Leaves (literal (c := c) a word (word.toList ++ rest)) a rest := by
  obtain ⟨noLonger, hread⟩ := keyword_append word.toList rest
  unfold literal
  rw [hread]
  exact .ok _

theorem reads_textAs (description : String) {s : String} (h : StringText s text) :
    Reads (textAs description) text s := by
  obtain ⟨t, rfl⟩ : ∃ t, text = '"' :: t := by
    obtain ⟨parts, -, rfl⟩ := h
    exact ⟨_, rfl⟩
  refine .afterBlanks (starts_of_mem (by simp) t) fun rest _ => ?_
  exact (string_append h rest).bind fun shorter => .ok _

theorem reads_text {s : String} (h : StringText s text) : Reads Json.text text s :=
  reads_textAs "a string" h

theorem reads_boolean {b : Bool} (h : BooleanText b text) : Reads boolean text b := by
  cases b with
  | false =>
    rw [BooleanText, if_neg Bool.false_ne_true] at h
    subst h
    refine .afterBlanks (starts_of_mem (by simp) _) fun rest _ => ?_
    exact literal_append false "alse" rest
  | true =>
    rw [BooleanText, if_pos rfl] at h
    subst h
    refine .afterBlanks (starts_of_mem (by simp) _) fun rest _ => ?_
    exact literal_append true "rue" rest

theorem reads_nullable {s : Option String} (h : NullableText StringText s text) :
    Reads (nullable Json.text) text s := by
  cases s with
  | none =>
    obtain rfl : text = ['n', 'u', 'l', 'l'] := h
    refine .afterBlanks (starts_of_mem (by simp) _) fun rest _ => ?_
    exact literal_append none "ull" rest
  | some s =>
    have hread := (reads_text h).map some
    obtain ⟨parts, -, rfl⟩ := h
    exact .afterBlanks hread.starts fun rest hrest => hread.front hrest

theorem reads_choice {choices : List (String × α)} {name : String} (h : StringText name text)
    (ha : choices.lookup name = some a) : Reads (choice choices) text a := by
  have hread : ∀ {pick : String → Except DataError α}, pick name = .ok a →
      Reads (Json.text.refine pick) text a := (reads_text h).refine
  have hstarts := (reads_text h).starts
  obtain ⟨parts, -, rfl⟩ := h
  unfold choice
  dsimp only
  refine .afterBlanks hstarts fun rest hrest => (hread ?_).front hrest
  rw [ha]

/-! ## Sequences -/

/-- Blanks, a comma or a closing bracket can stand behind a value. -/
theorem stops_append {before : List Char} (hbefore : Blank before) {c : Char}
    (hc : c ∈ [',', ']', '\x7d']) (cs : List Char) : Stops (before ++ c :: cs) := by
  intro d hd
  cases before with
  | nil =>
    obtain rfl : c = d := by simpa using hd
    exact Or.inr hc
  | cons b before =>
    obtain rfl : b = d := by simpa using hd
    exact Or.inl (hbefore b List.mem_cons_self)

theorem bracket_closes : ']' ∈ [']', '\x7d'] := by decide

theorem brace_closes : '\x7d' ∈ [']', '\x7d'] := by decide

section

variable {close : Char} (hclose : close ∈ [']', '\x7d'])

include hclose

theorem MoreItems.stops {item : α → List Char → Prop} {as : List α} {more : List Char}
    (h : MoreItems item as more) (rest : List Char) : Stops (more ++ close :: rest) := by
  cases h with
  | nil hblanks => exact stops_append hblanks (List.mem_cons_of_mem _ hclose) _
  | cons hbefore =>
    rw [List.append_assoc]
    exact stops_append hbefore List.mem_cons_self _

theorem significant_close {blanks : List Char} (hblanks : Blank blanks) (rest : List Char) :
    significant (blanks ++ close :: rest) = close :: rest := by
  rw [significant_append hblanks]
  refine significant_cons ?_ rest
  revert close
  simp [isSpace]

theorem Starts.nextItem_first (h : Starts text) {before : List Char} (hbefore : Blank before)
    (rest : List Char) : ∃ noLonger,
      nextItem close true (before ++ (text ++ rest)) = .ok (some ⟨text ++ rest, noLonger⟩) := by
  have hsignificant := h.significant_append hbefore rest
  obtain ⟨c, cs, rfl, -, hc⟩ := h
  exact Json.nextItem_first hsignificant fun heq => hc (heq ▸ hclose)

theorem Starts.nextItem_more (h : Starts text) {before after : List Char} (hbefore : Blank before)
    (hafter : Blank after) (rest : List Char) : ∃ noLonger,
      nextItem close false (before ++ ',' :: (after ++ (text ++ rest))) =
        .ok (some ⟨text ++ rest, noLonger⟩) := by
  have hcomma : significant (before ++ ',' :: (after ++ (text ++ rest))) =
      ',' :: (after ++ (text ++ rest)) := by
    rw [Json.significant_append hbefore]
    exact significant_cons rfl _
  have hsignificant := h.significant_append hafter rest
  obtain ⟨c, cs, rfl, -, hc⟩ := h
  have hne : ',' ≠ close := by
    rintro rfl
    simp at hclose
  exact Json.nextItem_more hne hcomma hsignificant fun heq => hc (heq ▸ hclose)

end

/-- An item is read in front of the others. -/
theorem items_cons {item : Decoder α} {isFirst : Bool} {cs start after last : List Char}
    {as : List α}
    (hnext : ∃ noLonger, nextItem ']' isFirst cs = .ok (some ⟨start, noLonger⟩))
    (hfirst : Leaves (item start) a after) (hmore : Leaves (items item false after) as last) :
    Leaves (items item isFirst cs) (a :: as) last := by
  obtain ⟨noLonger, hnext⟩ := hnext
  rw [items, hnext]
  show Leaves (item start >>= _) _ last
  exact hfirst.bind fun shorter => hmore.bind fun noLonger => .ok _

theorem items_nil {item : Decoder α} (isFirst : Bool) {blanks : List Char} (h : Blank blanks)
    (rest : List Char) :
    Leaves (items item isFirst (blanks ++ ']' :: rest)) [] (blanks ++ ']' :: rest) := by
  rw [items, nextItem_close isFirst (significant_close bracket_closes h rest)]
  exact .ok (Upto.whole _)

/-- Further items are read one by one, up to the blanks in front of the closing bracket. -/
theorem items_more {item : Decoder α} {as : List α} {more : List Char}
    (h : MoreItems (fun a text => Reads item text a) as more) (rest : List Char) :
    ∃ blanks, Blank blanks ∧
      Leaves (items item false (more ++ ']' :: rest)) as (blanks ++ ']' :: rest) := by
  induction h with
  | nil hblanks => exact ⟨_, hblanks, items_nil false hblanks rest⟩
  | cons hbefore hafter hitem hmore ih =>
    rename_i a as before after text more
    obtain ⟨blanks, hblanks, hread⟩ := ih
    have happend : before ++ ',' :: (after ++ (text ++ more)) ++ ']' :: rest =
        before ++ ',' :: (after ++ (text ++ (more ++ ']' :: rest))) := by simp
    rw [happend]
    exact ⟨blanks, hblanks, items_cons
      (hitem.starts.nextItem_more bracket_closes hbefore hafter _)
      (hitem.front (hmore.stops bracket_closes rest)) hread⟩

/-- The items of a sequence are read up to and including its closing bracket. -/
theorem sequenceBody_append {item : Decoder α} {as : List α} {body : List Char}
    (h : Items (fun a text => Reads item text a) as body) (rest : List Char) :
    Leaves (sequenceBody item (body ++ [']'] ++ rest)) as rest := by
  rw [List.append_assoc, List.singleton_append]
  have hitems : ∃ blanks, Blank blanks ∧
      Leaves (items item true (body ++ ']' :: rest)) as (blanks ++ ']' :: rest) := by
    cases h with
    | nil hblanks => exact ⟨_, hblanks, items_nil true hblanks rest⟩
    | cons hbefore hitem hmore =>
      rename_i a as before text more
      obtain ⟨blanks, hblanks, hread⟩ := items_more hmore rest
      have happend : before ++ (text ++ more) ++ ']' :: rest =
          before ++ (text ++ (more ++ ']' :: rest)) := by simp
      rw [happend]
      exact ⟨blanks, hblanks, items_cons (hitem.starts.nextItem_first bracket_closes hbefore _)
        (hitem.front (hmore.stops bracket_closes rest)) hread⟩
  obtain ⟨blanks, hblanks, hitems⟩ := hitems
  refine hitems.bind fun noLonger => ?_
  show Leaves (closing ']' (blanks ++ ']' :: rest) >>= _) as rest
  rw [closing_eq (significant_close bracket_closes hblanks rest)]
  exact .ok _

theorem reads_listOf {item : Decoder α} {form : α → List Char → Prop} {as : List α}
    (h : SequenceText form as text) (hitem : ∀ a text, form a text → Reads item text a) :
    Reads (listOf item) text as := by
  obtain ⟨body, hbody, rfl⟩ := h
  have hreads := hbody.imp fun a text _ => hitem a text
  refine .afterBlanks (starts_of_mem (by simp) _) fun rest _ => ?_
  exact (sequenceBody_append hreads rest).bind fun shorter => .ok _

/-! ## Maps -/

/-- The text of an entry, behind the quote that opens its key, takes one state to the next. -/
def Advances {σ : Type} (entry : σ → Decoder σ) (state : σ) (text : List Char) (next : σ) : Prop :=
  ∃ behind, text = '"' :: behind ∧
    ∀ rest, Stops rest → Leaves (entry state (behind ++ rest)) next rest

theorem entryValue_append {decoder : Decoder α} (h : Reads decoder text a)
    {before after : List Char} (hbefore : Blank before) (hafter : Blank after)
    (hrest : Stops rest) :
    Leaves (entryValue decoder (before ++ ':' :: (after ++ (text ++ rest)))) a rest := by
  have hcolon : significant (before ++ ':' :: (after ++ (text ++ rest))) =
      ':' :: (after ++ (text ++ rest)) := by
    rw [significant_append hbefore]
    exact significant_cons rfl _
  unfold entryValue
  rw [colon, closing_eq hcolon]
  exact (h.leaves after rest hafter hrest).bind fun shorter => .ok _

section

variable {σ ε : Type} {entry : σ → Decoder σ} {state next final : σ}

/-- An entry is read in front of the others. -/
theorem entries_cons {isFirst : Bool} {cs behind after last : List Char}
    (hkey : ∃ noLonger, nextItem '\x7d' isFirst cs = .ok (some ⟨'"' :: behind, noLonger⟩))
    (hfirst : Leaves (entry state behind) next after)
    (hmore : Leaves (entries entry next false after) final last) :
    Leaves (entries entry state isFirst cs) final last := by
  obtain ⟨noLonger, hkey⟩ := hkey
  rw [entries, nextKey, hkey]
  show Leaves (entry state behind >>= _) final last
  exact hfirst.bind fun shorter => hmore.bind fun noLonger => .ok _

theorem entries_nil (isFirst : Bool) {blanks : List Char} (h : Blank blanks) (rest : List Char) :
    Leaves (entries entry state isFirst (blanks ++ '\x7d' :: rest)) state
      (blanks ++ '\x7d' :: rest) := by
  rw [entries, nextKey, nextItem_close isFirst (significant_close brace_closes h rest)]
  exact .ok (Upto.whole _)

variable {form : ε → List Char → Prop} (Holds : σ → List ε → Prop)
  (hstep : ∀ state e more text, Holds state (e :: more) → form e text →
    ∃ next, Advances entry state text next ∧ Holds next more)

include hstep

/-- Further entries are read one by one. What holds of a state and the entries still to come
holds of the last state. -/
theorem entries_more {es : List ε} {more : List Char} (h : MoreItems form es more)
    (hstate : Holds state es) (rest : List Char) :
    ∃ final blanks, Holds final [] ∧ Blank blanks ∧
      Leaves (entries entry state false (more ++ '\x7d' :: rest)) final
        (blanks ++ '\x7d' :: rest) := by
  induction h generalizing state with
  | nil hblanks => exact ⟨state, _, hstate, hblanks, entries_nil false hblanks rest⟩
  | cons hbefore hafter hentry hmore ih =>
    rename_i e es before after text more
    obtain ⟨next, ⟨behind, rfl, hadvance⟩, hnext⟩ := hstep state e es text hstate hentry
    obtain ⟨final, blanks, hfinal, hblanks, hread⟩ := ih hnext
    have happend : before ++ ',' :: (after ++ ('"' :: behind ++ more)) ++ '\x7d' :: rest =
        before ++ ',' :: (after ++ ('"' :: behind ++ (more ++ '\x7d' :: rest))) := by simp
    rw [happend]
    exact ⟨final, blanks, hfinal, hblanks, entries_cons
      ((starts_of_mem (by simp) behind).nextItem_more brace_closes hbefore hafter _)
      (hadvance _ (hmore.stops brace_closes rest)) hread⟩

/-- The entries of a map are read up to its closing brace. -/
theorem entries_append {es : List ε} {body : List Char} (h : Items form es body)
    (hstate : Holds state es) (rest : List Char) :
    ∃ final blanks, Holds final [] ∧ Blank blanks ∧
      Leaves (entries entry state true (body ++ ['\x7d'] ++ rest)) final
        (blanks ++ '\x7d' :: rest) := by
  rw [List.append_assoc, List.singleton_append]
  cases h with
  | nil hblanks => exact ⟨state, _, hstate, hblanks, entries_nil true hblanks rest⟩
  | cons hbefore hentry hmore =>
    rename_i e es before text more
    obtain ⟨next, ⟨behind, rfl, hadvance⟩, hnext⟩ := hstep state e es text hstate hentry
    obtain ⟨final, blanks, hfinal, hblanks, hread⟩ := entries_more Holds hstep hmore hnext rest
    have happend : before ++ ('"' :: behind ++ more) ++ '\x7d' :: rest =
        before ++ ('"' :: behind ++ (more ++ '\x7d' :: rest)) := by simp
    rw [happend]
    exact ⟨final, blanks, hfinal, hblanks, entries_cons
      ((starts_of_mem (by simp) behind).nextItem_first brace_closes hbefore _)
      (hadvance _ (hmore.stops brace_closes rest)) hread⟩

end

/-! ## Values of any kind -/

/-- How a value is passed over. -/
def skipWalk : Walk Unit where
  leaf := skipScalar
  key := fun cs => do
    let after ← skipString cs
    return ((), after)
  sequence := ()
  map := ()

theorem skipValue_eq (cs : List Char) : skipValue cs = skipWalk.value cs.length cs := rfl

theorem mem_digits_of_isDigit {c : Char} (h : c.isDigit = true) :
    c ∈ ['0', '1', '2', '3', '4', '5', '6', '7', '8', '9'] := by
  have hrange : 48 ≤ c.toNat ∧ c.toNat ≤ 57 := by
    simpa [Char.isDigit, Char.le_def, UInt32.le_iff_toNat_le] using h
  have hdigits : ∀ n < 58, 48 ≤ n →
      Char.ofNat n ∈ ['0', '1', '2', '3', '4', '5', '6', '7', '8', '9'] := by decide
  rw [← Char.ofNat_toNat c]
  exact hdigits c.toNat (by omega) hrange.1

/-- The characters that a number starts with. -/
def numberStarts : List Char := ['-', '0', '1', '2', '3', '4', '5', '6', '7', '8', '9']

theorem exists_of_isNumber (h : IsNumber text) : ∃ c cs, text = c :: cs ∧ c ∈ numberStarts := by
  obtain ⟨sign, whole, fraction, exponent, hsign, hwhole, -, -, -, rfl⟩ := h
  obtain ⟨c, digits, rfl⟩ := List.exists_cons_of_ne_nil hwhole.1
  have hc := mem_digits_of_isDigit (hwhole.2 c List.mem_cons_self)
  simp only [List.mem_cons, List.not_mem_nil, or_false] at hsign
  rcases hsign with rfl | rfl
  · exact ⟨c, _, rfl, List.mem_cons_of_mem _ hc⟩
  · exact ⟨'-', _, rfl, List.mem_cons_self⟩

theorem skipScalar_number {c : Char} (hc : c ∈ numberStarts) (cs : List Char) :
    skipScalar (c :: cs) = (skipNumber (c :: cs)).map fun after => ((), after) := by
  simp only [numberStarts, List.mem_cons, List.not_mem_nil, or_false] at hc
  rcases hc with rfl | rfl | rfl | rfl | rfl | rfl | rfl | rfl | rfl | rfl | rfl <;> rfl

/-- A value without parts starts like no sequence and no map, and is passed over. -/
theorem skipScalar_append (h : IsScalar text) :
    (∃ c cs, text = c :: cs ∧ c ∈ ['n', 't', 'f', '"'] ++ numberStarts) ∧
      ∀ rest, Stops rest → Leaves (skipScalar (text ++ rest)) () rest := by
  rcases h with h | ⟨b, h⟩ | h | h
  · obtain rfl : text = ['n', 'u', 'l', 'l'] := h
    exact ⟨⟨_, _, rfl, by decide⟩, fun rest _ => literal_append () "ull" rest⟩
  · cases b with
    | false =>
      obtain rfl : text = ['f', 'a', 'l', 's', 'e'] := h
      exact ⟨⟨_, _, rfl, by decide⟩, fun rest _ => literal_append () "alse" rest⟩
    | true =>
      obtain rfl : text = ['t', 'r', 'u', 'e'] := h
      exact ⟨⟨_, _, rfl, by decide⟩, fun rest _ => literal_append () "rue" rest⟩
  · -- Behind the opening quote stands the rest of the string.
    have hstring := h
    obtain ⟨parts, -, rfl⟩ := h
    refine ⟨⟨_, _, rfl, by decide⟩, fun rest _ => ?_⟩
    obtain ⟨shorter, hread⟩ := skipString_of_isString hstring rest
    have hskip : skipScalar ('"' :: ((parts.flatten ++ ['"']) ++ rest)) =
        .ok ((), .behind (Rest.toUpto ⟨rest, shorter⟩)) := by
      rw [skipScalar, hread]
      rfl
    exact ⟨_, hskip⟩
  · -- Of the scalars only a number depends on what follows it.
    have hnumber := h
    obtain ⟨c, cs, rfl, hc⟩ := exists_of_isNumber h
    refine ⟨⟨c, cs, rfl, List.mem_append_right _ hc⟩, fun rest hrest => ?_⟩
    obtain ⟨shorter, hread⟩ := skipNumber_append hnumber hrest
    have hskip : skipScalar (c :: (cs ++ rest)) = .ok ((), ⟨rest, shorter⟩) := by
      rw [skipScalar_number hc]
      exact congrArg (Except.map fun after => ((), after)) hread
    exact ⟨_, hskip⟩

theorem reads_walk_scalar (h : IsScalar text) (depth : Nat) :
    Reads (skipWalk.value (depth + 1)) text () := by
  obtain ⟨⟨c, cs, rfl, hc⟩, hskip⟩ := skipScalar_append h
  have hstarts : ∀ c ∈ ['n', 't', 'f', '"'] ++ numberStarts,
      isSpace c = false ∧ c ∉ [']', '\x7d'] := by simp [numberStarts, isSpace]
  rw [Walk.value]
  refine .afterBlanks ⟨c, cs, rfl, hstarts c hc⟩ fun rest hrest => ?_
  simp only [numberStarts, List.mem_append, List.mem_cons, List.not_mem_nil, or_false] at hc
  rcases hc with (rfl | rfl | rfl | rfl) | rfl | rfl | rfl | rfl | rfl | rfl | rfl | rfl | rfl |
    rfl | rfl <;> exact hskip rest hrest

/-- How an entry of a map is passed over, behind the quote that opens its key. -/
def skipEntry (depth : Nat) : Unit → Decoder Unit := fun _ cs => do
  let (_, keyEnd) ← skipWalk.key cs
  let (_, after) ← entryValue (skipWalk.value depth) keyEnd.val
  return ((), keyEnd.trans after)

/-- An entry is passed over if its value is. -/
theorem advances_walk {n : Nat} {key value : List Char} (hkey : IsString key)
    (hvalue : Reads (skipWalk.value n) value ()) (h : EntryText key value text) :
    Advances (skipEntry n) () text () := by
  obtain ⟨before, after, hbefore, hafter, rfl⟩ := h
  have hstring := hkey
  obtain ⟨parts, -, rfl⟩ := hkey
  refine ⟨_, rfl, fun rest hrest => ?_⟩
  have hkeyRead : Leaves (skipWalk.key ((parts.flatten ++ ['"']) ++
      (before ++ ':' :: (after ++ value)) ++ rest)) ()
      (before ++ ':' :: (after ++ (value ++ rest))) := by
    have happend : (parts.flatten ++ ['"']) ++ (before ++ ':' :: (after ++ value)) ++ rest =
        (parts.flatten ++ ['"']) ++ (before ++ ':' :: (after ++ (value ++ rest))) := by simp
    rw [happend]
    obtain ⟨shorter, hread⟩ :=
      skipString_of_isString hstring (before ++ ':' :: (after ++ (value ++ rest)))
    unfold skipWalk
    dsimp only
    rw [hread]
    exact .ok _
  refine hkeyRead.bind fun shorter => ?_
  exact (entryValue_append hvalue hbefore hafter hrest).bind fun shorter => .ok _

/-- A value is passed over if no more brackets are open in it than may be. -/
theorem reads_walk {depth : Nat} (h : IsValue depth text) {n : Nat} (hn : text.length ≤ n) :
    Reads (skipWalk.value n) text () := by
  -- The induction is on the brackets that may be open. Each opening bracket takes one character of
  -- the text, so what is inside is short enough for one step less.
  induction depth generalizing text n with
  | zero =>
    obtain ⟨⟨c, cs, rfl, -⟩, -⟩ := skipScalar_append h
    obtain ⟨m, rfl⟩ := Nat.exists_eq_succ_of_ne_zero (Nat.ne_zero_of_lt hn)
    exact reads_walk_scalar h m
  | succ depth ih =>
    rcases h with h | ⟨items, body, hbody, rfl⟩ | ⟨es, body, hbody, rfl⟩
    · obtain ⟨⟨c, cs, rfl, -⟩, -⟩ := skipScalar_append h
      obtain ⟨m, rfl⟩ := Nat.exists_eq_succ_of_ne_zero (Nat.ne_zero_of_lt hn)
      exact reads_walk_scalar h m
    · obtain ⟨m, rfl⟩ := Nat.exists_eq_succ_of_ne_zero (Nat.ne_zero_of_lt hn)
      have hshort : body.length ≤ m := by
        simp at hn
        omega
      have hitems : Items (fun _ t => Reads (skipWalk.value m) t ()) items body :=
        hbody.imp fun _ t ht hvalue => ih hvalue (Nat.le_trans ht hshort)
      rw [Walk.value]
      refine .afterBlanks (starts_of_mem (by simp) _) fun rest _ => ?_
      exact (sequenceBody_append hitems rest).bind fun shorter => .ok _
    · obtain ⟨m, rfl⟩ := Nat.exists_eq_succ_of_ne_zero (Nat.ne_zero_of_lt hn)
      have hshort : body.length ≤ m := by
        simp at hn
        omega
      have hes : Items (fun _ e => ∃ key value, IsString key ∧
          Reads (skipWalk.value m) value () ∧ EntryText key value e) es body := by
        refine hbody.imp fun _ e he hentry => ?_
        obtain ⟨key, value, hkey, hvalue, htext⟩ := hentry
        refine ⟨key, value, hkey, ih hvalue ?_, htext⟩
        obtain ⟨_, _, _, _, rfl⟩ := htext
        simp at he
        omega
      rw [Walk.value]
      refine .afterBlanks (starts_of_mem (by simp) _) fun rest _ => ?_
      obtain ⟨_, blanks, -, hblanks, hread⟩ := entries_append (fun _ _ => True)
        (fun _ _ _ _ _ ⟨_, _, hkey, hvalue, htext⟩ =>
          ⟨(), advances_walk hkey hvalue htext, trivial⟩) hes trivial rest
      show Leaves (entries (skipEntry m) () true (body ++ ['\x7d'] ++ rest) >>= _) _ rest
      refine hread.bind fun noLonger => ?_
      show Leaves (closing '\x7d' (blanks ++ '\x7d' :: rest) >>= _) _ rest
      rw [closing_eq (significant_close brace_closes hblanks rest)]
      exact .ok _

/-- A value of any kind is passed over: a text has more characters than brackets. -/
theorem reads_skipValue (h : IsJson text) : Reads skipValue text () := by
  obtain ⟨depth, h⟩ := h
  refine ⟨(reads_walk h (Nat.le_refl _)).starts, fun before rest hbefore hrest => ?_⟩
  rw [skipValue_eq]
  refine (reads_walk h ?_).leaves before rest hbefore hrest
  simp
  omega

/-! ## Whole texts -/

/-- A value with nothing but blanks around it is decoded from the whole text. -/
theorem decode_of_reads {decoder : Decoder α} (h : Reads decoder text a) {before after : List Char}
    (hbefore : Blank before) (hafter : Blank after) {source : String}
    (hsource : source.toList = before ++ (text ++ after)) : decode decoder source = .ok a := by
  have hstops : Stops after := fun c hc => .inl (hafter c (List.mem_of_mem_head? hc))
  have hend : significant after = [] := by
    rw [← List.append_nil after, significant_append hafter]
    rfl
  obtain ⟨shorter, hread⟩ : Leaves (decoder source.toList) a after := by
    rw [hsource]
    exact h.leaves before after hbefore hstops
  unfold decode
  rw [hread]
  show (if (significant after).isEmpty then _ else _) = _
  rw [hend]
  rfl

end ClassSynthesis.Json
