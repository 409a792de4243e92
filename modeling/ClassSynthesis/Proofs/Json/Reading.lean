import ClassSynthesis.Json.Number
import ClassSynthesis.Proofs.Json.Grammar

/-!
# Reading What the Grammar Derives

What each reader leaves of a text that starts as the grammar says: a string is read up to its
closing quote, with every escape decoded (`string_append`), or passed over
(`skipString_of_isString`). The end of a number is not marked in it, so a number is passed over
only where something that ends it comes next (`Stops`, `skipNumber_append`).
-/

namespace ClassSynthesis.Json

/-- What is read is a value, and the given text is left. Readers differ in what they promise of
the text that they leave. -/
def Leaves {α : Type} {Left : List Char → Prop} (result : Except JsonError (α × Subtype Left))
    (a : α) (rest : List Char) : Prop :=
  ∃ left, result = .ok (a, ⟨rest, left⟩)

namespace Leaves

variable {α β : Type} {Left Left' : List Char → Prop} {rest rest' : List Char} {a : α} {b : β}

theorem ok (after : Subtype Left) : Leaves (.ok (a, after)) a after.val := ⟨after.property, rfl⟩

/-- What is done with a value that is read starts behind it. -/
theorem bind {result : Except JsonError (α × Subtype Left)}
    {next : α × Subtype Left → Except JsonError (β × Subtype Left')} (h : Leaves result a rest)
    (hnext : ∀ left, Leaves (next (a, ⟨rest, left⟩)) b rest') :
    Leaves (result >>= next) b rest' := by
  obtain ⟨left, rfl⟩ := h
  exact hnext left

end Leaves

/-! ## Blanks and brackets -/

theorem significant_append {before : List Char} (h : Blank before) (cs : List Char) :
    significant (before ++ cs) = significant cs :=
  List.dropWhile_append_of_pos h

theorem significant_cons {c : Char} (h : isSpace c = false) (cs : List Char) :
    significant (c :: cs) = c :: cs := by
  simp [significant, h]

section

variable {close c : Char} {cs rest : List Char}

theorem closing_eq (h : significant cs = close :: rest) :
    closing close cs = .ok ⟨rest, length_lt_of_significant h⟩ := by
  unfold closing
  split
  next h' => simp [h] at h'
  next h' =>
    rw [h, List.cons.injEq] at h'
    obtain ⟨rfl, rfl⟩ := h'
    rw [if_pos rfl]

/-- There is no further item in front of the closing bracket. -/
theorem nextItem_close (isFirst : Bool) (h : significant cs = close :: rest) :
    nextItem close isFirst cs = .ok none := by
  unfold nextItem
  split
  next h' => simp [h] at h'
  next h' =>
    rw [h, List.cons.injEq] at h'
    obtain ⟨rfl, rfl⟩ := h'
    rw [if_pos rfl]

/-- The first item is next. -/
theorem nextItem_first (h : significant cs = c :: rest) (hc : c ≠ close) :
    ∃ noLonger, nextItem close true cs = .ok (some ⟨c :: rest, noLonger⟩) := by
  refine ⟨length_lt_of_significant h, ?_⟩
  unfold nextItem
  split
  next h' => simp [h] at h'
  next h' =>
    rw [h, List.cons.injEq] at h'
    obtain ⟨rfl, rfl⟩ := h'
    rw [if_neg hc]
    rfl

/-- Behind a comma a further item is next. -/
theorem nextItem_more {behind : List Char} (hclose : ',' ≠ close)
    (h : significant cs = ',' :: behind) (hitem : significant behind = c :: rest) (hc : c ≠ close) :
    ∃ noLonger, nextItem close false cs = .ok (some ⟨c :: rest, noLonger⟩) := by
  have hshorter := Nat.lt_trans (length_lt_of_significant hitem) (length_lt_of_significant h)
  refine ⟨hshorter, ?_⟩
  unfold nextItem
  split
  next h' => simp [h] at h'
  next h' =>
    rw [h, List.cons.injEq] at h'
    obtain ⟨rfl, rfl⟩ := h'
    rw [if_neg hclose, if_neg Bool.false_ne_true, if_pos rfl]
    split
    next h' => simp [hitem] at h'
    next h' =>
      rw [hitem, List.cons.injEq] at h'
      obtain ⟨rfl, rfl⟩ := h'
      rw [if_neg hc]

end

/-! ## Hexadecimal digits -/

theorem hexValue?_of_hexDigit {value : Nat} {c : Char} (h : HexDigit value c) :
    hexValue? c = some value := by
  have hdigits : ∀ v < 16, hexValue? v.digitChar = some v ∧
      hexValue? v.digitChar.toUpper = some v := by decide
  obtain ⟨hlt, rfl | rfl⟩ := h
  · exact (hdigits value hlt).1
  · exact (hdigits value hlt).2

/-- Four hexadecimal digits are read as their number. -/
theorem hexDigits_append {n : Nat} {digits : List Char} (h : HexDigits n digits)
    (rest : List Char) :
    Leaves (hexDigits (digits ++ rest)) n rest := by
  rw [HexDigits] at h
  obtain _ | ⟨ha, _ | ⟨hb, _ | ⟨hc, _ | ⟨hd, _ | _⟩⟩⟩⟩ := h
  rename_i a b c d
  have hbytes : ¬ leadingBytes (a :: b :: c :: d :: rest) < 4 := by
    have := a.utf8Size_pos
    have := b.utf8Size_pos
    have := c.utf8Size_pos
    have := d.utf8Size_pos
    simp [leadingBytes]
    omega
  have hnumber : hexNumber? a b c d = some n := by
    simp only [hexNumber?, hexValue?_of_hexDigit ha, hexValue?_of_hexDigit hb,
      hexValue?_of_hexDigit hc, hexValue?_of_hexDigit hd]
    simp
    omega
  have hread : hexDigits (a :: b :: c :: d :: rest) =
      .ok (n, .behind (Rest.behind (Rest.behind (Rest.tail d rest).toUpto).toUpto).toUpto) := by
    rw [hexDigits, if_neg hbytes]
    simp only [hnumber]
  exact ⟨_, hread⟩

/-! ## Strings -/

theorem isHighSurrogate_iff {n : Nat} : isHighSurrogate n = true ↔ 0xD800 ≤ n ∧ n ≤ 0xDBFF := by
  unfold isHighSurrogate
  grind

theorem isLowSurrogate_iff {n : Nat} : isLowSurrogate n = true ↔ 0xDC00 ≤ n ∧ n ≤ 0xDFFF := by
  unfold isLowSurrogate
  grind

/-- The code of a character is no unit of a surrogate pair. -/
theorem hexEscape_code {c : Char} {digits : List Char} (h : HexDigits c.toNat digits)
    (rest : List Char) :
    Leaves (hexEscape (digits ++ rest)) c rest := by
  obtain ⟨shorter, hread⟩ := hexDigits_append h rest
  -- Characters leave out the codes between, which are those of the units.
  have hvalid : c.toNat < 0xD800 ∨ (0xDFFF < c.toNat ∧ c.toNat < 0x110000) := c.valid
  have hlow : ¬ isLowSurrogate c.toNat = true := by
    rw [isLowSurrogate_iff]
    omega
  have hhigh : ¬ isHighSurrogate c.toNat = true := by
    rw [isHighSurrogate_iff]
    omega
  refine ⟨shorter, ?_⟩
  rw [hexEscape, hread]
  simp only [if_neg hlow, if_neg hhigh, Char.ofNat_toNat]

/-- The units of the surrogate pair for a character are read as the character. -/
theorem hexEscape_pair {c : Char} {high low : List Char} (hlarge : 0x10000 ≤ c.toNat)
    (hhigh : HexDigits (highUnit c) high) (hlow : HexDigits (lowUnit c) low) (rest : List Char) :
    Leaves (hexEscape (high ++ '\\' :: 'u' :: (low ++ rest))) c rest := by
  have hvalid : c.toNat < 0xD800 ∨ (0xDFFF < c.toNat ∧ c.toNat < 0x110000) := c.valid
  -- Each unit lies in the range that tells it from the other and from a character of its own.
  have hfirst : isHighSurrogate (highUnit c) = true := by
    rw [isHighSurrogate_iff, highUnit]
    omega
  have hnotLow : ¬ isLowSurrogate (highUnit c) = true := by
    rw [isLowSurrogate_iff, highUnit]
    omega
  have hsecond : isLowSurrogate (lowUnit c) = true := by
    rw [isLowSurrogate_iff, lowUnit]
    omega
  have hpair : surrogatePair (highUnit c) (lowUnit c) = c := by
    have hcode : 0x10000 + (highUnit c - 0xD800) * 0x400 + (lowUnit c - 0xDC00) = c.toNat := by
      simp only [highUnit, lowUnit]
      omega
    rw [surrogatePair, hcode, Char.ofNat_toNat]
  obtain ⟨shorterLow, hreadLow⟩ := hexDigits_append hlow rest
  obtain ⟨shorterHigh, hreadHigh⟩ := hexDigits_append hhigh ('\\' :: 'u' :: (low ++ rest))
  have hunit : lowSurrogate (highUnit c) ('\\' :: 'u' :: (low ++ rest)) =
      .ok (c, .behind (Rest.behind (Rest.toUpto ⟨rest, shorterLow⟩)).toUpto) := by
    rw [lowSurrogate, hreadLow]
    simp only [if_pos hsecond, hpair]
  have hescape : hexEscape (high ++ '\\' :: 'u' :: (low ++ rest)) =
      .ok (c, Rest.trans ⟨'\\' :: 'u' :: (low ++ rest), shorterHigh⟩
        (.behind (Rest.behind (Rest.toUpto ⟨rest, shorterLow⟩)).toUpto)) := by
    rw [hexEscape, hreadHigh]
    simp only [if_neg hnotLow, if_pos hfirst, hunit]
  exact ⟨_, hescape⟩

/-- What follows a backslash is read as the character it stands for. -/
theorem escape_append {c : Char} {text : List Char} (h : CharText c ('\\' :: text))
    (rest : List Char) :
    Leaves (escape (text ++ rest)) c rest := by
  cases h with
  | plain hplain => exact absurd rfl hplain.2.1
  | short hshort =>
    simp [shortEscapes] at hshort
    rcases hshort with ⟨rfl, rfl⟩ | ⟨rfl, rfl⟩ | ⟨rfl, rfl⟩ | ⟨rfl, rfl⟩ | ⟨rfl, rfl⟩ | ⟨rfl, rfl⟩ |
      ⟨rfl, rfl⟩ | ⟨rfl, rfl⟩ <;> exact ⟨_, rfl⟩
  | code hdigits =>
    rename_i digits
    obtain ⟨shorter, hread⟩ := hexEscape_code hdigits rest
    have hescape : escape ('u' :: (digits ++ rest)) =
        .ok (c, .behind (Rest.toUpto ⟨rest, shorter⟩)) := by
      rw [escape, hread]
    exact ⟨_, hescape⟩
  | pair hlarge hhigh hlow =>
    rename_i high low
    obtain ⟨shorter, hread⟩ := hexEscape_pair hlarge hhigh hlow rest
    have hescape : escape ('u' :: (high ++ '\\' :: 'u' :: (low ++ rest))) =
        .ok (c, .behind (Rest.toUpto ⟨rest, shorter⟩)) := by
      rw [escape, hread]
    rw [List.cons_append, List.append_assoc]
    exact ⟨_, hescape⟩

/-- A character of a string is read in front of the others. -/
theorem stringBody_append {c : Char} {part rest body tail : List Char} (h : CharText c part)
    (hrest : Leaves (stringBody rest) body tail) :
    Leaves (stringBody (part ++ rest)) (c :: body) tail := by
  obtain ⟨shorter, hrest⟩ := hrest
  by_cases hescaped : part.head? = some '\\'
  · obtain ⟨text, rfl⟩ : ∃ text, part = '\\' :: text := by
      cases part <;> simp_all
    obtain ⟨shorterEscape, hescape⟩ := escape_append h rest
    have hread : stringBody ('\\' :: (text ++ rest)) =
        .ok (c :: body, .behind (Rest.trans ⟨rest, shorterEscape⟩ ⟨tail, shorter⟩).toUpto) := by
      rw [stringBody, if_neg (by decide), if_pos rfl, hescape]
      simp only [hrest]
    exact ⟨_, hread⟩
  · cases h with
    | plain hplain =>
      have hread : stringBody (c :: rest) =
          .ok (c :: body, .behind (Rest.toUpto ⟨tail, shorter⟩)) := by
        rw [stringBody, if_neg hplain.1, if_neg hplain.2.1, if_neg (Char.not_lt.2 hplain.2.2),
          hrest]
      exact ⟨_, hread⟩
    | short => exact absurd rfl hescaped
    | code => exact absurd rfl hescaped
    | pair => exact absurd rfl hescaped

theorem stringBody_flatten {body : List Char} {parts : List (List Char)}
    (h : List.Forall₂ CharText body parts) (rest : List Char) :
    Leaves (stringBody (parts.flatten ++ '"' :: rest)) body rest := by
  induction h with
  | nil =>
    have hread : stringBody ('"' :: rest) = .ok ([], .tail '"' rest) := by
      rw [stringBody, if_pos rfl]
    exact ⟨_, hread⟩
  | cons hpart _ ih =>
    rw [List.flatten_cons, List.append_assoc]
    exact stringBody_append hpart ih

/-- A string is read up to its closing quote. -/
theorem string_append {s : String} {text : List Char} (h : StringText s ('"' :: text))
    (rest : List Char) : Leaves (string (text ++ rest)) s rest := by
  obtain ⟨parts, hparts, htext⟩ := h
  obtain rfl : text = parts.flatten ++ ['"'] := (List.cons.inj htext).2
  obtain ⟨shorter, hbody⟩ := stringBody_flatten hparts rest
  rw [List.append_assoc]
  refine ⟨shorter, ?_⟩
  show string (parts.flatten ++ '"' :: rest) = _
  rw [string, hbody]
  simp only [String.ofList_toList]

/-! ## Strings that are only checked -/

/-- What follows a backslash is passed over. -/
theorem skipEscape_append {text : List Char} (h : StringPart ('\\' :: text)) (rest : List Char) :
    ∃ shorter, skipEscape (text ++ rest) = .ok ⟨rest, shorter⟩ := by
  cases h with
  | plain hplain => exact absurd rfl hplain.2.1
  | short hshort =>
    simp [shortEscapes] at hshort
    rcases hshort with ⟨rfl, rfl⟩ | ⟨rfl, rfl⟩ | ⟨rfl, rfl⟩ | ⟨rfl, rfl⟩ | ⟨rfl, rfl⟩ | ⟨rfl, rfl⟩ |
      ⟨rfl, rfl⟩ | ⟨rfl, rfl⟩ <;> exact ⟨_, rfl⟩
  | code hdigits =>
    rename_i n digits
    obtain ⟨shorter, hread⟩ := hexDigits_append hdigits rest
    have hescape : skipEscape ('u' :: (digits ++ rest)) =
        .ok (.behind (Rest.toUpto ⟨rest, shorter⟩)) := by
      rw [skipEscape, hread]
    exact ⟨_, hescape⟩

/-- A part of a string is passed over in front of the others. -/
theorem skipString_append {part rest tail : List Char} (h : StringPart part)
    (hrest : ∃ shorter, skipString rest = .ok ⟨tail, shorter⟩) :
    ∃ shorter, skipString (part ++ rest) = .ok ⟨tail, shorter⟩ := by
  obtain ⟨shorter, hrest⟩ := hrest
  by_cases hescaped : part.head? = some '\\'
  · obtain ⟨text, rfl⟩ : ∃ text, part = '\\' :: text := by
      cases part <;> simp_all
    obtain ⟨shorterEscape, hescape⟩ := skipEscape_append h rest
    have hread : skipString ('\\' :: (text ++ rest)) =
        .ok (.behind (Rest.trans ⟨rest, shorterEscape⟩ ⟨tail, shorter⟩).toUpto) := by
      rw [skipString, if_neg (by decide), if_pos rfl, hescape]
      simp only [hrest]
    exact ⟨_, hread⟩
  · cases h with
    | plain hplain =>
      rename_i c
      have hread : skipString (c :: rest) = .ok (.behind (Rest.toUpto ⟨tail, shorter⟩)) := by
        rw [skipString, if_neg hplain.1, if_neg hplain.2.1, if_neg (Char.not_lt.2 hplain.2.2),
          hrest]
      exact ⟨_, hread⟩
    | short => exact absurd rfl hescaped
    | code => exact absurd rfl hescaped

/-- A string is passed over up to its closing quote. -/
theorem skipString_of_isString {text : List Char} (h : IsString ('"' :: text))
    (rest : List Char) : ∃ shorter, skipString (text ++ rest) = .ok ⟨rest, shorter⟩ := by
  obtain ⟨parts, hparts, htext⟩ := h
  obtain rfl : text = parts.flatten ++ ['"'] := (List.cons.inj htext).2
  clear htext
  rw [List.append_assoc]
  induction parts with
  | nil =>
    have hread : skipString ('"' :: rest) = .ok (.tail '"' rest) := by
      rw [skipString, if_pos rfl]
    exact ⟨_, hread⟩
  | cons part parts ih =>
    rw [List.flatten_cons, List.append_assoc]
    refine skipString_append (hparts part List.mem_cons_self) (ih fun p hp => ?_)
    exact hparts p (List.mem_cons_of_mem _ hp)

/-! ## Numbers -/

/-- A text at whose front no value goes on: it is empty, or a blank, a comma or a closing bracket
comes first. -/
def Stops (rest : List Char) : Prop :=
  ∀ c, rest.head? = some c → isSpace c = true ∨ c ∈ [',', ']', '\x7d']

/-- No number goes on there. -/
theorem Stops.not_number {rest : List Char} (h : Stops rest) :
    ∀ c, rest.head? = some c → c.isDigit = false ∧ c ∉ ['.', 'e', 'E'] := by
  intro c hc
  have hcases : c ∈ [' ', '\n', '\t', '\r', ',', ']', '\x7d'] := by
    have := h c hc
    simp [isSpace] at this ⊢
    tauto
  have hall : ∀ d ∈ [' ', '\n', '\t', '\r', ',', ']', '\x7d'],
      d.isDigit = false ∧ d ∉ ['.', 'e', 'E'] := by simp
  exact hall c hcases

theorem scanDigits_append (atEnd : JsonError) {digits rest : List Char} (h : IsDigits digits)
    (hrest : ∀ c, rest.head? = some c → c.isDigit = false) :
    Leaves (scanDigits atEnd (digits ++ rest)) digits rest := by
  have hleading : leadingDigits (digits ++ rest) = digits := by
    rw [leadingDigits, List.takeWhile_append_of_pos h.2]
    cases rest with
    | nil => simp
    | cons c rest => simp [hrest c rfl]
  have hafter : (digits ++ rest).dropWhile Char.isDigit = rest := by
    rw [List.dropWhile_append_of_pos h.2]
    cases rest with
    | nil => rfl
    | cons c rest => simp [hrest c rfl]
  have hne : ¬ leadingDigits (digits ++ rest) = [] := by
    rw [hleading]
    exact h.1
  have hshorter : rest.length < (digits ++ rest).length := by
    have := List.length_pos_iff.2 h.1
    rw [List.length_append]
    omega
  refine ⟨hshorter, ?_⟩
  rw [scanDigits, dif_neg hne]
  simp only [Except.ok.injEq, Prod.mk.injEq, Subtype.mk.injEq]
  exact ⟨hleading, hafter⟩

theorem scanFraction_append (atEnd : JsonError) {fraction rest : List Char}
    (h : FractionText fraction)
    (hrest : ∀ c, rest.head? = some c → c.isDigit = false ∧ c ≠ '.') :
    ∃ digits, Leaves (scanFraction atEnd (fraction ++ rest)) digits rest := by
  rcases h with rfl | ⟨digits, hdigits, rfl⟩
  · rw [List.nil_append]
    refine ⟨[], Nat.le_refl _, ?_⟩
    unfold scanFraction
    split
    next => exact absurd rfl (hrest '.' rfl).2
    next => rfl
  · obtain ⟨shorter, hread⟩ := scanDigits_append atEnd hdigits fun c hc => (hrest c hc).1
    have hfraction : scanFraction atEnd ('.' :: (digits ++ rest)) =
        .ok (digits, (Rest.behind (Rest.toUpto ⟨rest, shorter⟩)).toUpto) := by
      rw [scanFraction, hread]
    exact ⟨digits, _, hfraction⟩

/-- Behind the sign of an exponent are its digits. -/
theorem exponentSign_append {sign digits : List Char} (hsign : sign ∈ [[], ['-'], ['+']])
    (hdigits : IsDigits digits) (rest : List Char) :
    (exponentSign (sign ++ (digits ++ rest))).2.val = digits ++ rest := by
  simp only [List.mem_cons, List.not_mem_nil, or_false] at hsign
  rcases hsign with rfl | rfl | rfl
  · obtain ⟨c, digits, rfl⟩ := List.exists_cons_of_ne_nil hdigits.1
    have hc := hdigits.2 c List.mem_cons_self
    have hsign : ∀ d ∈ ['-', '+'], ∀ cs, c :: (digits ++ rest) = d :: cs → False := by
      intro d hd cs h
      rw [(List.cons.inj h).1] at hc
      have hdigit : ∀ d ∈ ['-', '+'], d.isDigit = false := by simp
      rw [hdigit d hd] at hc
      cases hc
    have hread : exponentSign (c :: (digits ++ rest)) = (false, .whole _) :=
      exponentSign.eq_3 _ (hsign '-' (by simp)) (hsign '+' (by simp))
    exact congrArg (fun read => read.2.val) hread
  · rfl
  · rfl

theorem scanExponent_append (atEnd : JsonError) {exponent rest : List Char}
    (h : ExponentText exponent)
    (hrest : ∀ c, rest.head? = some c → c.isDigit = false ∧ c ∉ ['.', 'e', 'E']) :
    ∃ value, Leaves (scanExponent atEnd (exponent ++ rest)) value rest := by
  rcases h with rfl | ⟨letter, sign, digits, hletter, hsign, hdigits, rfl⟩
  · -- There is no exponent, and what follows does not start like one.
    refine ⟨none, Nat.le_refl _, ?_⟩
    cases rest with
    | nil => rfl
    | cons c rest =>
      have hc := (hrest c rfl).2
      simp only [List.mem_cons, List.not_mem_nil, or_false, not_or] at hc
      show scanExponent atEnd (c :: rest) = _
      rw [scanExponent, if_neg (by simp [hc])]
      rfl
  · have hscan : Leaves (scanDigits atEnd (exponentSign (sign ++ (digits ++ rest))).2.val) digits
        rest := by
      rw [exponentSign_append hsign hdigits]
      exact scanDigits_append atEnd hdigits fun c hc => (hrest c hc).1
    obtain ⟨shorter, hscan⟩ := hscan
    have hexponent : scanExponent atEnd (letter :: (sign ++ (digits ++ rest))) =
        .ok (some ((exponentSign (sign ++ (digits ++ rest))).1, digits),
          (Rest.behind (Upto.trans (exponentSign (sign ++ (digits ++ rest))).2
            (Rest.toUpto ⟨rest, shorter⟩))).toUpto) := by
      simp only [List.mem_cons, List.not_mem_nil, or_false] at hletter
      rw [scanExponent, if_pos (by simpa using hletter), hscan]
    rw [List.cons_append, List.append_assoc]
    exact ⟨_, _, hexponent⟩

/-- Behind the digits of a number comes its point, its exponent or what is behind it. -/
theorem head?_behind_whole {fraction exponent rest : List Char} (hfraction : FractionText fraction)
    (hexponent : ExponentText exponent) (hrest : Stops rest) :
    (∀ c, (exponent ++ rest).head? = some c → c.isDigit = false ∧ c ≠ '.') ∧
      ∀ c, (fraction ++ (exponent ++ rest)).head? = some c → c.isDigit = false := by
  have hbehind : ∀ c, (exponent ++ rest).head? = some c → c.isDigit = false ∧ c ≠ '.' := by
    intro c hc
    rcases hexponent with rfl | ⟨letter, sign, digits, hletter, -, -, rfl⟩
    · have hstop := hrest.not_number c hc
      exact ⟨hstop.1, fun h => hstop.2 (by simp [h])⟩
    · obtain rfl : letter = c := by simpa using hc
      simp only [List.mem_cons, List.not_mem_nil, or_false] at hletter
      rcases hletter with rfl | rfl <;> decide
  refine ⟨hbehind, fun c hc => ?_⟩
  rcases hfraction with rfl | ⟨digits, -, rfl⟩
  · exact (hbehind c hc).1
  · obtain rfl : '.' = c := by simpa using hc
    decide

theorem scanNumber_append (atEnd : JsonError) {whole fraction exponent rest : List Char}
    (hwhole : IsDigits whole) (hzero : whole.head? = some '0' → whole = ['0'])
    (hfraction : FractionText fraction) (hexponent : ExponentText exponent) (hrest : Stops rest) :
    ∃ n, Leaves (scanNumber atEnd (whole ++ (fraction ++ (exponent ++ rest)))) n rest := by
  obtain ⟨hbehind, hpoint⟩ := head?_behind_whole hfraction hexponent hrest
  obtain ⟨shorter, hscanWhole⟩ := scanDigits_append atEnd hwhole hpoint
  obtain ⟨digits, noLonger, hscanFraction⟩ := scanFraction_append atEnd hfraction hbehind
  obtain ⟨value, noLonger', hscanExponent⟩ := scanExponent_append atEnd hexponent hrest.not_number
  have hleading : ¬ (whole.head? == some '0' && whole.length != 1) = true := by
    simp only [Bool.and_eq_true, beq_iff_eq, bne_iff_ne, not_and, not_not]
    intro h
    rw [hzero h]
    rfl
  have hread : scanNumber atEnd (whole ++ (fraction ++ (exponent ++ rest))) =
      .ok (⟨whole, digits, value⟩, (Rest.thenUpto ⟨fraction ++ (exponent ++ rest), shorter⟩
        ⟨exponent ++ rest, noLonger⟩).thenUpto ⟨rest, noLonger'⟩) := by
    rw [scanNumber, hscanWhole]
    simp only [bind, Except.bind, if_neg hleading, hscanFraction, hscanExponent]
    rfl
  exact ⟨_, _, hread⟩

/-- A number is passed over, up to where none goes on. -/
theorem skipNumber_append {text rest : List Char} (h : IsNumber text) (hrest : Stops rest) :
    ∃ shorter, skipNumber (text ++ rest) = .ok ⟨rest, shorter⟩ := by
  obtain ⟨sign, whole, fraction, exponent, hsign, hwhole, hzero, hfraction, hexponent, rfl⟩ := h
  obtain ⟨n, shorter, hscan⟩ :=
    scanNumber_append .malformed hwhole hzero hfraction hexponent hrest
  simp only [List.mem_cons, List.not_mem_nil, or_false] at hsign
  have htext : sign ++ (whole ++ (fraction ++ exponent)) ++ rest =
      sign ++ (whole ++ (fraction ++ (exponent ++ rest))) := by simp
  rw [htext]
  rcases hsign with rfl | rfl
  · have hunsigned : ∀ cs, whole ++ (fraction ++ (exponent ++ rest)) = '-' :: cs → False := by
      intro cs h
      obtain ⟨c, digits, rfl⟩ := List.exists_cons_of_ne_nil hwhole.1
      have hc := hwhole.2 c List.mem_cons_self
      rw [(List.cons.inj h).1] at hc
      cases hc
    refine ⟨shorter, ?_⟩
    show skipNumber (whole ++ (fraction ++ (exponent ++ rest))) = _
    rw [skipNumber.eq_2 _ hunsigned, hscan]
    rfl
  · have hread : skipNumber ('-' :: (whole ++ (fraction ++ (exponent ++ rest)))) =
        .ok (.behind (Rest.toUpto ⟨rest, shorter⟩)) := by
      rw [skipNumber, hscan]
      rfl
    exact ⟨_, hread⟩

end ClassSynthesis.Json
