import ClassSynthesis.Host.Path
import Mathlib.Data.Set.List
import Mathlib.Data.String.Basic

/-!
# Paths Below a Directory

A path below a base has the components of the base and then those that its own segments stand
for (`components_join`). It leads below the base unless it leads upwards somewhere
(`below_join_iff`); and an absolute path is not joined to the base at all.
-/

namespace ClassSynthesis

/-! ## Pieces of a text -/

namespace Text

variable {separator : Char}

theorem pieces_separator_cons (cs : List Char) :
    pieces separator (separator :: cs) = [] :: pieces separator cs := by
  simp [pieces]

/-- A character that is no separator joins the first piece. -/
theorem pieces_cons_of_ne {c : Char} (h : c ≠ separator) {cs first : List Char}
    {rest : List (List Char)} (hpieces : pieces separator cs = first :: rest) :
    pieces separator (c :: cs) = (c :: first) :: rest := by
  rw [pieces, if_neg h, hpieces]

/-- A text is cut at each of its separators. -/
theorem pieces_append_cons (cs ds : List Char) :
    pieces separator (cs ++ separator :: ds) = pieces separator cs ++ pieces separator ds := by
  induction cs with
  | nil => exact pieces_separator_cons ds
  | cons c cs ih =>
    rw [List.cons_append]
    by_cases h : c = separator
    · subst h
      rw [pieces_separator_cons, pieces_separator_cons, ih, List.cons_append]
    · obtain ⟨first, rest, hpieces⟩ := List.exists_cons_of_ne_nil (pieces_ne_nil separator cs)
      rw [hpieces, List.cons_append] at ih
      rw [pieces_cons_of_ne h hpieces, pieces_cons_of_ne h ih, List.cons_append]

/-- A text without separators is its only piece. -/
theorem pieces_of_not_mem {cs : List Char} (h : separator ∉ cs) : pieces separator cs = [cs] := by
  induction cs with
  | nil => rfl
  | cons c cs ih =>
    rw [List.mem_cons, not_or] at h
    exact pieces_cons_of_ne (Ne.symm h.1) (ih h.2)

/-- A text without separators that comes last joins the last piece. -/
theorem exists_pieces_append {ds : List Char} (hds : separator ∉ ds) (cs : List Char) :
    ∃ front last, pieces separator cs = front ++ [last] ∧
      pieces separator (cs ++ ds) = front ++ [last ++ ds] := by
  induction cs with
  | nil => exact ⟨[], [], rfl, pieces_of_not_mem hds⟩
  | cons c cs ih =>
    obtain ⟨front, last, hcs, happend⟩ := ih
    rw [List.cons_append]
    by_cases h : c = separator
    · subst h
      refine ⟨[] :: front, last, ?_, ?_⟩
      · rw [pieces_separator_cons, hcs, List.cons_append]
      · rw [pieces_separator_cons, happend, List.cons_append]
    · cases front with
      | nil => exact ⟨[], c :: last, pieces_cons_of_ne h hcs, pieces_cons_of_ne h happend⟩
      | cons first front =>
        exact ⟨(c :: first) :: front, last, pieces_cons_of_ne h hcs, pieces_cons_of_ne h happend⟩

/-- A piece consists of characters of the text other than the separator. -/
theorem mem_of_mem_piece {cs piece : List Char} (h : piece ∈ pieces separator cs) {c : Char}
    (hc : c ∈ piece) : c ∈ cs ∧ c ≠ separator := by
  induction cs generalizing piece with
  | nil =>
    rw [pieces, List.mem_singleton] at h
    rw [h] at hc
    cases hc
  | cons d ds ih =>
    by_cases hd : d = separator
    · rw [hd, pieces_separator_cons] at h
      rcases List.mem_cons.1 h with rfl | hmem
      · cases hc
      · exact (ih hmem hc).imp_left (List.mem_cons_of_mem d)
    · obtain ⟨first, rest, hpieces⟩ := List.exists_cons_of_ne_nil (pieces_ne_nil separator ds)
      rw [pieces_cons_of_ne hd hpieces] at h
      rw [hpieces] at ih
      rcases List.mem_cons.1 h with rfl | hmem
      · -- The character is the one in front of the first piece or in that piece.
        rcases List.mem_cons.1 hc with rfl | hfirst
        · exact ⟨List.mem_cons_self, hd⟩
        · exact (ih List.mem_cons_self hfirst).imp_left (List.mem_cons_of_mem d)
      · exact (ih (List.mem_cons_of_mem first hmem) hc).imp_left (List.mem_cons_of_mem d)

/-- Replacing characters that are no separators by such keeps the cuts. -/
theorem pieces_map {f : Char → Char} (hf : ∀ c, f c = separator ↔ c = separator)
    (cs : List Char) : pieces separator (cs.map f) = (pieces separator cs).map (·.map f) := by
  induction cs with
  | nil => rfl
  | cons c cs ih =>
    rw [List.map_cons]
    by_cases h : c = separator
    · rw [(hf c).2 h, pieces_separator_cons, ih, h, pieces_separator_cons]
      rfl
    · obtain ⟨first, rest, hpieces⟩ := List.exists_cons_of_ne_nil (pieces_ne_nil separator cs)
      rw [hpieces] at ih
      rw [pieces_cons_of_ne h hpieces, pieces_cons_of_ne (mt (hf c).1 h) ih]
      rfl

end Text

/-! ## Components -/

namespace Path

/-- The components that the segments of a text stand for. -/
def segmentComponents (cs : List Char) : List Component :=
  (Text.pieces '/' cs).filterMap Component.ofSegment?

theorem segmentComponents_append (cs ds : List Char) :
    segmentComponents (cs ++ '/' :: ds) = segmentComponents cs ++ segmentComponents ds := by
  rw [segmentComponents, Text.pieces_append_cons, List.filterMap_append]
  rfl

theorem components_eq (path : String) :
    components path =
      (splitStart path.toList).1.toList ++ segmentComponents (splitStart path.toList).2 := rfl

/-- A path that does not start with the root or the current directory has no start. -/
theorem splitStart_of_ne {cs : List Char} (hroot : cs.head? ≠ some '/') (hdot : cs ≠ ['.'])
    (hcurrent : ¬ ['.', '/'] <+: cs) : splitStart cs = (none, cs) := by
  unfold splitStart
  split
  next => simp at hroot
  next => simp at hdot
  next => simp at hcurrent
  next => rfl

/-- A segment that follows has no part in how a path starts. -/
theorem splitStart_append {cs : List Char} (h : cs ≠ []) (ds : List Char) :
    splitStart (cs ++ '/' :: ds) = ((splitStart cs).1, (splitStart cs).2 ++ '/' :: ds) := by
  obtain ⟨c, rest, rfl⟩ := List.exists_cons_of_ne_nil h
  by_cases hroot : c = '/'
  · subst hroot
    rfl
  by_cases hdot : c = '.'
  · subst hdot
    cases rest with
    | nil => rfl
    | cons d rest =>
      by_cases hslash : d = '/'
      · subst hslash
        rfl
      · rw [splitStart_of_ne, splitStart_of_ne] <;> simp [Ne.symm hslash]
  · rw [splitStart_of_ne, splitStart_of_ne] <;> simp [hroot, hdot, Ne.symm hdot]

/-- The components of a path that goes on behind a slash. -/
private theorem components_of_toList {base path : String} (hbase : base ≠ "") {ds : List Char}
    (h : path.toList = base.toList ++ '/' :: ds) :
    components path = components base ++ segmentComponents ds := by
  have hne : base.toList ≠ [] := by simpa using hbase
  rw [components_eq, components_eq, h, splitStart_append hne, segmentComponents_append,
    List.append_assoc]

theorem isAbsolute_eq_false_iff {path : String} :
    isAbsolute path = false ↔ path.toList.head? ≠ some '/' := by
  simp [isAbsolute]

/-- A path below a base has the components of the base and those of its own segments. -/
theorem components_join {base path : String} (hbase : base ≠ "")
    (hpath : isAbsolute path = false) :
    components (join base path) = components base ++ segmentComponents path.toList := by
  rw [join, hpath, if_neg Bool.false_ne_true]
  by_cases hslash : base.toList.getLast? = some '/'
  · -- The base ends with the slash itself: both paths go on behind it.
    obtain ⟨cs, hcs⟩ := List.getLast?_eq_some_iff.1 hslash
    rw [if_pos (by simp [hslash])]
    by_cases hnil : cs = []
    · rw [components_eq, components_eq, String.toList_append, hcs, hnil]
      rfl
    · have hfront : String.ofList cs ≠ "" := by simpa using hnil
      have hsame : components base = components (String.ofList cs) ++ segmentComponents [] :=
        components_of_toList hfront (by simp [hcs])
      have hjoined : components (base ++ path) =
          components (String.ofList cs) ++ segmentComponents path.toList :=
        components_of_toList hfront (by simp [hcs])
      rw [hjoined, hsame, List.append_assoc]
      rfl
  · rw [if_neg (by simp [hbase, hslash])]
    exact components_of_toList hbase (by simp)

/-- A relative path has the components of its segments, behind the current directory if it
starts there. -/
theorem components_of_relative {path : String} (h : isAbsolute path = false) :
    components path =
      (splitStart path.toList).1.toList ++ segmentComponents path.toList := by
  rw [isAbsolute_eq_false_iff] at h
  rw [components_eq]
  congr 1
  by_cases hdot : path.toList = ['.']
  · rw [hdot]
    rfl
  by_cases hcurrent : ['.', '/'] <+: path.toList
  · obtain ⟨rest, hrest⟩ := hcurrent
    rw [← hrest]
    rfl
  · rw [splitStart_of_ne h hdot hcurrent]

/-! ## Leading below a base -/

/-- The path has the components of the base and behind them names only, at least one. -/
def Below (base path : String) : Prop :=
  ∃ names : List String, names ≠ [] ∧ components path = components base ++ names.map .name

/-- What leads below a base has no components besides those of the base and names. -/
theorem Below.mem_components {base path : String} (h : Below base path) {c : Component}
    (hc : c ∈ components path) : c ∈ components base ∨ ∃ text, c = .name text := by
  obtain ⟨names, -, hnames⟩ := h
  rw [hnames, List.mem_append, List.mem_map] at hc
  refine hc.imp_right ?_
  rintro ⟨text, -, rfl⟩
  exact ⟨text, rfl⟩

theorem ofSegment?_eq_parent_iff {segment : List Char} :
    Component.ofSegment? segment = some .parent ↔ segment = ['.', '.'] := by
  unfold Component.ofSegment?
  split <;> simp_all

/-- A segment is a name unless it is empty or consists of one or two dots. -/
theorem ofSegment?_eq_name_iff {segment : List Char} {text : String} :
    Component.ofSegment? segment = some (.name text) ↔
      segment = text.toList ∧ text ≠ "" ∧ text ≠ "." ∧ text ≠ ".." := by
  have hspecial : ∀ special : String, segment = special.toList →
      ¬ (segment = text.toList ∧ text ≠ special) := by
    rintro special hsegment ⟨htext, hne⟩
    exact hne (String.toList_inj.1 (htext.symm.trans hsegment))
  unfold Component.ofSegment?
  split
  next => exact iff_of_false nofun fun h => hspecial "" rfl ⟨h.1, h.2.1⟩
  next => exact iff_of_false nofun fun h => hspecial "." rfl ⟨h.1, h.2.2.1⟩
  next => exact iff_of_false nofun fun h => hspecial ".." rfl ⟨h.1, h.2.2.2⟩
  next hempty hdot hdots =>
    rw [Option.some.injEq, Component.name.injEq, String.ofList_eq]
    refine ⟨fun h => ⟨h, ?_, ?_, ?_⟩, And.left⟩
    · rintro rfl
      exact hempty h
    · rintro rfl
      exact hdot h
    · rintro rfl
      exact hdots h

/-- A segment of three characters or more is a name. -/
theorem ofSegment?_eq_name {segment : List Char} (h : 2 < segment.length) :
    Component.ofSegment? segment = some (.name (String.ofList segment)) := by
  unfold Component.ofSegment?
  split
  next => simp at h
  next => simp at h
  next => simp at h
  next => rfl

theorem parent_mem_segmentComponents_iff {cs : List Char} :
    Component.parent ∈ segmentComponents cs ↔ ['.', '.'] ∈ Text.pieces '/' cs := by
  simp [segmentComponents, ofSegment?_eq_parent_iff]

/-- A segment leads upwards or is a name. -/
theorem eq_parent_or_name_of_mem {cs : List Char} {c : Component}
    (h : c ∈ segmentComponents cs) : c = .parent ∨ ∃ text, c = .name text := by
  obtain ⟨segment, -, hsegment⟩ := List.mem_filterMap.1 h
  unfold Component.ofSegment? at hsegment
  split at hsegment
  next => simp at hsegment
  next => simp at hsegment
  next => exact Or.inl (Option.some.inj hsegment).symm
  next => exact Or.inr ⟨_, (Option.some.inj hsegment).symm⟩

/-- The segments of a text are names when none of them leads upwards. -/
theorem exists_map_name_iff {cs : List Char} (hne : segmentComponents cs ≠ []) :
    (∃ names : List String, names ≠ [] ∧ segmentComponents cs = names.map .name) ↔
      ['.', '.'] ∉ Text.pieces '/' cs := by
  rw [← parent_mem_segmentComponents_iff]
  constructor
  · rintro ⟨names, -, hnames⟩
    simp [hnames]
  · intro h
    have hrange : segmentComponents cs ∈ Set.range (List.map Component.name) := by
      rw [Set.range_list_map]
      intro c hc
      obtain rfl | ⟨text, rfl⟩ := eq_parent_or_name_of_mem hc
      · exact absurd hc h
      · exact ⟨text, rfl⟩
    obtain ⟨names, hnames⟩ := hrange
    refine ⟨names, ?_, hnames.symm⟩
    rintro rfl
    exact hne hnames.symm

/-- A path does not start with a name: a name is a segment. -/
theorem splitStart_ne_name (cs : List Char) (text : String) :
    (splitStart cs).1 ≠ some (.name text) := by
  unfold splitStart
  split <;> simp

/-- A relative path that means something leads below a base when none of its segments leads
upwards. If the base is empty, it must not start with the current directory either. -/
theorem below_join_iff {base path : String} (hpath : isAbsolute path = false)
    (hne : segmentComponents path.toList ≠ []) :
    Below base (join base path) ↔
      ['.', '.'] ∉ Text.pieces '/' path.toList ∧
        (base = "" → (splitStart path.toList).1 = none) := by
  rw [Below, ← exists_map_name_iff hne]
  by_cases hbase : base = ""
  · subst hbase
    have hjoin : join "" path = path := by simp [join, hpath]
    have hempty : components "" = [] := rfl
    rw [hjoin, hempty, components_of_relative hpath]
    cases hstart : (splitStart path.toList).1 with
    | none => simp
    | some start =>
      refine iff_of_false ?_ (by simp)
      rintro ⟨names, hnames, heq⟩
      obtain ⟨text, rest, rfl⟩ := List.exists_cons_of_ne_nil hnames
      have hname : start = .name text := (List.cons.inj heq).1
      exact splitStart_ne_name _ text (hstart.trans (congrArg some hname))
  · rw [components_join hbase hpath]
    simp [hbase]

end Path

end ClassSynthesis
