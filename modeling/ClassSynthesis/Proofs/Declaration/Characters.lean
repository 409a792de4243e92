import ClassSynthesis.Proofs.Declaration.Lines

/-!
# The Characters of a Line

The text of a node is put together from the strings in the node and from a few fixed texts, with
a pair of braces around the accessors of a property. So a property of characters that the strings
and the fixed texts have throughout is one of the whole text, up to that pair
(`Node.ownText_cases`).
-/

namespace ClassSynthesis

/-! ## Properties of all characters -/

namespace Text

/-- All characters of a text have a property. -/
def Throughout (p : Char → Prop) (text : String) : Prop := ∀ c ∈ text.toList, p c

variable {p : Char → Prop} {first second : String} {texts : List String}

-- The instance is named because there is also one that goes through all characters there are.
instance [DecidablePred p] (text : String) : Decidable (Throughout p text) :=
  List.decidableBAll p text.toList

theorem throughout_ne_iff {c : Char} {text : String} :
    Throughout (· ≠ c) text ↔ c ∉ text.toList :=
  ⟨fun h hc => h c hc rfl, fun h _ hd heq => h (heq ▸ hd)⟩

theorem throughout_append :
    Throughout p (first ++ second) ↔ Throughout p first ∧ Throughout p second := by
  rw [Throughout, String.toList_append]
  exact List.forall_mem_append

theorem throughout_empty : Throughout p "" := by
  simp [Throughout]

theorem throughout_join (h : ∀ text ∈ texts, Throughout p text) :
    Throughout p (String.join texts) := by
  rw [Throughout, String.toList_join]
  exact List.forall_mem_flatMap.2 h

theorem throughout_intercalate (hfirst : Throughout p first)
    (h : ∀ text ∈ texts, Throughout p text) : Throughout p (first.intercalate texts) := by
  induction texts with
  | nil =>
    rw [String.intercalate_nil]
    exact throughout_empty
  | cons text rest ih =>
    obtain ⟨htext, hrest⟩ := List.forall_mem_cons.1 h
    cases rest with
    | nil => rwa [String.intercalate_singleton]
    | cons next more =>
      rw [String.intercalate_cons_cons, throughout_append, throughout_append]
      exact ⟨⟨htext, hfirst⟩, ih hrest⟩

end Text

open Text

/-- What holds of tabs and of spaces holds of all characters of an indentation. -/
theorem Indent.throughout_levels {p : Char → Prop} (htab : p '\t') (hspace : p ' ')
    {indent : Indent} {depth : Nat} :
    Throughout p (String.join (List.replicate depth indent.unit)) := by
  refine throughout_join fun text htext => ?_
  rw [List.eq_of_mem_replicate htext]
  cases indent with
  | tabs => simpa [unit, Throughout] using htab
  | spaces width => simp [unit, Throughout, hspace]

/-! ## The strings of a node -/

/-- The strings in an expression. -/
def Expression.strings : Expression → List String
  | identifier name => [name]
  | thisMember name => [name]
  | newInstance type => [type]
  | assign target value => target.strings ++ value.strings

/-- The strings in an accessor. -/
def Accessor.strings (a : Accessor) : List String := a.body.toList.flatMap Expression.strings

namespace Node

/-- The strings of a node itself, without those of the nodes in it. -/
def ownStrings : Node → List String
  | comment text => [text]
  | directive text => [text]
  | blank => []
  | scope name _ => [name]
  | type modifiers keyword name bases _ => modifiers ++ [keyword, name] ++ bases
  | field modifiers declared name value =>
    modifiers ++ [declared, name] ++ value.toList.flatMap Expression.strings
  | property modifiers declared contract name accessors value =>
    modifiers ++ [declared, name] ++ contract.toList ++ accessors.flatMap Accessor.strings ++
      value.toList.flatMap Expression.strings
  | constructor modifiers name parameters _ =>
    modifiers ++ [name] ++ parameters.flatMap fun parameter => [parameter.type, parameter.name]
  | statement expression => expression.strings

/-- The strings of some nodes and of the nodes in them. -/
def strings (nodes : List Node) : List String := (withinAll nodes).flatMap ownStrings

/-- What is written between the strings of a node, apart from braces. -/
def fixedTexts : List String :=
  ["", "// ", "#", "namespace ", " ", ".", " : ", ", ", "(", ")", "get", "set", "init", " => ",
    " = ", ";", "this.", "new ", "()"]

section

variable {p : Char → Prop} (hfixed : ∀ text ∈ fixedTexts, Throughout p text)

include hfixed

theorem throughout_expression {e : Expression} (h : ∀ text ∈ e.strings, Throughout p text) :
    Throughout p e.text := by
  induction e with
  | identifier name => exact h name List.mem_cons_self
  | thisMember name =>
    have hname := h name List.mem_cons_self
    exact throughout_append.2 ⟨hfixed "this." (by decide), hname⟩
  | newInstance type =>
    have hnew := throughout_append.2 ⟨hfixed "new " (by decide), h type List.mem_cons_self⟩
    exact throughout_append.2 ⟨hnew, hfixed "()" (by decide)⟩
  | assign target value htarget hvalue =>
    obtain ⟨hleft, hright⟩ := List.forall_mem_append.1 h
    have hequals := throughout_append.2 ⟨htarget hleft, hfixed " = " (by decide)⟩
    exact throughout_append.2 ⟨hequals, hvalue hright⟩

theorem throughout_accessor {a : Accessor} (h : ∀ text ∈ a.strings, Throughout p text) :
    Throughout p a.text := by
  have hkeyword : Throughout p a.kind.keyword := by
    cases a.kind <;> exact hfixed _ (by decide)
  have hend := hfixed ";" (by decide)
  rw [Accessor.text]
  cases hbody : a.body with
  | none => exact throughout_append.2 ⟨hkeyword, hend⟩
  | some body =>
    have htext : Throughout p body.text :=
      throughout_expression hfixed (by simpa [Accessor.strings, hbody] using h)
    have harrow := hfixed " => " (by decide)
    simp [throughout_append, hkeyword, harrow, htext, hend]

theorem throughout_modifierText {modifiers : List String}
    (h : ∀ text ∈ modifiers, Throughout p text) : Throughout p (modifierText modifiers) := by
  refine throughout_join (List.forall_mem_map.2 fun text htext => ?_)
  exact throughout_append.2 ⟨h text htext, hfixed " " (by decide)⟩

theorem throughout_initialText {value : Option Expression}
    (h : ∀ text ∈ value.toList.flatMap Expression.strings, Throughout p text) :
    Throughout p (initialText value) := by
  cases value with
  | none => exact hfixed "" (by decide)
  | some e =>
    have htext : Throughout p e.text := throughout_expression hfixed (by simpa using h)
    exact throughout_append.2 ⟨hfixed " = " (by decide), htext⟩

theorem throughout_typeHeader {modifiers bases : List String} {keyword name : String}
    (h : ∀ text ∈ modifiers ++ [keyword, name] ++ bases, Throughout p text) :
    Throughout p (typeHeader modifiers keyword name bases) := by
  simp only [List.forall_mem_append, List.forall_mem_cons] at h
  obtain ⟨⟨hmodifiers, hkeyword, hname, -⟩, hbases⟩ := h
  have hfront := throughout_modifierText hfixed hmodifiers
  have hspace := hfixed " " (by decide)
  have hlist : Throughout p (if bases.isEmpty then "" else " : " ++ ", ".intercalate bases) := by
    split
    · exact throughout_empty
    · have hcommas := throughout_intercalate (hfixed ", " (by decide)) hbases
      exact throughout_append.2 ⟨hfixed " : " (by decide), hcommas⟩
  simp only [typeHeader, throughout_append, hfront, hkeyword, hspace, hname, hlist, and_self]

theorem throughout_constructorHeader {modifiers : List String} {name : String}
    {parameters : List Parameter}
    (h : ∀ text ∈ modifiers ++ [name] ++ parameters.flatMap fun q => [q.type, q.name],
      Throughout p text) :
    Throughout p (constructorHeader modifiers name parameters) := by
  simp only [List.forall_mem_append, List.forall_mem_cons, List.forall_mem_flatMap] at h
  obtain ⟨⟨hmodifiers, hname, -⟩, hparameters⟩ := h
  have hfront := throughout_modifierText hfixed hmodifiers
  have hopen := hfixed "(" (by decide)
  have hclose := hfixed ")" (by decide)
  have hlist : Throughout p (", ".intercalate (parameters.map Parameter.text)) := by
    refine throughout_intercalate (hfixed _ (by decide)) (List.forall_mem_map.2 fun q hq => ?_)
    obtain ⟨htype, hname, -⟩ := hparameters q hq
    simp only [Parameter.text, throughout_append, htype, hfixed " " (by decide), hname, and_self]
  simp only [constructorHeader, throughout_append, hfront, hname, hopen, hlist, hclose, and_self]

theorem throughout_fieldText {modifiers : List String} {declared name : String}
    {value : Option Expression}
    (h : ∀ text ∈ modifiers ++ [declared, name] ++ value.toList.flatMap Expression.strings,
      Throughout p text) :
    Throughout p (fieldText modifiers declared name value) := by
  rw [List.forall_mem_append, List.forall_mem_append] at h
  obtain ⟨⟨hmodifiers, hnames⟩, hvalue⟩ := h
  obtain ⟨hdeclared, hname, -⟩ := by simpa only [List.forall_mem_cons] using hnames
  have hfront := throughout_modifierText hfixed hmodifiers
  have hspace := hfixed " " (by decide)
  have hinitial := throughout_initialText hfixed hvalue
  have hend := hfixed ";" (by decide)
  simp only [fieldText, throughout_append, hfront, hdeclared, hspace, hname, hinitial, hend,
    and_self]

/-- The accessors of a property stand in a pair of braces. -/
theorem exists_propertyText_eq {modifiers : List String} {declared name : String}
    {contract : Option String} {accessors : List Accessor} {value : Option Expression}
    (h : ∀ text ∈ (property modifiers declared contract name accessors value).ownStrings,
      Throughout p text) :
    ∃ front inner back, propertyText modifiers declared contract name accessors value =
        front ++ "\x7b" ++ inner ++ "\x7d" ++ back ∧
      Throughout p front ∧ Throughout p inner ∧ Throughout p back := by
  rw [ownStrings, List.forall_mem_append, List.forall_mem_append, List.forall_mem_append,
    List.forall_mem_append] at h
  obtain ⟨⟨⟨⟨hmodifiers, hnames⟩, hcontract⟩, haccessors⟩, hvalue⟩ := h
  obtain ⟨hdeclared, hname, -⟩ := by simpa only [List.forall_mem_cons] using hnames
  have hfront := throughout_modifierText hfixed hmodifiers
  have hspace := hfixed " " (by decide)
  have hqualifier : Throughout p ((contract.map (· ++ ".")).getD "") := by
    cases contract with
    | none => exact throughout_empty
    | some contract =>
      exact throughout_append.2 ⟨hcontract contract (by simp), hfixed "." (by decide)⟩
  have hlist : Throughout p (String.join (accessors.map (" " ++ ·.text))) := by
    refine throughout_join (List.forall_mem_map.2 fun a ha => ?_)
    have htext := throughout_accessor hfixed (List.forall_mem_flatMap.1 haccessors a ha)
    exact throughout_append.2 ⟨hspace, htext⟩
  have hend : Throughout p (if value.isSome then initialText value ++ ";" else "") := by
    split
    · have hinitial := throughout_initialText hfixed hvalue
      exact throughout_append.2 ⟨hinitial, hfixed ";" (by decide)⟩
    · exact throughout_empty
  -- The braces of the accessors are the only ones, so the text is cut at them.
  have hopening : " \x7b" = " " ++ "\x7b" := by decide
  have hclosing : " \x7d" = " " ++ "\x7d" := by decide
  refine ⟨modifierText modifiers ++ declared ++ " " ++ (contract.map (· ++ ".")).getD "" ++ name ++
      " ", String.join (accessors.map (" " ++ ·.text)) ++ " ",
    if value.isSome then initialText value ++ ";" else "", ?_, ?_, ?_, hend⟩
  · cases contract <;>
      simp only [propertyText, hopening, hclosing, String.append_assoc, Option.map_none,
        Option.map_some, Option.getD_none, Option.getD_some]
  · simp only [throughout_append, hfront, hdeclared, hspace, hqualifier, hname, and_self]
  · exact throughout_append.2 ⟨hlist, hspace⟩

/-- What the strings of a node and the fixed texts have throughout, the text of the node has, but
for the pair of braces in the text of a property. -/
theorem ownText_cases {node : Node} (h : ∀ text ∈ node.ownStrings, Throughout p text) :
    Throughout p node.ownText ∨
      ∃ front inner back, node.ownText = front ++ "\x7b" ++ inner ++ "\x7d" ++ back ∧
        Throughout p front ∧ Throughout p inner ∧ Throughout p back := by
  cases node with
  | comment text =>
    exact .inl (throughout_append.2 ⟨hfixed "// " (by decide), h text List.mem_cons_self⟩)
  | directive text =>
    exact .inl (throughout_append.2 ⟨hfixed "#" (by decide), h text List.mem_cons_self⟩)
  | blank => exact .inl throughout_empty
  | scope name body =>
    exact .inl (throughout_append.2 ⟨hfixed "namespace " (by decide), h name List.mem_cons_self⟩)
  | type modifiers keyword name bases body => exact .inl (throughout_typeHeader hfixed h)
  | field modifiers declared name value => exact .inl (throughout_fieldText hfixed h)
  | property modifiers declared contract name accessors value =>
    exact .inr (exists_propertyText_eq hfixed h)
  | constructor modifiers name parameters body =>
    exact .inl (throughout_constructorHeader hfixed h)
  | statement expression =>
    exact .inl (throughout_append.2 ⟨throughout_expression hfixed h, hfixed ";" (by decide)⟩)

end

/-- The strings of a node in a sequence are among those of the sequence. -/
theorem mem_strings_of_mem {nodes : List Node} {node : Node} {text : String}
    (hnode : node ∈ withinAll nodes) (htext : text ∈ node.ownStrings) : text ∈ strings nodes :=
  List.mem_flatMap.2 ⟨node, hnode, htext⟩

/-- A node with a line of its own is one of those in the sequence. -/
theorem mem_withinAll_of_mem_linesAll {nodes : List Node} {depth : Nat} {l : Line} {node : Node}
    (hl : l ∈ linesAll depth nodes) (hpart : l.part = .own node) : node ∈ withinAll nodes := by
  rw [← filterMap_node?_linesAll nodes depth]
  exact List.mem_filterMap.2 ⟨l, hl, by rw [hpart]; rfl⟩

section

variable {p : Char → Prop} (hfixed : ∀ text ∈ fixedTexts, Throughout p text)
  (hopening : p '\x7b') (hclosing : p '\x7d')

include hfixed hopening hclosing

/-- What holds of braces too, and of all characters in the strings and the fixed texts, holds of
all characters in the text of a node. -/
theorem throughout_ownText {node : Node} (h : ∀ text ∈ node.ownStrings, Throughout p text) :
    Throughout p node.ownText := by
  rcases ownText_cases hfixed h with hown | ⟨front, inner, back, htext, hfront, hinner, hback⟩
  · exact hown
  · have hleft : Throughout p "\x7b" := by simpa [Throughout] using hopening
    have hright : Throughout p "\x7d" := by simpa [Throughout] using hclosing
    simp only [htext, throughout_append, hfront, hleft, hinner, hright, hback, and_self]

/-- It holds of all characters in a line as soon as it holds of tabs. -/
theorem throughout_line (htab : p '\t') {nodes : List Node} {depth : Nat} {layout : Layout}
    (h : ∀ text ∈ strings nodes, Throughout p text) {l : Line} (hl : l ∈ linesAll depth nodes) :
    Throughout p (l.text layout) := by
  have hspace : p ' ' := hfixed " " (by decide) ' ' (by decide)
  refine throughout_append.2 ⟨Indent.throughout_levels htab hspace, ?_⟩
  cases hpart : l.part with
  | own node =>
    have hnode := mem_withinAll_of_mem_linesAll hl hpart
    exact throughout_ownText hfixed hopening hclosing fun text htext =>
      h text (mem_strings_of_mem hnode htext)
  | opening => simpa [LinePart.text, Throughout] using hopening
  | closing => simpa [LinePart.text, Throughout] using hclosing

end

end Node

end ClassSynthesis
