import ClassSynthesis.Proofs.Declaration.Characters

/-!
# Nesting

The braces of printed declarations nest, and the indentation follows them: as long as the strings
in the declarations have no braces and no line breaks, a line is indented by the number of braces
that are open before it, or by one less if it closes one (`Layout.print_nests`).

The lines are read one by one with the number of open blocks. A step of this reading is one line
(`Line.Steps`), and the lines of a node lead back to the number they start from
(`Node.runs_lines`). What the steps say of blocks holds of the braces in the text, because each
line has the braces that its step says (`Line.Steps.braces`).
-/

namespace ClassSynthesis

/-! ## Braces in a text -/

namespace Text

/-- The braces that are open behind a text. -/
def openBraces (text : String) : Nat := text.toList.count '\x7b' - text.toList.count '\x7d'

/-- Characters that lead from `outer` open braces to `inner` ones, closing no brace that is not
open. -/
structure Braces (outer : Nat) (cs : List Char) (inner : Nat) : Prop where
  closes : ∀ front, front <+: cs → front.count '\x7d' ≤ outer + front.count '\x7b'
  total : outer + cs.count '\x7b' = inner + cs.count '\x7d'

namespace Braces

variable {n m k : Nat} {first second : List Char}

theorem of_throughout {cs : List Char} (h : ∀ c ∈ cs, c ≠ '\x7b' ∧ c ≠ '\x7d') :
    Braces n cs n := by
  have hcount : ∀ front, front <+: cs → front.count '\x7b' = 0 ∧ front.count '\x7d' = 0 := by
    intro front hfront
    constructor <;> refine List.count_eq_zero.2 fun hmem => ?_
    · exact (h _ (hfront.subset hmem)).1 rfl
    · exact (h _ (hfront.subset hmem)).2 rfl
  constructor
  · intro front hfront
    rw [(hcount front hfront).2]
    exact Nat.zero_le _
  · rw [(hcount cs List.prefix_rfl).1, (hcount cs List.prefix_rfl).2]

theorem opening : Braces n ['\x7b'] (n + 1) where
  closes front hfront := by
    rcases List.prefix_cons_iff.1 hfront with rfl | ⟨rest, rfl, hrest⟩
    · simp
    · rw [List.prefix_nil.1 hrest]
      simp
  total := by simp

theorem closing : Braces (n + 1) ['\x7d'] n where
  closes front hfront := by
    rcases List.prefix_cons_iff.1 hfront with rfl | ⟨rest, rfl, hrest⟩
    · simp
    · rw [List.prefix_nil.1 hrest]
      simp
  total := by simp

theorem append (hfirst : Braces n first k) (hsecond : Braces k second m) :
    Braces n (first ++ second) m where
  closes front hfront := by
    -- What ends behind the first part is all of it with a front of the second part.
    rcases List.prefix_or_prefix_of_prefix hfront (List.prefix_append first second) with
      hfront' | ⟨rest, rfl⟩
    · exact hfirst.closes front hfront'
    · have hrest := hsecond.closes rest ((List.prefix_append_right_inj first).1 hfront)
      have htotal := hfirst.total
      simp only [List.count_append]
      omega
  total := by
    have hleft := hfirst.total
    have hright := hsecond.total
    simp only [List.count_append]
    omega

/-- The number of open braces, when all that are closed have been opened. -/
theorem openBraces_eq {text : String} (h : Braces 0 text.toList n) : openBraces text = n := by
  have htotal := h.total
  rw [openBraces]
  omega

end Braces

end Text

open Text

/-- A character that is no brace and no line break. -/
def IsPlain (c : Char) : Prop := c ≠ '\x7b' ∧ c ≠ '\x7d' ∧ c ≠ '\n' ∧ c ≠ '\r'

instance : DecidablePred IsPlain := fun _ => inferInstanceAs (Decidable (_ ∧ _))

theorem throughout_isPlain {text : String}
    (h : '\x7b' ∉ text.toList ∧ '\x7d' ∉ text.toList ∧ '\n' ∉ text.toList ∧ '\r' ∉ text.toList) :
    Throughout IsPlain text := by
  obtain ⟨hopening, hclosing, hfeed, hreturn⟩ := h
  rw [← throughout_ne_iff] at hopening hclosing hfeed hreturn
  exact fun c hc => ⟨hopening c hc, hclosing c hc, hfeed c hc, hreturn c hc⟩

theorem Text.Throughout.braces {text : String} (h : Throughout IsPlain text) (n : Nat) :
    Braces n text.toList n :=
  .of_throughout fun c hc => ⟨(h c hc).1, (h c hc).2.1⟩

/-- The text of a node closes the braces that it opens. -/
theorem Node.braces_ownText {node : Node} (h : ∀ text ∈ node.ownStrings, Throughout IsPlain text)
    (n : Nat) : Braces n node.ownText.toList n := by
  rcases Node.ownText_cases (by decide) h with hown |
    ⟨front, inner, back, htext, hfront, hinner, hback⟩
  · exact hown.braces n
  · -- The accessors of a property stand in the one pair of braces that a line can have.
    have hopen := (hfront.braces n).append .opening
    have hclose := (hopen.append (hinner.braces (n + 1))).append .closing
    rw [htext]
    simpa using hclose.append (hback.braces n)

/-! ## Lines that follow each other -/

namespace Line

/-- A line that stands where `outer` blocks are open and leaves `inner` ones open. -/
inductive Steps : Nat → Line → Nat → Prop
  | own (n : Nat) (node : Node) : Steps n ⟨node.indentedAt n, .own node⟩ n
  | opening (n : Nat) : Steps n ⟨n, .opening⟩ (n + 1)
  | closing (n : Nat) : Steps (n + 1) ⟨n, .closing⟩ n

/-- Lines that follow each other. -/
inductive Runs : Nat → List Line → Nat → Prop
  | nil (n : Nat) : Runs n [] n
  | cons {n k m : Nat} {l : Line} {rest : List Line} (step : Steps n l k) (more : Runs k rest m) :
    Runs n (l :: rest) m

variable {n m k : Nat} {l : Line} {first second lines : List Line} {layout : Layout}

theorem Runs.append (hfirst : Runs n first k) (hsecond : Runs k second m) :
    Runs n (first ++ second) m := by
  induction hfirst with
  | nil n => exact hsecond
  | cons step _ ih => exact .cons step (ih hsecond)

theorem Runs.exists_of_append (h : Runs n (first ++ second) m) :
    ∃ k, Runs n first k ∧ Runs k second m := by
  induction first generalizing n with
  | nil => exact ⟨n, .nil n, h⟩
  | cons l rest ih =>
    cases h with
    | cons step more =>
      obtain ⟨k, hrest, hsecond⟩ := ih more
      exact ⟨k, .cons step hrest, hsecond⟩

/-- A line leads on as what stands on it does: an indentation and a line end have no braces. -/
theorem braces_print (h : Braces n l.part.text.toList k) :
    Braces n (l.print layout).toList k := by
  -- An indentation is made of tabs or of spaces.
  have hfront : Throughout (fun c => c ≠ '\x7b' ∧ c ≠ '\x7d')
      (String.join (List.replicate l.depth layout.indent.unit)) :=
    Indent.throughout_levels (by decide) (by decide)
  have hback : Throughout (fun c => c ≠ '\x7b' ∧ c ≠ '\x7d') layout.lineEnding.text := by
    cases layout.lineEnding <;> decide
  rw [print, text, String.toList_append, String.toList_append]
  exact ((Braces.of_throughout hfront).append h).append (.of_throughout hback)

/-- The braces of a line are those that its step says. -/
theorem Steps.braces (h : Steps n l k)
    (hplain : ∀ node, l.part.node? = some node →
      ∀ text ∈ node.ownStrings, Throughout IsPlain text) :
    Braces n (l.print layout).toList k := by
  cases h with
  | own n node => exact braces_print (node.braces_ownText (hplain node rfl) n)
  | opening n =>
    refine braces_print ?_
    simpa [LinePart.text] using Braces.opening (n := n)
  | closing n =>
    refine braces_print ?_
    simpa [LinePart.text] using Braces.closing (n := k)

/-- The braces of lines that follow each other lead from the blocks open before them to those
open behind them. -/
theorem Runs.braces (h : Runs n lines m)
    (hplain : ∀ node ∈ lines.filterMap (·.part.node?),
      ∀ text ∈ node.ownStrings, Throughout IsPlain text) :
    Braces n (String.join (lines.map (·.print layout))).toList m := by
  induction h with
  | nil n => exact .of_throughout (by simp)
  | @cons n k m l rest step more ih =>
    have hfirst : Braces n (l.print layout).toList k := step.braces fun node hnode =>
      hplain node (List.mem_filterMap.2 ⟨l, List.mem_cons_self, hnode⟩)
    have hrest := ih fun node hnode =>
      hplain node (((List.sublist_cons_self l rest).filterMap _).subset hnode)
    rw [List.map_cons, String.join_cons, String.toList_append]
    exact hfirst.append hrest

end Line

namespace Node

/-- If the lines of each of some nodes lead back to the number of open blocks that they start from,
so do the lines of their sequence. -/
theorem runs_linesAll_of_forall {nodes : List Node} {depth : Nat}
    (h : ∀ child ∈ nodes, Line.Runs depth (child.lines depth) depth) :
    Line.Runs depth (linesAll depth nodes) depth := by
  induction nodes with
  | nil =>
    rw [linesAll]
    exact .nil depth
  | cons node rest ih =>
    obtain ⟨hnode, hrest⟩ := List.forall_mem_cons.1 h
    rw [linesAll]
    exact hnode.append (ih hrest)

/-- The lines of a node leave as many blocks open as there are before it. -/
theorem runs_lines (node : Node) (depth : Nat) : Line.Runs depth (node.lines depth) depth := by
  induction node using Node.induction generalizing depth with
  | leaf node h =>
    rw [lines_of_leaf h]
    exact .cons (.own depth node) (.nil depth)
  | block node body h ih =>
    -- A node with a block is not blank, so its header is indented.
    have hdepth : node.indentedAt depth = depth := by
      cases node with
      | blank => cases h
      | _ => rfl
    have hheader := Line.Steps.own depth node
    rw [hdepth] at hheader
    have hinner : Line.Runs (depth + 1) (linesAll (depth + 1) body) (depth + 1) :=
      runs_linesAll_of_forall fun child hchild => ih child hchild (depth + 1)
    rw [lines_of_block h, Line.block]
    -- Header, opening brace, the lines one level deeper, closing brace.
    exact .cons hheader (.cons (.opening depth)
      (hinner.append (.cons (.closing depth) (.nil depth))))

theorem runs_linesAll (nodes : List Node) (depth : Nat) :
    Line.Runs depth (linesAll depth nodes) depth :=
  runs_linesAll_of_forall fun child _ => child.runs_lines depth

end Node

namespace Line

/-- A line that is its node's own text or a lone brace, behind one unit of indentation for each
brace that is open before it, or one less if it closes a block. The line of a blank node is
empty. -/
def FollowsBraces (l : Line) (layout : Layout) (opened : Nat) : Prop :=
  match l.part with
  | .own .blank => l.text layout = ""
  | .own node =>
    l.text layout = String.join (List.replicate opened layout.indent.unit) ++ node.ownText
  | .opening => l.text layout = String.join (List.replicate opened layout.indent.unit) ++ "\x7b"
  | .closing => ∃ outer, opened = outer + 1 ∧
      l.text layout = String.join (List.replicate outer layout.indent.unit) ++ "\x7d"

theorem Steps.followsBraces {n k : Nat} {l : Line} {layout : Layout} (h : Steps n l k) :
    l.FollowsBraces layout n := by
  cases h with
  | own n node =>
    cases node with
    | blank => simp [FollowsBraces, text, LinePart.text, Node.indentedAt, Node.ownText]
    | _ => rfl
  | opening n => rfl
  | closing n => exact ⟨k, rfl, rfl⟩

/-- Lines that follow each other are indented by the braces that are open before them. -/
theorem Runs.followsBraces {before after : List Line} {l : Line} {m : Nat} {layout : Layout}
    (h : Runs 0 (before ++ l :: after) m)
    (hplain : ∀ node ∈ (before ++ l :: after).filterMap (·.part.node?),
      ∀ text ∈ node.ownStrings, Throughout IsPlain text) :
    l.FollowsBraces layout (openBraces (String.join (before.map (·.print layout)))) := by
  obtain ⟨n, hbefore, hrest⟩ := h.exists_of_append
  rw [List.filterMap_append, List.forall_mem_append] at hplain
  have hopen : openBraces (String.join (before.map (·.print layout))) = n :=
    (hbefore.braces hplain.1).openBraces_eq
  rw [hopen]
  -- So the step of this line starts from as many blocks as there are open braces.
  cases hrest with
  | cons step more => exact step.followsBraces

end Line

/-- The printed text of some nodes has the structure of their blocks. -/
structure Layout.PrintsNested (layout : Layout) (nodes : List Node) : Prop where
  /-- Every line ends in the terminator. -/
  terminated : layout.print nodes = String.join ((Node.linesAll 0 nodes).map fun l =>
    l.text layout ++ layout.lineEnding.text)
  /-- No line has a terminator in it. -/
  unbroken : ∀ l ∈ Node.linesAll 0 nodes, ∀ c ∈ (l.text layout).toList, c ≠ '\n' ∧ c ≠ '\r'
  /-- Apart from lone braces, the lines are those of the nodes, in order. -/
  complete : (Node.linesAll 0 nodes).filterMap (·.part.node?) = Node.withinAll nodes
  /-- No front of the text closes more braces than it opens. -/
  opened : ∀ front, front <+: (layout.print nodes).toList →
    front.count '\x7d' ≤ front.count '\x7b'
  /-- The text closes all braces that it opens. -/
  closed : (layout.print nodes).toList.count '\x7b' = (layout.print nodes).toList.count '\x7d'
  /-- The indentation of every line follows the braces that are open before it. -/
  indented : ∀ before l after, Node.linesAll 0 nodes = before ++ l :: after →
    l.FollowsBraces layout (openBraces (String.join (before.map fun l =>
      l.text layout ++ layout.lineEnding.text)))
  /-- The text of the nodes is the text of the first one, then that of the second one, and so
  on. -/
  concatenated : layout.print nodes = String.join (nodes.map fun node => layout.print [node])

/-- If the strings of some nodes have no braces and no line breaks, the printed text is nested as
the blocks of the nodes are, under every layout. -/
theorem Layout.print_nests (layout : Layout) (nodes : List Node)
    (h : ∀ text ∈ Node.strings nodes,
      '\x7b' ∉ text.toList ∧ '\x7d' ∉ text.toList ∧ '\n' ∉ text.toList ∧ '\r' ∉ text.toList) :
    layout.PrintsNested nodes := by
  have hplain : ∀ text ∈ Node.strings nodes, Throughout IsPlain text :=
    fun text htext => throughout_isPlain (h text htext)
  have hlines : layout.print nodes =
      String.join ((Node.linesAll 0 nodes).map (·.print layout)) :=
    Node.printAll_eq_join_linesAll nodes 0
  have hruns := Node.runs_linesAll nodes 0
  have hshown := Node.filterMap_node?_linesAll nodes 0
  have hown : ∀ node ∈ (Node.linesAll 0 nodes).filterMap (·.part.node?),
      ∀ text ∈ node.ownStrings, Throughout IsPlain text := by
    rw [hshown]
    exact fun node hnode text htext => hplain text (Node.mem_strings_of_mem hnode htext)
  have hbraces : Braces 0 (layout.print nodes).toList 0 := by
    rw [hlines]
    exact hruns.braces hown
  exact
    { terminated := hlines
      unbroken := fun l hl => Node.throughout_line (by decide) (by decide) (by decide) (by decide)
        (fun text htext c hc => (hplain text htext c hc).2.2) hl
      complete := hshown
      opened := fun front hfront => by simpa using hbraces.closes front hfront
      closed := by simpa using hbraces.total
      indented := fun before l after hsplit => by
        rw [hsplit] at hruns hown
        exact hruns.followsBraces hown
      concatenated := by
        rw [Layout.print, Node.printAll_eq_join]
        refine congrArg String.join (List.map_congr_left fun node _ => ?_)
        rw [Layout.print, Node.printAll_eq_join, List.map_singleton]
        simp }

/-- A namespace with a class in it, that has a property and a constructor with a statement. -/
def Node.stall : List Node :=
  [.comment "stalls", .blank,
    .scope "Shop"
      [.type ["public", "partial"] "class" "Stall" ["IStall"]
        [.property ["public"] "int" none "Size" [⟨.get, none⟩] none, .blank,
          .constructor ["public"] "Stall" [⟨"int", "size"⟩]
            [.statement (.assign (.thisMember "Size") (.identifier "size"))]]]]

theorem Layout.print_nests_stall :
    (∀ text ∈ Node.strings Node.stall,
      '\x7b' ∉ text.toList ∧ '\x7d' ∉ text.toList ∧ '\n' ∉ text.toList ∧ '\r' ∉ text.toList) ∧
    (Layout.mk (.spaces 4) .carriageReturnLineFeed).PrintsNested Node.stall :=
  ⟨by decide, Layout.print_nests _ _ (by decide)⟩

example : (Layout.mk (.spaces 2) .lineFeed).print Node.stall =
    "// stalls\n\nnamespace Shop\n\x7b\n  public partial class Stall : IStall\n  \x7b\n" ++
    "    public int Size \x7b get; \x7d\n\n    public Stall(int size)\n    \x7b\n" ++
    "      this.Size = size;\n    \x7d\n  \x7d\n\x7d\n" := by
  decide +kernel

end ClassSynthesis
