import ClassSynthesis.Proofs.Declaration.Characters

/-!
# What a Layout Changes

A layout decides on nothing but the unit of indentation and the terminator
(`Layout.print_by_lines`): under every layout the same lines are printed. So one kind of line end is
turned into the other by an exchange of the terminators, as long as there is no line feed in the
strings of the nodes, and the header comment of a file is a line in front of the others.
-/

namespace ClassSynthesis

namespace Text

/-- The text with a carriage return and a line feed for every line feed. -/
def withCarriageReturns (text : String) : String :=
  String.ofList (text.toList.flatMap fun c => if c = '\n' then ['\r', '\n'] else [c])

theorem withCarriageReturns_append (first second : String) :
    withCarriageReturns (first ++ second) =
      withCarriageReturns first ++ withCarriageReturns second := by
  simp [withCarriageReturns, String.ofList_append]

theorem withCarriageReturns_join (texts : List String) :
    withCarriageReturns (String.join texts) = String.join (texts.map withCarriageReturns) := by
  induction texts with
  | nil => rfl
  | cons text rest ih =>
    rw [String.join_cons, withCarriageReturns_append, ih, List.map_cons, String.join_cons]

/-- A text without line feeds stays as it is. -/
theorem withCarriageReturns_of_throughout {text : String} (h : Throughout (· ≠ '\n') text) :
    withCarriageReturns text = text := by
  have hsame : (text.toList.flatMap fun c => if c = '\n' then ['\r', '\n'] else [c]) =
      text.toList.flatMap fun c => [c] :=
    List.flatMap_congr fun c hc => if_neg (h c hc)
  rw [withCarriageReturns, hsame, List.flatMap_singleton', String.ofList_toList]

end Text

namespace Node

/-- The lines of blank nodes are empty. -/
theorem depth_of_mem_lines {node : Node} {depth : Nat} {l : Line} (hl : l ∈ node.lines depth)
    (hpart : l.part = .own blank) : l.depth = 0 := by
  induction node using Node.induction generalizing depth with
  | leaf node h =>
    rw [lines_of_leaf h, List.mem_singleton] at hl
    subst hl
    cases hpart
    rfl
  | block node body h ih =>
    rw [lines_of_block h, Line.block, List.mem_cons, List.mem_cons, List.mem_append,
      List.mem_singleton] at hl
    rcases hl with rfl | rfl | hinner | rfl
    · cases hpart
      cases h
    · cases hpart
    · rw [linesAll_eq_flatMap] at hinner
      obtain ⟨child, hchild, hl⟩ := List.mem_flatMap.1 hinner
      exact ih child hchild hl
    · cases hpart

end Node

/-- The terminators of a line are exchanged when there is no line feed in it. -/
theorem Line.print_carriageReturnLineFeed {l : Line} {layout : Layout}
    (h : Text.Throughout (· ≠ '\n') (l.text layout)) :
    l.print { layout with lineEnding := .carriageReturnLineFeed } =
      Text.withCarriageReturns (l.print { layout with lineEnding := .lineFeed }) := by
  have hend : Text.withCarriageReturns "\n" = "\r\n" := by decide
  show l.text layout ++ "\r\n" = Text.withCarriageReturns (l.text layout ++ "\n")
  rw [Text.withCarriageReturns_append, Text.withCarriageReturns_of_throughout h, hend]

/-- Nodes are printed as the same lines under every layout: each line is indented by as many units
as its depth says and ends in the terminator. Every node has one line of its own, in order, and
that of a blank node is empty and not indented. So, if the strings of the nodes are free of line
feeds, exchanging the terminators turns one kind of text into the other. The header comment of
a file is one line in front of the file without it. -/
theorem Layout.print_by_lines :
    (∀ (nodes : List Node) (layout : Layout),
      layout.print nodes =
        String.join ((Node.linesAll 0 nodes).map fun l =>
          String.join (List.replicate l.depth layout.indent.unit) ++ l.part.text ++
            layout.lineEnding.text)) ∧
    (∀ nodes : List Node,
      (Node.linesAll 0 nodes).filterMap (·.part.node?) = Node.withinAll nodes ∧
      ∀ l ∈ Node.linesAll 0 nodes, l.part = .own .blank → l.depth = 0 ∧ l.part.text = "") ∧
    (∀ (nodes : List Node) (layout : Layout),
      (∀ text ∈ Node.strings nodes, '\n' ∉ text.toList) →
      Layout.print { layout with lineEnding := .carriageReturnLineFeed } nodes =
        Text.withCarriageReturns (Layout.print { layout with lineEnding := .lineFeed } nodes)) ∧
    ∀ (c : SynthesizedClass) (options : RenderOptions),
      Artifact.ofClass c { options with header := true } =
        { Artifact.ofClass c { options with header := false } with
          text := "// <auto-generated/>" ++ options.lineEnding.text ++
            (Artifact.ofClass c { options with header := false }).text } := by
  have hlines (nodes : List Node) (layout : Layout) :
      layout.print nodes = String.join ((Node.linesAll 0 nodes).map (·.print layout)) :=
    Node.printAll_eq_join_linesAll nodes 0
  refine ⟨hlines, fun nodes => ⟨Node.filterMap_node?_linesAll nodes 0, fun l hl hpart => ?_⟩,
    fun nodes layout hstrings => ?_, fun c options => ?_⟩
  · rw [Node.linesAll_eq_flatMap] at hl
    obtain ⟨node, -, hl⟩ := List.mem_flatMap.1 hl
    exact ⟨Node.depth_of_mem_lines hl hpart, by rw [hpart]; rfl⟩
  · have hline : ∀ l ∈ Node.linesAll 0 nodes, Text.Throughout (· ≠ '\n') (l.text layout) :=
      fun l hl => Node.throughout_line (by decide) (by decide) (by decide) (by decide)
        (fun text htext => Text.throughout_ne_iff.2 (hstrings text htext)) hl
    rw [hlines, hlines, Text.withCarriageReturns_join, List.map_map]
    refine congrArg String.join (List.map_congr_left fun l hl => ?_)
    exact Line.print_carriageReturnLineFeed (hline l hl)
  · -- The header comment is one more node in front, so one more line.
    have hnodes : c.nodes { options with header := true } =
        .comment "<auto-generated/>" :: c.nodes { options with header := false } := rfl
    have htext : options.toLayout.print (c.nodes { options with header := true }) =
        "// <auto-generated/>" ++ options.lineEnding.text ++
          options.toLayout.print (c.nodes { options with header := false }) := by
      rw [hnodes, Layout.print, Node.printAll, Node.print, Layout.line, Layout.print]
      rfl
    exact congrArg (Artifact.mk _ _) htext

theorem Layout.print_by_lines_scope :
    (∀ text ∈ Node.strings [.scope "Shop" [.blank, .directive "nullable enable"]],
      '\n' ∉ text.toList) ∧
    Layout.print ⟨.spaces 2, .carriageReturnLineFeed⟩
        [.scope "Shop" [.blank, .directive "nullable enable"]] =
      Text.withCarriageReturns (Layout.print ⟨.spaces 2, .lineFeed⟩
        [.scope "Shop" [.blank, .directive "nullable enable"]]) :=
  ⟨by decide, Layout.print_by_lines.2.2.1 _ ⟨.spaces 2, .lineFeed⟩ (by decide)⟩

end ClassSynthesis
