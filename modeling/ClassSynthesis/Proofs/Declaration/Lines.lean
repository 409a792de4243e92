import ClassSynthesis.Artifact
import Mathlib.Data.List.Basic

/-!
# The Lines of Printed Declarations

Printed declarations are lines, and which lines these are depends on the declarations alone: every
node has a line of its own, at the depth of the blocks around it, and a block has two more for its
braces. A layout adds nothing but the unit of indentation and the terminator
(`Layout.print_by_lines`). So a change of the terminator is a change of the line ends, and the
header comment of a file is one more line in front.

## Main definitions

- `Line`: a line before a layout is chosen.
- `Node.lines`, `Node.linesAll`: the lines of a node, and of a sequence of nodes.
- `Node.within`, `Node.withinAll`: the nodes themselves, in the order of their lines.
-/

namespace ClassSynthesis

/-! ## Nodes and lines -/

namespace Node

/-- The declarations or statements in a node that has a block. -/
def body? : Node → Option (List Node)
  | scope _ body => some body
  | type _ _ _ _ body => some body
  | constructor _ _ _ body => some body
  | _ => none

/-- The text of a node itself: all of it, or the header of its block. -/
def ownText : Node → String
  | comment text => "// " ++ text
  | directive text => "#" ++ text
  | blank => ""
  | scope name _ => "namespace " ++ name
  | type modifiers keyword name bases _ => typeHeader modifiers keyword name bases
  | field modifiers declared name value => fieldText modifiers declared name value
  | property modifiers declared contract name accessors value =>
    propertyText modifiers declared contract name accessors value
  | constructor modifiers name parameters _ => constructorHeader modifiers name parameters
  | statement expression => expression.text ++ ";"

/-- The depth of the line of a node among others at the given depth. An empty line is never
indented. -/
def indentedAt (depth : Nat) : Node → Nat
  | blank => 0
  | _ => depth

end Node

/-- What stands on a line. -/
inductive LinePart
  /-- The text of a node itself. -/
  | own (node : Node)
  /-- The brace that opens a block. -/
  | opening
  /-- The brace that closes a block. -/
  | closing

namespace LinePart

/-- The text that stands on the line. -/
def text : LinePart → String
  | own node => node.ownText
  | opening => "\x7b"
  | closing => "\x7d"

/-- The node whose text it is. -/
def node? : LinePart → Option Node
  | own node => some node
  | opening => none
  | closing => none

end LinePart

/-- A line before a layout is chosen. -/
structure Line where
  /-- The levels of indentation. -/
  depth : Nat
  /-- What stands behind the indentation. -/
  part : LinePart

namespace Line

/-- The lines of a node with a block, of which the inner ones are given. -/
def block (depth : Nat) (node : Node) (inner : List Line) : List Line :=
  ⟨depth, .own node⟩ :: ⟨depth, .opening⟩ :: (inner ++ [⟨depth, .closing⟩])

/-- The line under a layout, without its terminator. -/
def text (l : Line) (layout : Layout) : String :=
  String.join (List.replicate l.depth layout.indent.unit) ++ l.part.text

/-- The line under a layout. -/
def print (l : Line) (layout : Layout) : String := l.text layout ++ layout.lineEnding.text

end Line

namespace Node

mutual

/-- The lines of a node at the given depth. -/
def lines (depth : Nat) : Node → List Line
  | scope name body => Line.block depth (scope name body) (linesAll (depth + 1) body)
  | type modifiers keyword name bases body =>
    Line.block depth (type modifiers keyword name bases body) (linesAll (depth + 1) body)
  | constructor modifiers name parameters body =>
    Line.block depth (constructor modifiers name parameters body) (linesAll (depth + 1) body)
  | node => [⟨node.indentedAt depth, .own node⟩]

/-- The lines of a sequence of nodes at the given depth. -/
def linesAll (depth : Nat) : List Node → List Line
  | [] => []
  | node :: rest => lines depth node ++ linesAll depth rest

end

mutual

/-- A node and the nodes in it, each before those that are in it. -/
def within : Node → List Node
  | scope name body => scope name body :: withinAll body
  | type modifiers keyword name bases body =>
    type modifiers keyword name bases body :: withinAll body
  | constructor modifiers name parameters body =>
    constructor modifiers name parameters body :: withinAll body
  | node => [node]

/-- A sequence of nodes and the nodes in them. -/
def withinAll : List Node → List Node
  | [] => []
  | node :: rest => within node ++ withinAll rest

end

/-- What is in the block of a node is smaller than the node. -/
theorem sizeOf_lt_of_mem_body {node child : Node} {body : List Node} (h : node.body? = some body)
    (hchild : child ∈ body) : sizeOf child < sizeOf node := by
  have hlt := List.sizeOf_lt_of_mem hchild
  cases node with
  | scope | type | constructor =>
    cases h
    simp
    omega
  | comment | directive | blank | field | property | statement => cases h

/-- What holds of a node without a block, and of one with a block as soon as it holds of the
nodes in the block, holds of every node. -/
@[elab_as_elim]
theorem induction {motive : Node → Prop} (leaf : ∀ node, node.body? = none → motive node)
    (block : ∀ node body, node.body? = some body → (∀ child ∈ body, motive child) → motive node)
    (node : Node) : motive node :=
  match h : node.body? with
  | none => leaf node h
  | some body => block node body h fun child _ => induction leaf block child
termination_by sizeOf node
decreasing_by exact sizeOf_lt_of_mem_body h ‹_›

variable {node : Node} {body : List Node} {depth : Nat} {layout : Layout}

theorem printAll_eq_join (nodes : List Node) :
    printAll layout depth nodes = String.join (nodes.map (print layout depth)) := by
  induction nodes with
  | nil => rfl
  | cons node rest ih => rw [printAll, ih, List.map_cons, String.join_cons]

theorem linesAll_eq_flatMap (nodes : List Node) :
    linesAll depth nodes = nodes.flatMap (lines depth) := by
  induction nodes with
  | nil => rw [linesAll, List.flatMap_nil]
  | cons node rest ih => rw [linesAll, List.flatMap_cons, ih]

theorem withinAll_eq_flatMap (nodes : List Node) : withinAll nodes = nodes.flatMap within := by
  induction nodes with
  | nil => rw [withinAll, List.flatMap_nil]
  | cons node rest ih => rw [withinAll, List.flatMap_cons, ih]

theorem lines_of_leaf (h : node.body? = none) :
    node.lines depth = [⟨node.indentedAt depth, .own node⟩] := by
  cases node with
  | scope | type | constructor => cases h
  | comment | directive | blank | field | property | statement => simp [lines]

theorem lines_of_block (h : node.body? = some body) :
    node.lines depth = Line.block depth node (linesAll (depth + 1) body) := by
  cases node with
  | scope | type | constructor =>
    cases h
    rw [lines]
  | comment | directive | blank | field | property | statement => cases h

theorem within_of_leaf (h : node.body? = none) : node.within = [node] := by
  cases node with
  | scope | type | constructor => cases h
  | comment | directive | blank | field | property | statement =>
    simp [within]

theorem within_of_block (h : node.body? = some body) : node.within = node :: withinAll body := by
  cases node with
  | scope | type | constructor =>
    cases h
    rw [within]
  | comment | directive | blank | field | property | statement => cases h

theorem print_of_leaf (h : node.body? = none) :
    node.print layout depth = (Line.mk (node.indentedAt depth) (.own node)).print layout := by
  cases node with
  | scope | type | constructor => cases h
  | blank => simp [print, Line.print, Line.text, indentedAt, LinePart.text, ownText,
      Layout.blankLine]
  | comment | directive | field | property | statement =>
    rw [print]
    rfl

theorem print_of_block (h : node.body? = some body) :
    node.print layout depth =
      (Line.mk depth (.own node)).print layout ++ (Line.mk depth .opening).print layout ++
        printAll layout (depth + 1) body ++ (Line.mk depth .closing).print layout := by
  cases node with
  | scope | type | constructor =>
    cases h
    rw [print]
    rfl
  | comment | directive | blank | field | property | statement => cases h

/-- If each of some nodes is printed line by line, so is their sequence. -/
theorem printAll_eq_of_forall {nodes : List Node} (h : ∀ child ∈ nodes, child.print layout depth =
      String.join ((child.lines depth).map (·.print layout))) :
    printAll layout depth nodes =
      String.join ((linesAll depth nodes).map (·.print layout)) := by
  induction nodes with
  | nil => rfl
  | cons node rest ih =>
    obtain ⟨hnode, hrest⟩ := List.forall_mem_cons.1 h
    rw [printAll, linesAll, List.map_append, String.join_append, hnode, ih hrest]

/-- A node is printed line by line. -/
theorem print_eq_join_lines (node : Node) (depth : Nat) :
    node.print layout depth = String.join ((node.lines depth).map (·.print layout)) := by
  induction node using Node.induction generalizing depth with
  | leaf node h => rw [print_of_leaf h, lines_of_leaf h]; simp
  | block node body h ih =>
    rw [print_of_block h, lines_of_block h, Line.block,
      printAll_eq_of_forall fun child hchild => ih child hchild (depth + 1)]
    simp [String.append_assoc]

/-- Nodes are printed line by line. -/
theorem printAll_eq_join_linesAll (nodes : List Node) (depth : Nat) :
    printAll layout depth nodes = String.join ((linesAll depth nodes).map (·.print layout)) :=
  printAll_eq_of_forall fun child _ => child.print_eq_join_lines depth

/-- The lines of a node show the nodes in it, in order. -/
theorem filterMap_node?_lines (node : Node) (depth : Nat) :
    (node.lines depth).filterMap (·.part.node?) = node.within := by
  induction node using Node.induction generalizing depth with
  | leaf node h =>
    rw [lines_of_leaf h, within_of_leaf h]
    rfl
  | block node body h ih =>
    have hbody : (linesAll (depth + 1) body).filterMap (·.part.node?) = withinAll body := by
      rw [linesAll_eq_flatMap, withinAll_eq_flatMap, List.filterMap_flatMap]
      exact List.flatMap_congr fun child hchild => ih child hchild (depth + 1)
    rw [lines_of_block h, within_of_block h, Line.block, ← hbody]
    simp [LinePart.node?]

theorem filterMap_node?_linesAll (nodes : List Node) (depth : Nat) :
    (linesAll depth nodes).filterMap (·.part.node?) = withinAll nodes := by
  rw [linesAll_eq_flatMap, withinAll_eq_flatMap, List.filterMap_flatMap]
  exact List.flatMap_congr fun node _ => node.filterMap_node?_lines depth

end Node

end ClassSynthesis
