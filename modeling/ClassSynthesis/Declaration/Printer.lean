import ClassSynthesis.Declaration.Layout
import ClassSynthesis.Declaration.Node

/-!
# Printing Declarations

The text of a declaration tree under a layout. Every node other than a block is one line; a
block is a header line, an opening brace, its body one level deeper, and a closing brace.
-/

namespace ClassSynthesis

/-- The text of an expression. -/
def Expression.text : Expression → String
  | identifier name => name
  | thisMember name => "this." ++ name
  | newInstance type => "new " ++ type ++ "()"
  | assign target value => target.text ++ " = " ++ value.text

/-- The text of an accessor. -/
def Accessor.text (a : Accessor) : String :=
  match a.body with
  | none => a.kind.keyword ++ ";"
  | some body => a.kind.keyword ++ " => " ++ body.text ++ ";"

/-- The text of a parameter. -/
def Parameter.text (p : Parameter) : String := p.type ++ " " ++ p.name

namespace Node

/-- The modifiers, each followed by a space. -/
def modifierText (modifiers : List String) : String :=
  String.join (modifiers.map (· ++ " "))

/-- An initial value, written after an equals sign. -/
def initialText : Option Expression → String
  | none => ""
  | some value => " = " ++ value.text

/-- The header line of a type. -/
def typeHeader (modifiers : List String) (keyword name : String) (bases : List String) :
    String :=
  modifierText modifiers ++ keyword ++ " " ++ name ++
    (if bases.isEmpty then "" else " : " ++ ", ".intercalate bases)

/-- The header line of a constructor. -/
def constructorHeader (modifiers : List String) (name : String)
    (parameters : List Parameter) : String :=
  modifierText modifiers ++ name ++ "(" ++
    ", ".intercalate (parameters.map Parameter.text) ++ ")"

/-- The line of a field. -/
def fieldText (modifiers : List String) (type name : String) (value : Option Expression) :
    String :=
  modifierText modifiers ++ type ++ " " ++ name ++ initialText value ++ ";"

/-- The line of a property. -/
def propertyText (modifiers : List String) (type : String) (contract : Option String)
    (name : String) (accessors : List Accessor) (value : Option Expression) : String :=
  modifierText modifiers ++ type ++ " " ++
    (match contract with
      | some contract => contract ++ "."
      | none => "") ++
    name ++ " \x7b" ++ String.join (accessors.map (" " ++ ·.text)) ++ " \x7d" ++
    (if value.isSome then initialText value ++ ";" else "")

mutual

/-- The text of a node at the given depth. -/
def print (layout : Layout) (depth : Nat) : Node → String
  | comment text => layout.line depth ("// " ++ text)
  | directive text => layout.line depth ("#" ++ text)
  | blank => layout.blankLine
  | scope name body =>
    layout.line depth ("namespace " ++ name) ++ layout.line depth "\x7b" ++
      printAll layout (depth + 1) body ++ layout.line depth "\x7d"
  | type modifiers keyword name bases body =>
    layout.line depth (typeHeader modifiers keyword name bases) ++
      layout.line depth "\x7b" ++ printAll layout (depth + 1) body ++
      layout.line depth "\x7d"
  | field modifiers declared name value =>
    layout.line depth (fieldText modifiers declared name value)
  | property modifiers declared contract name accessors value =>
    layout.line depth (propertyText modifiers declared contract name accessors value)
  | constructor modifiers name parameters body =>
    layout.line depth (constructorHeader modifiers name parameters) ++
      layout.line depth "\x7b" ++ printAll layout (depth + 1) body ++
      layout.line depth "\x7d"
  | statement expression => layout.line depth (expression.text ++ ";")

/-- The text of a sequence of nodes at the given depth. -/
def printAll (layout : Layout) (depth : Nat) : List Node → String
  | [] => ""
  | node :: rest => print layout depth node ++ printAll layout depth rest

end

end Node

/-- The text of the top-level declarations of a file. -/
def Layout.print (layout : Layout) (nodes : List Node) : String :=
  Node.printAll layout 0 nodes

end ClassSynthesis
