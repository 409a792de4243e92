/-!
# Declarations

The declarations of a generated file as a tree. Nodes carry neither indentation nor line
terminators; those belong to the layout.
-/

namespace ClassSynthesis

/-- An expression in an initializer, an accessor or a constructor body. -/
inductive Expression
  /-- A bare name. -/
  | identifier (name : String)
  /-- A member of the object itself: `this.name`. -/
  | thisMember (name : String)
  /-- A new instance constructed without arguments: `new T()`. -/
  | newInstance (type : String)
  /-- An assignment: `target = value`. -/
  | assign (target value : Expression)
  deriving DecidableEq, Repr, Inhabited

/-- The kind of a property accessor. -/
inductive AccessorKind
  | get
  | set
  | init
  deriving DecidableEq, Repr

/-- The keyword of an accessor. -/
def AccessorKind.keyword : AccessorKind → String
  | get => "get"
  | set => "set"
  | init => "init"

/-- A property accessor. -/
structure Accessor where
  /-- What the accessor does. -/
  kind : AccessorKind
  /-- The expression it evaluates; absent for one that is implemented automatically. -/
  body : Option Expression := none
  deriving DecidableEq, Repr

/-- A constructor parameter. -/
structure Parameter where
  /-- The declared type. -/
  type : String
  /-- The name. -/
  name : String
  deriving DecidableEq, Repr

/-- A declaration. -/
inductive Node
  /-- A line comment. -/
  | comment (text : String)
  /-- A compiler directive, without its number sign. -/
  | directive (text : String)
  /-- An empty line. -/
  | blank
  /-- A namespace with the declarations in it. -/
  | scope (name : String) (body : List Node)
  /-- A type with its base types and the declarations in it. -/
  | type (modifiers : List String) (keyword name : String) (bases : List String)
      (body : List Node)
  /-- A field, possibly with an initial value. -/
  | field (modifiers : List String) (type name : String) (value : Option Expression)
  /-- A property. One qualified by a contract implements that contract explicitly. -/
  | property (modifiers : List String) (type : String) (contract : Option String)
      (name : String) (accessors : List Accessor) (value : Option Expression)
  /-- A constructor with its statements. -/
  | constructor (modifiers : List String) (name : String) (parameters : List Parameter)
      (body : List Node)
  /-- An expression as a statement. -/
  | statement (expression : Expression)
  deriving Repr, Inhabited

end ClassSynthesis
