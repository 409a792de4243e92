import ClassSynthesis.Contract.Name
import ClassSynthesis.Contract.TypeRef

/-!
# Contracts

A declaration found by the host. Parents are kept as the qualified names written at the
declaration and are resolved through the index when they are needed, so a name that resolves
to nothing only harms the contracts that inherit through it.
-/

namespace ClassSynthesis

/-- The kind of declaration a name stands for. Only interfaces are contracts; the others are
known so that a reference to the wrong kind can be reported. -/
inductive DeclarationKind
  | interfaceType
  | classType
  | structType
  | enumType
  | delegateType
  deriving DecidableEq, Repr, Inhabited

/-- The name of a kind of declaration. -/
def DeclarationKind.name : DeclarationKind → String
  | interfaceType => "interface"
  | classType => "class"
  | structType => "struct"
  | enumType => "enum"
  | delegateType => "delegate"

/-- A declared contract. -/
structure Contract where
  /-- The full name. -/
  name : ContractName
  /-- The kind of declaration. -/
  kind : DeclarationKind := .interfaceType
  /-- The qualified names of the parents, in the order written. -/
  parents : List String := []
  /-- The nullable context at the declaration. -/
  context : NullableContext := .disabled
  /-- How often the declaration is marked as partial. -/
  partialMarkers : Nat := 1
  /-- The model file the contract comes from. -/
  sourceFile : Option String := none
  deriving DecidableEq, Repr

namespace Contract

/-- Whether the declaration is an interface. -/
def isInterface (c : Contract) : Bool := c.kind == .interfaceType

/-- An interface marked as partial exactly once is to be implemented; every other
declaration is only there to be inherited from. -/
def isImplementable (c : Contract) : Bool := c.isInterface && c.partialMarkers == 1

end Contract

end ClassSynthesis
