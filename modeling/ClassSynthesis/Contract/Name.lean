import ClassSynthesis.Text.Blank

/-!
# Contract Names

A contract is named by a namespace, which may be the global one, and by its declared name
with any generic parameter list. The qualified name joins the two with a dot; it identifies
a contract, so two splits of the same qualified name name the same contract.
-/

namespace ClassSynthesis

/-- The full name of a contract. -/
structure ContractName where
  /-- The namespace, absent for the global namespace. -/
  scope : Option String
  /-- The declared name, such as `IScope<T>`. -/
  name : String
  deriving DecidableEq, Repr

namespace ContractName

/-- A name in the global namespace. -/
def global (name : String) : ContractName := ⟨none, name⟩

/-- A name in a namespace as written. The namespace is trimmed, and a blank one is the
global namespace; the declared name is kept as it is. -/
def inScope (scope : Option String) (name : String) : ContractName where
  scope := (scope.map Text.trim).filter (!·.isEmpty)
  name

/-- Whether the name is in the global namespace. -/
def isGlobal (n : ContractName) : Bool := n.scope.isNone

/-- `Namespace.Name`, or the name alone in the global namespace. -/
def qualified (n : ContractName) : String :=
  match n.scope with
  | some scope => scope ++ "." ++ n.name
  | none => n.name

/-- Names are ordered by namespace, the global one first, and then by declared name. Texts
compare by code points, which is also the order of their UTF-8 bytes. -/
instance : Ord ContractName where
  compare a b := (compare a.scope b.scope).then (compare a.name b.name)

/-- The names in increasing order. -/
def sort (names : List ContractName) : List ContractName :=
  names.mergeSort fun a b => (compare a b).isLE

@[simp] theorem qualified_global (name : String) : (global name).qualified = name := rfl

end ContractName

end ClassSynthesis
