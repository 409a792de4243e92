/-!
# Type References

What the synthesizer knows of a member's declared type: its name, whether it is annotated as
nullable, and three capabilities. Two references are the same type only if all of these
agree, so `string` and `string?` differ.
-/

namespace ClassSynthesis

/-- The nullable-reference context in effect where a contract is declared. -/
inductive NullableContext
  | enabled
  | disabled
  deriving DecidableEq, Repr, Inhabited

/-- The name of a context in model files. -/
def NullableContext.name : NullableContext → String
  | enabled => "enabled"
  | disabled => "disabled"

/-- A resolved type reference. -/
structure TypeRef where
  /-- The name without a nullable annotation. -/
  name : String
  /-- Whether the reference is annotated as nullable. -/
  nullable : Bool := false
  /-- The type has a well-defined zero state without construction. -/
  isValue : Bool := false
  /-- The type is a sequence of items. -/
  isCollection : Bool := false
  /-- The type can be constructed without arguments. -/
  isConstructible : Bool := false
  deriving DecidableEq, Repr

namespace TypeRef

/-- A non-nullable reference type. -/
def reference (name : String) : TypeRef := { name }

/-- A non-nullable value type. -/
def value (name : String) : TypeRef := { name, isValue := true }

/-- A reference type that is a collection constructible without arguments. -/
def collection (name : String) : TypeRef :=
  { name, isCollection := true, isConstructible := true }

/-- The nullable form of a type. -/
def toNullable (t : TypeRef) : TypeRef := { t with nullable := true }

/-- The type may never be observed without a value. Value types always have their zero
state, and outside an enabled context a reference type promises nothing. -/
def isNonNullableReference (t : TypeRef) (context : NullableContext) : Bool :=
  !t.isValue && !t.nullable && context == .enabled

/-- The type as written in a declaration. A nullable reference type is annotated only in an
enabled context, a nullable value type everywhere. -/
def display (t : TypeRef) (context : NullableContext) : String :=
  if t.nullable && (t.isValue || context == .enabled) then t.name ++ "?" else t.name

end TypeRef

end ClassSynthesis
