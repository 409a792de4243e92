import ClassSynthesis.Contract.TypeRef

/-!
# Members

A member as one contract declares it: a name, a kind, a type and the accessors written. The
key of a member is its name with its whole type; declarations with equal keys are the same
member whichever contracts declare them.
-/

namespace ClassSynthesis

/-- A set of property accessors. -/
structure AccessorSet where
  /-- The value can be read. -/
  get : Bool := false
  /-- The value can be written at any time. -/
  set : Bool := false
  /-- The value can be written while the object is being initialized. -/
  init : Bool := false
  deriving DecidableEq, Repr

namespace AccessorSet

/-- The set without accessors. -/
def empty : AccessorSet := {}

/-- The accessors of either set. -/
def union (a b : AccessorSet) : AccessorSet :=
  ⟨a.get || b.get, a.set || b.set, a.init || b.init⟩

/-- Readable, and writable in no way. -/
def isGetOnly (a : AccessorSet) : Bool := a.get && !a.set && !a.init

@[simp] theorem union_self (a : AccessorSet) : a.union a = a := by
  simp [union]

theorem union_comm (a b : AccessorSet) : a.union b = b.union a := by
  simp [union, Bool.or_comm]

theorem union_assoc (a b c : AccessorSet) : (a.union b).union c = a.union (b.union c) := by
  simp [union, Bool.or_assoc]

end AccessorSet

/-- The kind of a declared member. Only properties are implemented. -/
inductive MemberKind
  | property
  | method
  | event
  | indexer
  deriving DecidableEq, Repr, Inhabited

/-- The name of a kind in model files. -/
def MemberKind.name : MemberKind → String
  | property => "property"
  | method => "method"
  | event => "event"
  | indexer => "indexer"

/-- The identity of a member: its name and its whole declared type. -/
structure MemberKey where
  /-- The member's name. -/
  name : String
  /-- The member's declared type. -/
  type : TypeRef
  deriving DecidableEq, Repr

/-- A member as declared by one contract. -/
structure Member where
  /-- The declared name. -/
  name : String
  /-- The kind of member. -/
  kind : MemberKind := .property
  /-- The declared type. -/
  type : TypeRef
  /-- The accessors written. -/
  accessors : AccessorSet := {}
  deriving DecidableEq, Repr

namespace Member

/-- The identity of the member. -/
def key (m : Member) : MemberKey := ⟨m.name, m.type⟩

/-- Whether the member is a property. -/
def isProperty (m : Member) : Bool := m.kind == .property

/-- A readable property: the only members a class has to implement. -/
def isEligible (m : Member) : Bool := m.isProperty && m.accessors.get

end Member

end ClassSynthesis
