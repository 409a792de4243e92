import ClassSynthesis.Contract.Index
import ClassSynthesis.Json.Record

/-!
# Model Files

A model file lists contracts with the members they declare, as whoever discovered the
declarations hands them over in JSON. Registering a file adds its contracts to an index one
by one; a contract whose name is taken stops it, and those before it stay.
-/

namespace ClassSynthesis

/-- The accessors that a member may list. -/
inductive AccessorWord
  | get
  | set
  | init
  deriving DecidableEq, Repr

/-- The set with one more accessor. -/
def AccessorSet.with (a : AccessorSet) : AccessorWord → AccessorSet
  | .get => { a with get := true }
  | .set => { a with set := true }
  | .init => { a with init := true }

/-- The set of the accessors listed, in any order and any number. -/
def AccessorSet.ofWords (words : List AccessorWord) : AccessorSet :=
  words.foldl AccessorSet.with empty

/-- A type as a model file writes it. -/
structure TypeEntry where
  /-- The name. -/
  name : String := ""
  /-- Annotated as nullable. -/
  nullable : Bool := false
  /-- A value type. -/
  valueType : Bool := false
  /-- A collection. -/
  collection : Bool := false
  /-- Constructible without arguments. -/
  defaultConstructible : Bool := false
  deriving DecidableEq, Repr

/-- A member as a model file writes it. -/
structure MemberEntry where
  /-- The name. -/
  name : String := ""
  /-- The kind of member. -/
  kind : MemberKind := .property
  /-- The accessors listed. -/
  accessors : List AccessorWord := []
  /-- The declared type. -/
  type : TypeEntry := {}
  deriving DecidableEq, Repr

/-- A contract as a model file writes it. -/
structure ContractEntry where
  /-- The namespace. -/
  scope : Option String := none
  /-- The declared name. -/
  name : String := ""
  /-- The kind of declaration. -/
  kind : DeclarationKind := .interfaceType
  /-- The modifiers written at the declaration. -/
  modifiers : List String := []
  /-- The nullable context. -/
  nullableContext : NullableContext := .disabled
  /-- The qualified names of the parents. -/
  parents : List String := []
  /-- The members declared. -/
  members : List MemberEntry := []
  deriving DecidableEq, Repr

/-- A model file. -/
structure ModelFile where
  /-- The contracts listed. -/
  contracts : List ContractEntry := []
  deriving DecidableEq, Repr

namespace TypeEntry

open Json in
/-- How a type is written. -/
def shape : RecordShape TypeEntry where
  name := "TypeEntry"
  blank := {}
  fields := [
    required "name" text fun e v => { e with name := v },
    optional "nullable" boolean fun e v => { e with nullable := v },
    optional "valueType" boolean fun e v => { e with valueType := v },
    optional "collection" boolean fun e v => { e with collection := v },
    optional "defaultConstructible" boolean fun e v => { e with defaultConstructible := v }]

/-- The type meant. Blanks around its name do not count. -/
def toTypeRef (e : TypeEntry) : TypeRef where
  name := Text.trim e.name
  nullable := e.nullable
  isValue := e.valueType
  isCollection := e.collection
  isConstructible := e.defaultConstructible

end TypeEntry

namespace MemberEntry

/-- The kinds of member by name. -/
def kinds : List (String × MemberKind) :=
  [.property, .method, .event, .indexer].map fun kind => (kind.name, kind)

/-- The accessors by name. -/
def accessorWords : List (String × AccessorWord) :=
  [("get", .get), ("set", .set), ("init", .init)]

open Json in
/-- How a member is written. -/
def shape : RecordShape MemberEntry where
  name := "MemberEntry"
  blank := {}
  fields := [
    required "name" text fun e v => { e with name := v },
    optional "kind" (choice kinds) fun e v => { e with kind := v },
    optional "accessors" (listOf (choice accessorWords)) fun e v => { e with accessors := v },
    required "type" TypeEntry.shape.decoder fun e v => { e with type := v }]

/-- The member declared. -/
def toMember (e : MemberEntry) : Member where
  name := e.name
  kind := e.kind
  type := e.type.toTypeRef
  accessors := .ofWords e.accessors

end MemberEntry

namespace ContractEntry

/-- The kinds of declaration by name. -/
def kinds : List (String × DeclarationKind) :=
  [.interfaceType, .classType, .structType, .enumType, .delegateType].map fun kind => (kind.name, kind)

/-- The nullable contexts by name. -/
def contexts : List (String × NullableContext) :=
  [.enabled, .disabled].map fun context => (context.name, context)

open Json in
/-- How a contract is written. -/
def shape : RecordShape ContractEntry where
  name := "ContractEntry"
  blank := {}
  fields := [
    optional "namespace" (nullable text) fun e v => { e with scope := v },
    required "name" text fun e v => { e with name := v },
    optional "kind" (choice kinds) fun e v => { e with kind := v },
    optional "modifiers" (listOf text) fun e v => { e with modifiers := v },
    optional "nullableContext" (choice contexts) fun e v => { e with nullableContext := v },
    optional "extends" (listOf text) fun e v => { e with parents := v },
    optional "members" (listOf MemberEntry.shape.decoder) fun e v => { e with members := v }]

/-- The contract declared, as read from a source file, with its members. Only a modifier that
is exactly `partial` marks it as partial. -/
def toRegistration (e : ContractEntry) (sourceFile : String) : Registration where
  contract := {
    name := .inScope e.scope e.name
    kind := e.kind
    parents := e.parents
    context := e.nullableContext
    partialMarkers := e.modifiers.count "partial"
    sourceFile := some sourceFile }
  members := e.members.map MemberEntry.toMember

end ContractEntry

namespace ModelFile

open Json in
/-- How a model file is written. -/
def shape : RecordShape ModelFile where
  name := "ModelFile"
  blank := {}
  fields := [
    optional "contracts" (listOf ContractEntry.shape.decoder)
      fun e v => { e with contracts := v }]

/-- Decode a model file. -/
def ofJson (source : String) : Except JsonError ModelFile := Json.decode shape.decoder source

end ModelFile

/-- Register contracts in order up to the first whose name is taken. The index answered holds
the contracts registered also when one was refused. -/
def ContractIndex.registerAll (index : ContractIndex) :
    List Registration → Except ModelError (List ContractId) × ContractIndex
  | [] => (.ok [], index)
  | r :: rest =>
    match index.register r with
    | .error e => (.error e, index)
    | .ok (id, next) =>
      let (ids, last) := next.registerAll rest
      (ids.map (id :: ·), last)

/-- Register the contracts of a model file. -/
def ModelFile.register (file : ModelFile) (sourceFile : String) (index : ContractIndex) :
    Except ModelError (List ContractId) × ContractIndex :=
  index.registerAll (file.contracts.map (·.toRegistration sourceFile))

end ClassSynthesis
