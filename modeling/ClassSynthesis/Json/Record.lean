import ClassSynthesis.Json.Decoder

/-!
# Decoding Records

A record is written as a map from field names to values or as a sequence of its fields in
their order. In a map the fields come in any order and unknown ones are passed over. A field
that is not required keeps its default value when it is absent.

A record is decoded into a blank one, field by field.
-/

namespace ClassSynthesis.Json

/-- A field of a record. -/
structure Field (ρ : Type) where
  /-- The name. -/
  name : String
  /-- Whether the field has to be present. -/
  required : Bool
  /-- Read the value into a record. -/
  read : ρ → Decoder ρ

/-- A field whose value is put into the record. -/
def Field.ofDecoder {ρ α : Type} (name : String) (required : Bool) (decoder : Decoder α)
    (put : ρ → α → ρ) : Field ρ :=
  ⟨name, required, fun record => decoder.map (put record)⟩

/-- A field that has to be present. -/
def required {ρ α : Type} (name : String) (decoder : Decoder α) (put : ρ → α → ρ) : Field ρ :=
  .ofDecoder name true decoder put

/-- A field that may be absent. -/
def optional {ρ α : Type} (name : String) (decoder : Decoder α) (put : ρ → α → ρ) : Field ρ :=
  .ofDecoder name false decoder put

/-- A kind of record. -/
structure RecordShape (ρ : Type) where
  /-- The name of the kind in error messages. -/
  name : String
  /-- The record before any field is read, with every default value in place. -/
  blank : ρ
  /-- The fields in their order. -/
  fields : List (Field ρ)

namespace RecordShape

variable {ρ : Type}

/-- The kind of record as error messages describe it. -/
def description (shape : RecordShape ρ) : String := "struct " ++ shape.name

/-- The description with the number of fields. -/
def countedDescription (shape : RecordShape ρ) : String :=
  shape.description ++ " with " ++ toString shape.fields.length ++ " elements"

/-- What has been read of a record written as a map. -/
structure Draft (ρ : Type) where
  /-- The record with the fields read so far. -/
  record : ρ
  /-- The names of the fields read so far. -/
  seen : List String

/-- Read one entry of a map, from behind the quote that opens its key. A field written twice
is reported before its value is looked at. -/
def entry (shape : RecordShape ρ) (draft : Draft ρ) : Decoder (Draft ρ) := fun cs => do
  let (name, keyEnd) ← string cs
  match shape.fields.find? (·.name == name) with
  | some field =>
    if draft.seen.contains name then throw (.data (.duplicateField name))
    let (record, after) ← entryValue (field.read draft.record) keyEnd.val
    return (⟨record, name :: draft.seen⟩, keyEnd.trans after)
  | none =>
    let (_, after) ← entryValue skipValue keyEnd.val
    return (draft, keyEnd.trans after)

/-- The first required field, in the order of the fields, that has not been read. -/
def missing? (shape : RecordShape ρ) (draft : Draft ρ) : Option (Field ρ) :=
  shape.fields.find? fun field => field.required && !draft.seen.contains field.name

/-- The entries of a record whose opening brace has been read. -/
def ofMap (shape : RecordShape ρ) : Decoder ρ := fun cs => do
  let (draft, last) ← entries shape.entry ⟨shape.blank, []⟩ true cs
  if let some field := shape.missing? draft then throw (.data (.missingField field.name))
  let after ← closing '\x7d' last.val
  return (draft.record, .ofUpto last after)

/-- Read the fields from a position on from the items of a sequence. Where the sequence ends,
the remaining fields are absent; a required one is reported by its position. -/
def elements (shape : RecordShape ρ) (fields : List (Field ρ)) (position : Nat) (record : ρ)
    (cs : List Char) : Except JsonError (ρ × Upto cs) :=
  match fields with
  | [] => .ok (record, Upto.whole cs)
  | field :: more => do
    match ← nextItem ']' (position == 0) cs with
    | none =>
      if field.required then throw (.data (.invalidLength position shape.countedDescription))
      elements shape more (position + 1) record cs
    | some start =>
      let (record, after) ← field.read record start.val
      let (record, last) ← elements shape more (position + 1) record after.val
      return (record, (start.trans after.toUpto).trans last)

/-- The items of a record whose opening bracket has been read. -/
def ofSequence (shape : RecordShape ρ) : Decoder ρ := fun cs => do
  let (record, last) ← shape.elements shape.fields 0 shape.blank cs
  let after ← closing ']' last.val
  return (record, .ofUpto last after)

/-- A record of this kind. -/
def decoder (shape : RecordShape ρ) : Decoder ρ := .afterBlanks fun
  | '\x7b' :: rest => do
    let (record, after) ← shape.ofMap rest
    return (record, .behind after.toUpto)
  | '[' :: rest => do
    let (record, after) ← shape.ofSequence rest
    return (record, .behind after.toUpto)
  | other => .error (unexpected shape.description other)

end RecordShape

end ClassSynthesis.Json
