import ClassSynthesis.Contract.ModelFile
import ClassSynthesis.Proofs.Json.Records
import ClassSynthesis.Proofs.Json.Writable

/-!
# The Texts of a Model File

Many texts write the same model file: the fields of an entry may come in any order, a field may
be left out where the entry has its default value, and there may be fields of other names. From
each of these texts the file is decoded as it was written.

The names, the kinds of value and the defaults of the fields stand in tables of their own, one for
each kind of entry. Nothing in a table says how a field is read; that the decoders agree with
the tables is what is proved.
-/

namespace ClassSynthesis

open Json

/-! ## Types -/

namespace TypeEntry

/-- How the fields of a type are written. -/
def forms : List (FieldForm TypeEntry) := [
  ⟨"name", String, name, StringText, none⟩,
  ⟨"nullable", Bool, nullable, BooleanText, some false⟩,
  ⟨"valueType", Bool, valueType, BooleanText, some false⟩,
  ⟨"collection", Bool, collection, BooleanText, some false⟩,
  ⟨"defaultConstructible", Bool, defaultConstructible, BooleanText, some false⟩]

theorem shape_fits : shape.Fits forms where
  fields := by
    refine .cons (.ofDecoder (fun _ _ => reads_text) ?_ ?_ ?_ ?_) <|
      .cons (.ofDecoder (fun _ _ => reads_boolean) ?_ ?_ ?_ ?_) <|
      .cons (.ofDecoder (fun _ _ => reads_boolean) ?_ ?_ ?_ ?_) <|
      .cons (.ofDecoder (fun _ _ => reads_boolean) ?_ ?_ ?_ ?_) <|
      .cons (.ofDecoder (fun _ _ => reads_boolean) ?_ ?_ ?_ ?_) .nil
    -- The tables agree on what is required and on the defaults, and a field is put where it is
    -- got from.
    all_goals simp [forms, shape]
  distinct := by decide
  ext := by
    rintro ⟨⟩ ⟨⟩ h
    simpa [forms] using h

theorem exists_text (e : TypeEntry) : ∃ text, RecordText forms e text := by
  refine exists_recordText shape_fits.distinct ?_
  simp [forms, exists_stringText, BooleanText]

end TypeEntry

/-! ## Members -/

/-- The accessor as a model file writes it. -/
def AccessorWord.name : AccessorWord → String
  | get => "get"
  | set => "set"
  | init => "init"

namespace MemberEntry

/-- How the fields of a member are written. -/
def forms : List (FieldForm MemberEntry) := [
  ⟨"name", String, name, StringText, none⟩,
  ⟨"kind", MemberKind, kind, NameText MemberKind.name, some .property⟩,
  ⟨"accessors", List AccessorWord, accessors, SequenceText (NameText AccessorWord.name), some []⟩,
  ⟨"type", TypeEntry, type, RecordText TypeEntry.forms, none⟩]

theorem reads_kind (kind : MemberKind) (text : List Char) (h : NameText MemberKind.name kind text) :
    Reads (choice kinds) text kind :=
  reads_choice h (by cases kind <;> decide)

theorem reads_accessor (word : AccessorWord) (text : List Char)
    (h : NameText AccessorWord.name word text) : Reads (choice accessorWords) text word :=
  reads_choice h (by cases word <;> decide)

theorem shape_fits : shape.Fits forms where
  fields := by
    refine .cons (.ofDecoder (fun _ _ => reads_text) ?_ ?_ ?_ ?_) <|
      .cons (.ofDecoder reads_kind ?_ ?_ ?_ ?_) <|
      .cons (.ofDecoder (fun _ _ h => reads_listOf h reads_accessor) ?_ ?_ ?_ ?_) <|
      .cons (.ofDecoder (fun _ _ => TypeEntry.shape.reads_record TypeEntry.shape_fits) ?_ ?_ ?_ ?_)
        .nil
    all_goals simp [forms, shape]
  distinct := by decide
  ext := by
    rintro ⟨⟩ ⟨⟩ h
    simpa [forms] using h

theorem exists_text (e : MemberEntry) : ∃ text, RecordText forms e text := by
  refine exists_recordText shape_fits.distinct ?_
  have haccessors : ∃ text, SequenceText (NameText AccessorWord.name) e.accessors text :=
    exists_sequenceText fun word _ => exists_stringText word.name
  simp [forms, exists_stringText, NameText, haccessors, TypeEntry.exists_text]

end MemberEntry

/-! ## Contracts -/

namespace ContractEntry

/-- How the fields of a contract are written. -/
def forms : List (FieldForm ContractEntry) := [
  ⟨"namespace", Option String, scope, NullableText StringText, some none⟩,
  ⟨"name", String, name, StringText, none⟩,
  ⟨"kind", DeclarationKind, kind, NameText DeclarationKind.name, some .interfaceType⟩,
  ⟨"modifiers", List String, modifiers, SequenceText StringText, some []⟩,
  ⟨"nullableContext", NullableContext, nullableContext, NameText NullableContext.name,
    some .disabled⟩,
  ⟨"extends", List String, parents, SequenceText StringText, some []⟩,
  ⟨"members", List MemberEntry, members, SequenceText (RecordText MemberEntry.forms), some []⟩]

theorem reads_kind (kind : DeclarationKind) (text : List Char)
    (h : NameText DeclarationKind.name kind text) : Reads (choice kinds) text kind :=
  reads_choice h (by cases kind <;> decide)

theorem reads_context (context : NullableContext) (text : List Char)
    (h : NameText NullableContext.name context text) : Reads (choice contexts) text context :=
  reads_choice h (by cases context <;> decide)

theorem shape_fits : shape.Fits forms where
  fields := by
    refine .cons (.ofDecoder (fun _ _ => reads_nullable) ?_ ?_ ?_ ?_) <|
      .cons (.ofDecoder (fun _ _ => reads_text) ?_ ?_ ?_ ?_) <|
      .cons (.ofDecoder reads_kind ?_ ?_ ?_ ?_) <|
      .cons (.ofDecoder (fun _ _ h => reads_listOf h fun _ _ => reads_text) ?_ ?_ ?_ ?_) <|
      .cons (.ofDecoder reads_context ?_ ?_ ?_ ?_) <|
      .cons (.ofDecoder (fun _ _ h => reads_listOf h fun _ _ => reads_text) ?_ ?_ ?_ ?_) <|
      .cons (.ofDecoder (fun _ _ h => reads_listOf h fun _ _ =>
        MemberEntry.shape.reads_record MemberEntry.shape_fits) ?_ ?_ ?_ ?_) .nil
    all_goals simp [forms, shape]
  distinct := by decide
  ext := by
    rintro ⟨⟩ ⟨⟩ h
    simpa [forms] using h

theorem exists_text (e : ContractEntry) : ∃ text, RecordText forms e text := by
  refine exists_recordText shape_fits.distinct ?_
  have hscope : ∃ text, NullableText StringText e.scope text := by
    cases e.scope with
    | none => exact ⟨_, rfl⟩
    | some scope => exact exists_stringText scope
  have hstrings (strings : List String) : ∃ text, SequenceText StringText strings text :=
    exists_sequenceText fun s _ => exists_stringText s
  have hmembers : ∃ text, SequenceText (RecordText MemberEntry.forms) e.members text :=
    exists_sequenceText fun member _ => member.exists_text
  simp [forms, hscope, hstrings, hmembers, exists_stringText, NameText]

end ContractEntry

/-! ## Files -/

namespace ModelFile

/-- How the fields of a model file are written. -/
def forms : List (FieldForm ModelFile) := [
  ⟨"contracts", List ContractEntry, contracts, SequenceText (RecordText ContractEntry.forms),
    some []⟩]

theorem shape_fits : shape.Fits forms where
  fields := by
    refine .cons (.ofDecoder (fun _ _ h => reads_listOf h fun _ _ =>
      ContractEntry.shape.reads_record ContractEntry.shape_fits) ?_ ?_ ?_ ?_) .nil
    all_goals simp [forms, shape]
  distinct := by decide
  ext := by
    rintro ⟨⟩ ⟨⟩ h
    simpa [forms] using h

/-- The sources that write a model file. -/
def IsWritten (file : ModelFile) (source : String) : Prop :=
  ∃ before text after, Blank before ∧ RecordText forms file text ∧ Blank after ∧
    source.toList = before ++ (text ++ after)

/-- Every model file can be written. -/
theorem exists_isWritten (file : ModelFile) : ∃ source, file.IsWritten source := by
  have hcontracts : ∃ text, SequenceText (RecordText ContractEntry.forms) file.contracts text :=
    exists_sequenceText fun contract _ => contract.exists_text
  obtain ⟨text, htext⟩ : ∃ text, RecordText forms file text :=
    exists_recordText shape_fits.distinct (by simpa [forms] using hcontracts)
  exact ⟨.ofList text, [], text, [], blank_nil, htext, blank_nil, by simp⟩

/-- A model file is decoded from every source that writes it, and as it was written. -/
theorem ofJson_of_isWritten {file : ModelFile} {source : String} (h : file.IsWritten source) :
    ofJson source = .ok file := by
  obtain ⟨before, text, after, hbefore, htext, hafter, hsource⟩ := h
  have hreads := shape.reads_record shape_fits htext
  exact decode_of_reads hreads hbefore hafter hsource

/-- The fields of this contract stand in another order, most are left out, its name has an
escape, and the file has a field of another name. -/
theorem ofJson_reordered :
    let file : ModelFile := { contracts := [{ name := "IA" }] }
    let source :=
      "\x7b\"version\": 1, \"contracts\": [\x7b\"members\": [], \"name\": \"I\\u0041\"\x7d]\x7d"
    file.IsWritten source ∧ ofJson source = .ok file := by
  intro file source
  have hblank : Blank [' '] := by simp [Blank, isSpace]
  have hentry (key : String) (value : List Char) (h : ∀ c ∈ key.toList, IsPlain c) :
      ∃ text, StringText key text ∧
        EntryText text value ('"' :: (key.toList ++ ['"']) ++ ':' :: ' ' :: value) :=
    ⟨_, stringText_of_plain h, [], [' '], blank_nil, hblank, rfl⟩
  have hname : StringText "IA" "\"I\\u0041\"".toList := by
    refine ⟨[['I'], ['\\', 'u', '0', '0', '4', '1']], ?_, by rfl⟩
    refine .cons (.plain (by decide)) (.cons (.code ?_) .nil)
    show List.Forall₂ HexDigit [0, 0, 4, 1] ['0', '0', '4', '1']
    simp [HexDigit]
  have hmembers : SequenceText (RecordText MemberEntry.forms) [] "[]".toList :=
    ⟨[], .nil blank_nil, by rfl⟩
  have hcontract : RecordText ContractEntry.forms { name := "IA" }
      "\x7b\"members\": [], \"name\": \"I\\u0041\"\x7d".toList := by
    refine ⟨[("members", "[]".toList), ("name", "\"I\\u0041\"".toList)], ?_, _,
      .cons blank_nil (hentry "members" _ (by simp [IsPlain])) <|
        .cons blank_nil hblank (hentry "name" _ (by simp [IsPlain])) (.nil blank_nil),
      by decide +kernel⟩
    constructor
    · simp [ContractEntry.forms, hmembers, hname, -String.reduceToList, -String.toList_empty]
    · decide
    · simp [ContractEntry.forms]
    · simp [ContractEntry.forms]
  have hcontracts : SequenceText (RecordText ContractEntry.forms) file.contracts
      "[\x7b\"members\": [], \"name\": \"I\\u0041\"\x7d]".toList :=
    ⟨_, .cons blank_nil hcontract (.nil blank_nil), by decide +kernel⟩
  have hversion : IsJson ['1'] := by
    refine ⟨0, .inr (.inr (.inr ⟨[], ['1'], [], [], ?_⟩))⟩
    simp [IsDigits, FractionText, ExponentText, Char.isDigit]
  have hwritten : file.IsWritten source := by
    refine ⟨[], source.toList, [], blank_nil, ?_, blank_nil, by simp⟩
    refine ⟨[("version", ['1']),
      ("contracts", "[\x7b\"members\": [], \"name\": \"I\\u0041\"\x7d]".toList)], ?_, _,
      .cons blank_nil (hentry "version" _ (by simp [IsPlain])) <|
        .cons blank_nil hblank (hentry "contracts" _ (by simp [IsPlain])) (.nil blank_nil),
      by decide +kernel⟩
    constructor
    · simp [forms, hcontracts, -String.reduceToList]
    · decide
    · simp [forms]
    · simp [forms, hversion]
  exact ⟨hwritten, ofJson_of_isWritten hwritten⟩

end ModelFile

end ClassSynthesis
