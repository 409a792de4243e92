import ClassSynthesis.Json.Record
import ClassSynthesis.Text.Blank
import ClassSynthesis.Text.Lowercase

/-!
# Project Files

A project file names the inputs, the output directory and the options for the generated text.
Everything in it is optional.
-/

namespace ClassSynthesis

/-- The name of a project file in its directory. -/
def projectFileName : String := "implgen.json"

/-- An indentation as a project file writes it. -/
inductive IndentSetting
  /-- A number of spaces below 256. -/
  | width (spaces : Nat)
  /-- A setting in words. -/
  | name (setting : String)
  deriving DecidableEq, Repr

/-- The options for the generated text in a project file. -/
structure EmitSettings where
  /-- The name of the generated class. -/
  className : Option String := none
  /-- The indentation. -/
  indent : Option IndentSetting := none
  /-- The line ending. -/
  newLine : Option String := none
  /-- Whether the header comment is written. -/
  autoGeneratedHeader : Option Bool := none
  deriving DecidableEq, Repr

/-- A project file. -/
structure ProjectConfig where
  /-- Model files and directories with model files. -/
  inputs : List String := []
  /-- The directory for the generated files. -/
  outDir : Option String := none
  /-- The options for the generated text. -/
  emitOptions : Option EmitSettings := none
  deriving DecidableEq, Repr

namespace IndentSetting

/-- The text that the setting stands for. -/
def setting : IndentSetting → String
  | width spaces => toString spaces
  | name setting => setting

/-- An indentation is written as an integer below 256 or as a string. -/
def ofShape? : Json.Shape → Option IndentSetting
  | .integer value => if 0 ≤ value ∧ value < 256 then some (.width value.toNat) else none
  | .string value => some (.name value)
  | _ => none

end IndentSetting

namespace EmitSettings

/-- How many brackets are open around a value of the emit options. -/
def outerNesting : Nat := 2

/-- A value of a setting that may be written in several ways. -/
def freeValue : Json.Decoder Json.Shape := Json.anyValue outerNesting

/-- The indentation that a value stands for. -/
def readIndent (value : Json.Shape) : Except Json.DataError IndentSetting :=
  match IndentSetting.ofShape? value with
  | some setting => .ok setting
  | none => .error (.noMatchingForm "IndentSetting")

/-- The truth value that a text stands for, in any case and with blanks around it. -/
def boolean? (text : String) : Option Bool :=
  let word := Text.lowercaseAll (Text.trim text)
  if ["true", "1", "yes", "on"].contains word then some true
  else if ["false", "0", "no", "off"].contains word then some false
  else none

/-- The truth value that a value stands for: a boolean, or a string for one. -/
def readBoolean (value : Json.Shape) : Except Json.DataError Bool :=
  match value with
  | .boolean b => .ok b
  | .string text =>
    match boolean? text with
    | some b => .ok b
    | none => .error (.invalidBoolean text)
  | _ => .error (.noMatchingForm "BoolOrString")

open Json in
/-- How the emit options are written. -/
def shape : RecordShape EmitSettings where
  name := "EmitOptionsConfig"
  blank := {}
  fields := [
    optional "className" (nullable text) fun e v => { e with className := v },
    optional "indent" (nullable (freeValue.refine readIndent))
      fun e v => { e with indent := v },
    optional "newLine" (nullable text) fun e v => { e with newLine := v },
    optional "autoGeneratedHeader" (nullable (freeValue.refine readBoolean))
      fun e v => { e with autoGeneratedHeader := v }]

end EmitSettings

namespace ProjectConfig

open Json in
/-- How a project file is written. -/
def shape : RecordShape ProjectConfig where
  name := "ProjectConfig"
  blank := {}
  fields := [
    optional "inputs" (listOf text) fun e v => { e with inputs := v },
    optional "outDir" (nullable text) fun e v => { e with outDir := v },
    optional "emitOptions" (nullable EmitSettings.shape.decoder)
      fun e v => { e with emitOptions := v }]

/-- Decode a project file. -/
def ofJson (source : String) : Except JsonError ProjectConfig :=
  Json.decode shape.decoder source

end ProjectConfig

end ClassSynthesis
