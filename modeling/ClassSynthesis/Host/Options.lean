import ClassSynthesis.Declaration.Lowering
import ClassSynthesis.Host.Arguments
import ClassSynthesis.Host.Project
import ClassSynthesis.Synthesis.Identifier
import ClassSynthesis.Text.Letter

/-!
# Resolving Options

The options for the generated text come from the project file and from the command line, which
wins. Every value that is given has to be valid, also one that another value overrides.
-/

namespace ClassSynthesis

/-- An option value that is not admitted. -/
inductive OptionError
  /-- The text is not an identifier. -/
  | invalidClassName (value : String)
  /-- The text is an identifier but reserved. -/
  | reservedClassName (value : String)
  /-- The text is no indentation. -/
  | invalidIndent (value : String)
  /-- The text is no line ending. -/
  | invalidNewLine (value : String)
  deriving DecidableEq, Repr

/-- The wording of an option error. -/
def OptionError.message : OptionError → String
  | invalidClassName value => "invalid class name '" ++ value ++ "'"
  | reservedClassName value =>
    "invalid class name '" ++ value ++ "'. '" ++ value ++ "' is a reserved word"
  | invalidIndent value =>
    "invalid indent '" ++ value ++ "'. Expected 'tab' or a positive number of spaces"
  | invalidNewLine value =>
    "invalid newLine '" ++ value ++ "'. Expected 'lf' or 'crlf'"

namespace Identifier

/-- A character that an identifier may start with. -/
def isStart (c : Char) : Bool := Text.isAlphabetic c || c == '_'

/-- A character that may follow in an identifier. -/
def isPart (c : Char) : Bool := Text.isAlphanumeric c || c == '_'

/-- Whether a text is written like an identifier. -/
def isWellFormed (text : String) : Bool :=
  match text.toList with
  | [] => false
  | first :: rest => isStart first && rest.all isPart

end Identifier

/-- The class name a setting stands for: an identifier that is not reserved, blanks around it
being dropped. -/
def classNameOfSetting (setting : String) : Except OptionError String :=
  let name := Text.trim setting
  if !Identifier.isWellFormed name then .error (.invalidClassName name)
  else if Identifier.isReserved name then .error (.reservedClassName name)
  else .ok name

/-- The indentation a setting stands for. -/
def Indent.ofSetting (setting : String) : Except OptionError Indent :=
  match ofSetting? setting with
  | some indent => .ok indent
  | none => .error (.invalidIndent setting)

/-- The line ending a setting stands for. -/
def LineEnding.ofSetting (setting : String) : Except OptionError LineEnding :=
  match ofSetting? setting with
  | some lineEnding => .ok lineEnding
  | none => .error (.invalidNewLine setting)

/-- Option values from one source, as texts. -/
structure OptionSource where
  /-- The name of the generated class. -/
  className : Option String := none
  /-- The indentation. -/
  indent : Option String := none
  /-- The line ending. -/
  newLine : Option String := none
  /-- Whether the header comment is written. -/
  header : Option Bool := none
  deriving DecidableEq, Repr

/-- The option values of a project file. -/
def EmitSettings.optionSource (e : EmitSettings) : OptionSource where
  className := e.className
  indent := e.indent.map IndentSetting.setting
  newLine := e.newLine
  header := e.autoGeneratedHeader

/-- The option values of a command line, which can only leave the header out. -/
def Arguments.optionSource (a : Arguments) : OptionSource where
  className := a.className
  indent := a.indent
  newLine := a.newLine
  header := if a.noHeader then some false else none

namespace RenderOptions

/-- The value of a setting, if it is given, or else the value there is. -/
def choose {α : Type} (read : String → Except OptionError α) (setting : Option String)
    (current : α) : Except OptionError α :=
  match setting with
  | some setting => read setting
  | none => .ok current

/-- Override the options by those that a source gives. The first invalid value is reported,
in the order class name, indentation, line ending. -/
def override (options : RenderOptions) (source : OptionSource) :
    Except OptionError RenderOptions := do
  let className ← choose classNameOfSetting source.className options.className
  let indent ← choose Indent.ofSetting source.indent options.indent
  let lineEnding ← choose LineEnding.ofSetting source.newLine options.lineEnding
  return { className, indent, lineEnding, header := source.header.getD options.header }

/-- The options of a run: those of the project file override the defaults, and those of the
command line override both. -/
def resolve (project : Option EmitSettings) (arguments : Arguments) :
    Except OptionError RenderOptions := do
  let options ← override {} ((project.map EmitSettings.optionSource).getD {})
  override options arguments.optionSource

end RenderOptions

end ClassSynthesis
