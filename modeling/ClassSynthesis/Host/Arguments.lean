/-!
# Command-Line Arguments

The arguments of the program are read from left to right. An option that takes a value waits
for it, and the waiting option is settled when the next item makes clear that its value is
complete; the checks of the value are made at that moment. An unknown option, and a value
attached to a switch, are reported at once, before what is waiting is looked at.

## Main definitions

- `Arguments`: what the command line asks for.
- `Arguments.parse`: the arguments, or the first reason why they are not run.
-/

namespace ClassSynthesis

/-- Why a command line is not run. -/
inductive ArgumentStop
  /-- An option that does not exist. -/
  | unknownOption
  /-- A value that is missing or not admitted. -/
  | invalidValue
  /-- An option that may be given once is given again. -/
  | repeatedOption
  /-- A value is attached to a switch. -/
  | unexpectedValue
  /-- The help text is asked for. -/
  | helpRequested
  /-- The version is asked for. -/
  | versionRequested
  deriving DecidableEq, Repr

/-- What the command line asks for. -/
structure Arguments where
  /-- Model files and directories with model files. -/
  inputs : List String := []
  /-- The project file, or the directory it is in. -/
  project : Option String := none
  /-- The directory for the generated files. -/
  outDir : Option String := none
  /-- Write no files. -/
  noEmit : Bool := false
  /-- List the files written. -/
  listEmittedFiles : Bool := false
  /-- The name of the generated class. -/
  className : Option String := none
  /-- The indentation setting. -/
  indent : Option String := none
  /-- The line ending setting. -/
  newLine : Option String := none
  /-- Leave the header comment out. -/
  noHeader : Bool := false
  /-- Whether the report may be coloured; absent when it is left to the program. -/
  pretty : Option Bool := none
  deriving DecidableEq, Repr

/-- The options that take a value. -/
inductive ValueOption
  | project
  | outDir
  | className
  | indent
  | newLine
  | pretty
  deriving DecidableEq, Repr

/-- The options that take none. -/
inductive Switch
  | noEmit
  | listEmittedFiles
  | noHeader
  deriving DecidableEq, Repr

/-- What an option name stands for. -/
inductive OptionName
  | value (option : ValueOption)
  | switch (switch : Switch)
  | help
  | version
  deriving DecidableEq, Repr

/-- The names behind two dashes. Names are exact and may not be shortened. -/
def OptionName.longNames : List (String × OptionName) := [
  ("project", .value .project),
  ("outDir", .value .outDir),
  ("out-dir", .value .outDir),
  ("noEmit", .switch .noEmit),
  ("no-emit", .switch .noEmit),
  ("listEmittedFiles", .switch .listEmittedFiles),
  ("list-emitted-files", .switch .listEmittedFiles),
  ("className", .value .className),
  ("class-name", .value .className),
  ("indent", .value .indent),
  ("newLine", .value .newLine),
  ("new-line", .value .newLine),
  ("noHeader", .switch .noHeader),
  ("no-header", .switch .noHeader),
  ("pretty", .value .pretty),
  ("help", .help),
  ("version", .version)]

/-- The letters behind one dash. -/
def OptionName.letters : List (Char × OptionName) := [
  ('p', .value .project),
  ('h', .help),
  ('V', .version)]

namespace Arguments

/-- Set an option that has not been given before. -/
def setOnce {α : Type} (current : Option α) (value : α) : Except ArgumentStop (Option α) :=
  if current.isSome then .error .repeatedOption else .ok (some value)

/-- Set an option to a path that has not been given before. A path may not be empty. -/
def setPath (current : Option String) (value : String) :
    Except ArgumentStop (Option String) :=
  match setOnce current value with
  | .ok path => if value.isEmpty then .error .invalidValue else .ok path
  | .error e => .error e

/-- Set an option to a truth value that has not been given before. -/
def setFlag (current : Option Bool) (value : String) : Except ArgumentStop (Option Bool) :=
  match current, value with
  | some _, _ => .error .repeatedOption
  | none, "true" => .ok (some true)
  | none, "false" => .ok (some false)
  | none, _ => .error .invalidValue

/-- Give an option a value. -/
def assign (a : Arguments) (option : ValueOption) (value : String) :
    Except ArgumentStop Arguments :=
  match option with
  | .project => (setPath a.project value).map fun v => { a with project := v }
  | .outDir => (setPath a.outDir value).map fun v => { a with outDir := v }
  | .className => (setOnce a.className value).map fun v => { a with className := v }
  | .indent => (setOnce a.indent value).map fun v => { a with indent := v }
  | .newLine => (setOnce a.newLine value).map fun v => { a with newLine := v }
  | .pretty => (setFlag a.pretty value).map fun v => { a with pretty := v }

/-- Turn a switch on that has not been turned on before. -/
def turnOn (a : Arguments) : Switch → Except ArgumentStop Arguments
  | .noEmit => if a.noEmit then .error .repeatedOption else .ok { a with noEmit := true }
  | .listEmittedFiles =>
    if a.listEmittedFiles then .error .repeatedOption
    else .ok { a with listEmittedFiles := true }
  | .noHeader =>
    if a.noHeader then .error .repeatedOption else .ok { a with noHeader := true }

/-- Add inputs, none of which may be empty. -/
def addInputs (a : Arguments) (paths : List String) : Except ArgumentStop Arguments :=
  if paths.any String.isEmpty then .error .invalidValue
  else .ok { a with inputs := a.inputs ++ paths }

end Arguments

/-- Items of the command line that are not settled yet. -/
inductive PendingItem
  /-- Nothing is waiting. -/
  | nothing
  /-- Inputs that follow one another. -/
  | inputs (paths : List String)
  /-- An option that waits for its value. -/
  | awaiting (option : ValueOption)
  /-- An option with its value. -/
  | given (option : ValueOption) (value : String)
  deriving DecidableEq, Repr

/-- A command line being read. -/
structure ArgumentScan where
  /-- What has been settled. -/
  settled : Arguments := {}
  /-- What is waiting. -/
  pending : PendingItem := .nothing
  /-- Whether everything further is an input. -/
  optionsEnded : Bool := false
  deriving DecidableEq, Repr

namespace ArgumentScan

/-- The value an option has when none is given. -/
def absentValue? : ValueOption → Option String
  | .pretty => some "true"
  | _ => none

/-- Settle what is waiting. -/
def settle (s : ArgumentScan) : Except ArgumentStop Arguments :=
  match s.pending with
  | .nothing => .ok s.settled
  | .inputs paths => s.settled.addInputs paths
  | .awaiting option =>
    match absentValue? option with
    | some value => s.settled.assign option value
    | none => .error .invalidValue
  | .given option value => s.settled.assign option value

/-- Go on with what is settled and something new that waits. -/
def await (s : ArgumentScan) (pending : PendingItem) : Except ArgumentStop ArgumentScan :=
  s.settle.map fun settled => { s with settled, pending }

/-- Read an input. Inputs that follow one another are settled together. -/
def input (s : ArgumentScan) (path : String) : Except ArgumentStop ArgumentScan :=
  match s.pending with
  | .inputs paths => .ok { s with pending := .inputs (paths ++ [path]) }
  | _ => s.await (.inputs [path])

/-- Read a word without a dash in front: the value that an option waits for, or an input. -/
def word (s : ArgumentScan) (text : String) : Except ArgumentStop ArgumentScan :=
  match s.pending with
  | .awaiting option => .ok { s with pending := .given option text }
  | _ => s.input text

/-- Read an option with the value attached to it, if there is one. -/
def option (s : ArgumentScan) (name : OptionName) (attached : Option String) :
    Except ArgumentStop ArgumentScan :=
  match name, attached with
  | .value option, none => s.await (.awaiting option)
  | .value option, some value => do
    let settled ← s.settle
    return { s with settled := ← settled.assign option value, pending := .nothing }
  | _, some _ => .error .unexpectedValue
  | .switch switch, none => do
    let settled ← s.settle
    return { s with settled := ← settled.turnOn switch, pending := .nothing }
  | .help, none => s.settle.bind fun _ => .error .helpRequested
  | .version, none => s.settle.bind fun _ => .error .versionRequested

/-- Read a name behind two dashes, with what follows the first equals sign as its value. -/
def long (s : ArgumentScan) (text : List Char) : Except ArgumentStop ArgumentScan :=
  let name := String.ofList (text.takeWhile (· != '='))
  let attached := match text.dropWhile (· != '=') with
    | [] => none
    | _ :: value => some (String.ofList value)
  match OptionName.longNames.lookup name with
  | some found => s.option found attached
  | none => .error .unknownOption

/-- Read a letter behind one dash. The rest of the word is the value, one equals sign between
them not counting, if the option takes one. -/
def short (s : ArgumentScan) (letter : Char) (rest : List Char) :
    Except ArgumentStop ArgumentScan :=
  match OptionName.letters.lookup letter with
  | some (.value option) =>
    let attached := match rest with
      | [] => none
      | '=' :: value => some (String.ofList value)
      | value => some (String.ofList value)
    s.option (.value option) attached
  | some name => s.option name none
  | none => .error .unknownOption

/-- Read the next word of the command line. A single dash is a word like any other. -/
def next (s : ArgumentScan) (text : String) : Except ArgumentStop ArgumentScan :=
  if s.optionsEnded then s.input text
  else match text.toList with
    | ['-', '-'] => .ok { s with optionsEnded := true }
    | '-' :: '-' :: name => s.long name
    | '-' :: letter :: rest => s.short letter rest
    | _ => s.word text

end ArgumentScan

/-- Read a command line. The first problem from the left is reported. -/
def Arguments.parse (words : List String) : Except ArgumentStop Arguments := do
  let scan ← words.foldlM ArgumentScan.next {}
  scan.settle

end ClassSynthesis
