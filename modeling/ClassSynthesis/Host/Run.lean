import ClassSynthesis.Diagnostic.Report
import ClassSynthesis.Generation
import ClassSynthesis.Host.Inputs

/-!
# A Run of the Program

A run reads its project and its models, generates, and writes the files. Everything that can
be wrong with the inputs or the options comes out before the first file is written.

## Main definitions

- `FileReader.prepare`: everything up to the writing.
- `FileWriter.writeAll`: the writing.
- `Run.ofTree`: a run in a file tree.
- `Console.ofRun`, `Console.ofError`: what the program answers.
-/

namespace ClassSynthesis

/-- A file to be written. -/
structure OutputFile where
  /-- The path. -/
  path : String
  /-- The text. -/
  text : String
  deriving DecidableEq, Repr

/-- A run up to the writing of its files. -/
structure PreparedRun where
  /-- What was generated. -/
  generation : Generation
  /-- The model files read. -/
  filesRead : List String
  /-- The files to be written, in order. -/
  outputs : List OutputFile
  deriving DecidableEq, Repr

/-- A finished run. -/
structure Run where
  /-- What was generated. -/
  generation : Generation
  /-- The model files read. -/
  filesRead : List String
  /-- The files written, in order. -/
  emittedFiles : List String
  deriving DecidableEq, Repr

/-- Status of the program when everything was generated. -/
def exitSuccess : Nat := 0

/-- Status of the program when some contracts failed and have no output. -/
def exitOutputsSkipped : Nat := 1

/-- Status of the program when the arguments, the project or the models are wrong. -/
def exitUsage : Nat := 2

namespace Run

/-- Everything that was found. -/
def diagnostics (r : Run) : List Diagnostic := r.generation.allDiagnostics

/-- Whether an error was found. -/
def hasErrors (r : Run) : Bool := r.diagnostics.any Diagnostic.isError

/-- The status of the program. -/
def exitCode (r : Run) : Nat := if r.hasErrors then exitOutputsSkipped else exitSuccess

end Run

namespace Arguments

/-- The inputs of a run: those given, or else those of the project. -/
def inputPaths (a : Arguments) (workingDir : String) (project : Option Project) :
    List String :=
  if a.inputs.isEmpty then (project.map Project.inputs).getD []
  else a.inputs.map (Path.join workingDir)

/-- The directory for the generated files: the one given, or else the one that the project
names, or else the directory of the project or the working directory. -/
def outputDir (a : Arguments) (workingDir : String) (project : Option Project) : String :=
  match a.outDir, project.bind Project.outDir with
  | some dir, _ => Path.join workingDir dir
  | none, some dir => dir
  | none, none => (project.map (·.baseDir)).getD workingDir

end Arguments

/-- The generated files under an output directory. -/
def Generation.outputFiles (g : Generation) (outputDir : String) : List OutputFile :=
  g.artifacts.map fun a => ⟨Path.join outputDir a.fileName, a.text⟩

/-- Do everything up to the writing. -/
def FileReader.prepare {m : Type → Type} [Monad m] (files : FileReader m)
    (arguments : Arguments) (workingDir : String) : ExceptT HostError m PreparedRun := do
  let project ← files.findProject? arguments workingDir
  let inputs := arguments.inputPaths workingDir project
  if inputs.isEmpty then throw .noInputs
  let filesRead ← files.modelFiles inputs
  let index ← files.loadIndex filesRead
  match RenderOptions.resolve (project.bind (·.config.emitOptions)) arguments with
  | .error e => throw (.invalidOption e)
  | .ok options =>
    let generation := index.generate options
    let outputs :=
      if arguments.noEmit then []
      else generation.outputFiles (arguments.outputDir workingDir project)
    return { generation, filesRead, outputs }

namespace FileWriter

variable {m : Type → Type} [Monad m]

/-- Write a file into its directory, which is made if it does not exist. -/
def writeOutput (files : FileWriter m) (output : OutputFile) : ExceptT HostError m Unit := do
  if let some directory := Path.parent? output.path then
    if let .error e ← files.createDirectories directory then
      throw (.directoryNotMade directory e)
  if let .error e ← files.writeText output.path output.text then
    throw (.fileNotWritten output.path e)

/-- Write files in order; the first failure ends it. -/
def writeAll (files : FileWriter m) (outputs : List OutputFile) :
    ExceptT HostError m Unit :=
  outputs.forM files.writeOutput

end FileWriter

namespace Run

/-- The run whose files have been written. -/
def ofPrepared (p : PreparedRun) : Run :=
  ⟨p.generation, p.filesRead, p.outputs.map (·.path)⟩

/-- A run in a file tree, with the tree as it is afterwards. -/
def ofTree (tree : FileTree) (arguments : Arguments) (workingDir : String) :
    Except HostError Run × FileTree :=
  match (tree.reader.prepare arguments workingDir).run with
  | .error e => (.error e, tree)
  | .ok prepared =>
    let (written, after) := (FileTree.writer.writeAll prepared.outputs).run.run tree
    (written.map fun _ => ofPrepared prepared, after)

end Run

/-- What the program leaves in its terminal. -/
structure Console where
  /-- The status. -/
  code : Nat
  /-- The text on standard output. -/
  stdout : String
  /-- The text on standard error. -/
  stderr : String
  deriving DecidableEq, Repr

/-- What the program knows of its terminal. -/
structure Terminal where
  /-- Standard error goes to a terminal. -/
  stderrIsTerminal : Bool := false
  /-- Standard output goes to a terminal. -/
  stdoutIsTerminal : Bool := false
  /-- The variable that forces colours. -/
  forceColors : Option String := none
  /-- The variable that forbids colours. -/
  noColors : Option String := none
  /-- The variable that allows colours. -/
  allowColors : Option String := none
  deriving DecidableEq, Repr

/-- Whether styles are shown. A variable is on unless it is zero; force comes before
prohibition, and without either a terminal decides, unless colours are not allowed. -/
def Terminal.showsColors (t : Terminal) : Bool :=
  let isOn := fun (value : String) => value != "0"
  if (t.forceColors.map isOn).getD false then true
  else if t.noColors.isSome then false
  else (t.allowColors.map isOn).getD true && t.stdoutIsTerminal

namespace Console

/-- The answer to a finished run: the files written, if they are to be listed, and the
report. -/
def ofRun (r : Run) (arguments : Arguments) (terminal : Terminal) : Console :=
  let colors := arguments.pretty.getD terminal.stderrIsTerminal && terminal.showsColors
  { code := r.exitCode
    stdout :=
      if arguments.listEmittedFiles then String.join (r.emittedFiles.map (· ++ "\n")) else ""
    stderr := Report.render colors r.diagnostics }

/-- The answer to a run without a result. -/
def ofError (e : HostError) : Console where
  code := exitUsage
  stdout := ""
  stderr := "error: " ++ e.message ++ "\n"

/-- The answer to a run. -/
def ofResult (result : Except HostError Run) (arguments : Arguments) (terminal : Terminal) :
    Console :=
  match result with
  | .ok r => ofRun r arguments terminal
  | .error e => ofError e

end Console

end ClassSynthesis
