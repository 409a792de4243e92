import ClassSynthesis.Contract.ModelFile
import ClassSynthesis.Host.FileAccess
import ClassSynthesis.Host.HostError

/-!
# Inputs

The inputs of a run are model files and directories. A directory stands for every model file
beneath it, in the order of their paths. A file that comes up again, in whatever spelling, is
read only once.

## Main definitions

- `FileReader.modelFiles`: the model files that inputs stand for.
- `FileReader.loadIndex`: the contracts in model files.
- `FileReader.findProject?`: the project of a run.
-/

namespace ClassSynthesis

/-- Whether a file found in a directory is a model file. -/
def isModelPath (path : String) : Bool :=
  Path.extension? path == some "json" && Path.fileName? path != some projectFileName

/-- Paths in the order of their components. -/
def sortPaths (paths : List String) : List String :=
  paths.mergeSort fun a b => (Path.compare a b).isLE

/-- The paths that are not the same as one of those seen or as an earlier one. -/
def withoutRepeats (seen : List String) : List String → List String
  | [] => []
  | path :: rest =>
    if seen.any (Path.same path) then withoutRepeats seen rest
    else path :: withoutRepeats (path :: seen) rest

/-- A project file with the directory that its paths are relative to. -/
structure Project where
  /-- The directory of the project file. -/
  baseDir : String
  /-- What the file says. -/
  config : ProjectConfig
  deriving DecidableEq, Repr

namespace Project

/-- The inputs of a project. -/
def inputs (p : Project) : List String := p.config.inputs.map (Path.join p.baseDir)

/-- The output directory of a project. -/
def outDir (p : Project) : Option String := p.config.outDir.map (Path.join p.baseDir)

end Project

/-- Register parsed model files in order. -/
def ContractIndex.registerFiles (index : ContractIndex) :
    List (String × ModelFile) → Except HostError ContractIndex
  | [] => .ok index
  | (path, model) :: rest =>
    match model.register path index with
    | (.ok _, next) => next.registerFiles rest
    | (.error e, _) => .error (.modelRefused path e)

namespace FileReader

variable {m : Type → Type} [Monad m]

/-- The model files that one input stands for. -/
def expand (files : FileReader m) (input : String) : ExceptT HostError m (List String) := do
  if ← files.isFile input then return [input]
  unless ← files.isDirectory input do throw (.inputNotFound input)
  match ← files.filesBeneath input with
  | .error e => throw (.directoryUnreadable input e)
  | .ok found => return sortPaths (found.filter isModelPath)

/-- The model files that inputs stand for, each one once. -/
def modelFiles (files : FileReader m) (inputs : List String) :
    ExceptT HostError m (List String) := do
  let found ← inputs.mapM files.expand
  return withoutRepeats [] found.flatten

/-- Read and decode a model file. -/
def readModel (files : FileReader m) (path : String) :
    ExceptT HostError m (String × ModelFile) := do
  match ← files.readText path with
  | .error e => throw (.modelUnreadable path e)
  | .ok source =>
    match ModelFile.ofJson source with
    | .error e => throw (.modelMalformed path e)
    | .ok model => return (path, model)

/-- The contracts in model files. All files are decoded before the first is registered. -/
def loadIndex (files : FileReader m) (paths : List String) :
    ExceptT HostError m ContractIndex := do
  let models ← paths.mapM files.readModel
  (ContractIndex.empty.registerFiles models : Except HostError ContractIndex)

/-- Read and decode a project file. -/
def readProject (files : FileReader m) (path : String) : ExceptT HostError m Project := do
  match ← files.readText path with
  | .error e => throw (.projectUnreadable path e)
  | .ok source =>
    match ProjectConfig.ofJson source with
    | .error e => throw (.projectMalformed path e)
    | .ok config => return ⟨(Path.parent? path).getD ".", config⟩

/-- The project file that a path means: the file itself, or the one in the directory. -/
def projectPath (files : FileReader m) (path : String) : ExceptT HostError m String := do
  if ← files.isDirectory path then
    let inside := Path.join path projectFileName
    if ← files.isFile inside then return inside
    throw (.projectMissingIn path)
  if ← files.isFile path then return path
  throw (.projectNotFound path)

/-- The project of a run: the one that is named, or else, when no inputs are given, the
project file of the working directory if there is one. -/
def findProject? (files : FileReader m) (arguments : Arguments) (workingDir : String) :
    ExceptT HostError m (Option Project) := do
  match arguments.project with
  | some project =>
    let path ← files.projectPath (Path.join workingDir project)
    return some (← files.readProject path)
  | none =>
    let path := Path.join workingDir projectFileName
    if arguments.inputs.isEmpty && (← files.isFile path) then
      return some (← files.readProject path)
    else
      return none

end FileReader

end ClassSynthesis
