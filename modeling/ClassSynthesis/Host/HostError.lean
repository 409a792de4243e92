import ClassSynthesis.Contract.ModelError
import ClassSynthesis.Host.FileError
import ClassSynthesis.Host.Options
import ClassSynthesis.Json.Error

/-!
# Errors of a Run

Why a run ends without a result. An error is explained from the outside in: what was being
done, and then the cause.
-/

namespace ClassSynthesis

/-- Why a run ends without a result. -/
inductive HostError
  /-- There is nothing to read. -/
  | noInputs
  /-- An input does not exist. -/
  | inputNotFound (path : String)
  /-- A directory given as an input cannot be searched. -/
  | directoryUnreadable (path : String) (cause : SearchError)
  /-- A project does not exist. -/
  | projectNotFound (path : String)
  /-- A directory given as a project has no project file in it. -/
  | projectMissingIn (directory : String)
  /-- A project file cannot be read. -/
  | projectUnreadable (path : String) (cause : FileError)
  /-- A project file cannot be decoded. -/
  | projectMalformed (path : String) (cause : JsonError)
  /-- A model file cannot be read. -/
  | modelUnreadable (path : String) (cause : FileError)
  /-- A model file cannot be decoded. -/
  | modelMalformed (path : String) (cause : JsonError)
  /-- A model file cannot be registered. -/
  | modelRefused (path : String) (cause : ModelError)
  /-- An option value is not admitted. -/
  | invalidOption (cause : OptionError)
  /-- An output directory cannot be made. -/
  | directoryNotMade (path : String) (cause : FileError)
  /-- A generated file cannot be written. -/
  | fileNotWritten (path : String) (cause : FileError)
  deriving DecidableEq, Repr

/-- One line of an explanation. -/
inductive Explanation
  /-- A text. -/
  | text (message : String)
  /-- What went wrong with a file. -/
  | file (error : FileError)
  /-- What went wrong in a JSON text. -/
  | json (error : JsonError)
  /-- What went wrong in a model. -/
  | model (error : ModelError)
  deriving DecidableEq, Repr

/-- The wording of one line. -/
def Explanation.message : Explanation → String
  | text message => message
  | file error => error.message
  | json error => error.message
  | model error => error.message

/-- The explanation for a project text that cannot be decoded. -/
def explainProjectText (cause : JsonError) : List Explanation :=
  [.text "failed to parse project JSON", .json cause]

namespace HostError

/-- The explanation from the outside in. -/
def explanation : HostError → List Explanation
  | noInputs => [.text "no model inputs given; pass files or directories, or use --project"]
  | inputNotFound path => [.text ("input not found: " ++ path)]
  | directoryUnreadable path cause =>
    [.text ("failed to read directory " ++ path), .text cause.message, .file cause.cause]
  | projectNotFound path => [.text ("project file not found: " ++ path)]
  | projectMissingIn directory =>
    [.text ("cannot find " ++ projectFileName ++ " in " ++ directory)]
  | projectUnreadable path cause =>
    [.text ("failed to read project file: " ++ path), .file cause]
  | projectMalformed path cause =>
    .text ("failed to parse project file: " ++ path) :: explainProjectText cause
  | modelUnreadable path cause => [.text ("failed to read model " ++ path), .file cause]
  | modelMalformed path cause => [.text ("failed to parse model " ++ path), .json cause]
  | modelRefused path cause => [.text ("failed to load model " ++ path), .model cause]
  | invalidOption cause => [.text cause.message]
  | directoryNotMade path cause =>
    [.text ("failed to create directory " ++ path), .file cause]
  | fileNotWritten path cause => [.text ("failed to write " ++ path), .file cause]

/-- The explanation in one line. -/
def message (e : HostError) : String :=
  ": ".intercalate (e.explanation.map Explanation.message)

end HostError

end ClassSynthesis
