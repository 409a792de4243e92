import ClassSynthesis.Host.Run

/-!
# The Program

The program reads and writes the files of the system it runs in. What it does there is decided
by `FileReader.prepare` and `FileWriter.writeAll`; this module only carries it out.
-/

namespace ClassSynthesis.Main

/-- The error that has a number of its own in the system. -/
def numberedError? : UInt32 → Option FileError
  | 20 => some .notADirectory
  | 21 => some .isADirectory
  | 36 => some .nameTooLong
  | _ => none

/-- The error that an operation of the system reports. -/
def fileError (e : IO.Error) : FileError :=
  match e with
  | .noFileOrDirectory _ _ _ => .notFound
  | .alreadyExists _ _ _ => .alreadyExists
  | .inappropriateType _ code _ => (numberedError? code).getD (.other (toString e))
  | .invalidArgument _ code _ => (numberedError? code).getD (.other (toString e))
  | _ => .other (toString e)

/-- Run an operation of the system and keep its error. -/
def attempt {α : Type} (action : IO α) : IO (Except FileError α) := do
  try return .ok (← action)
  catch e => return .error (fileError e)

/-- Whether a path leads to something of the given type. -/
def leadsTo (path : String) (type : IO.FS.FileType) : IO Bool := do
  match ← (System.mkFilePath [path]).metadata.toBaseIO with
  | .ok metadata => return metadata.type == type
  | .error _ => return false

/-- Run an operation of the system in a search and keep its error, with the path it is about. -/
def attemptAt {α : Type} (path : String) (action : IO α) : ExceptT SearchError IO α :=
  ExceptT.mk do return (← attempt action).mapError (SearchError.mk path)

/-- The paths of the files beneath a directory, down to the given depth. What is only linked
to from there does not count. -/
def filesWithin : Nat → String → ExceptT SearchError IO (List String)
  | 0, _ => return []
  | depth + 1, directory => do
    let entries ← attemptAt directory (System.mkFilePath [directory]).readDir
    let found ← entries.toList.mapM fun entry => do
      let path := Path.join directory entry.fileName
      match (← attemptAt path (System.mkFilePath [path]).symlinkMetadata).type with
      | .file => return [path]
      | .dir => filesWithin depth path
      | _ => return []
    return found.flatten

/-- Reading in the system. A path has fewer names than bytes, so no directory is too deep to
be searched. -/
def reader : FileReader IO where
  isFile path := leadsTo path .file
  isDirectory path := leadsTo path .dir
  readText path := do
    match ← attempt (IO.FS.readBinFile path) with
    | .error e => return .error e
    | .ok content => return (String.fromUTF8? content).elim (.error .invalidText) .ok
  filesBeneath path := (filesWithin FileTree.maxPathBytes path).run

/-- Writing in the system. -/
def writer : FileWriter IO where
  isDirectory path := leadsTo path .dir
  makeDirectory path := attempt (IO.FS.createDir path)
  writeText path text := attempt (IO.FS.writeFile path text)

/-- A run in the working directory. -/
def run (arguments : Arguments) : IO (Except HostError Run) := do
  let workingDir ← IO.currentDir
  match ← (reader.prepare arguments workingDir.toString).run with
  | .error e => return .error e
  | .ok prepared =>
    let written ← (writer.writeAll prepared.outputs).run
    return written.map fun _ => Run.ofPrepared prepared

/-- What is known of the terminal. -/
def terminal : IO Terminal := do
  return {
    stderrIsTerminal := ← (← IO.getStderr).isTty
    stdoutIsTerminal := ← (← IO.getStdout).isTty
    forceColors := ← IO.getEnv "CLICOLOR_FORCE"
    noColors := ← IO.getEnv "NO_COLOR"
    allowColors := ← IO.getEnv "CLICOLOR" }

/-- How the program is called. -/
def usage : String := "Usage: implgen [OPTIONS] [INPUT]...

Arguments:
  [INPUT]...                   Model files, or directories searched for model files

Options:
  -p, --project <PROJECT>      Project file, or the directory it is in
      --outDir <DIRECTORY>     Directory for the generated files
      --noEmit                 Write no files
      --listEmittedFiles       Print the path of every written file
      --className <NAME>       Name of the class nested in each contract
      --indent <INDENT>        tab, or a number of spaces
      --newLine <NEW_LINE>     lf or crlf
      --noHeader               Omit the header comment
      --pretty [<PRETTY>]      Colour the report: true or false
  -h, --help                   Print help
  -V, --version                Print version
"

/-- What is said about a command line that is not run. -/
def stopMessage : ArgumentStop → String
  | .unknownOption => "error: unexpected argument found\n\n" ++ usage
  | .invalidValue => "error: a value is missing or invalid\n\n" ++ usage
  | .repeatedOption => "error: an argument cannot be used multiple times\n\n" ++ usage
  | .unexpectedValue => "error: unexpected value for an argument\n\n" ++ usage
  | .helpRequested => usage
  | .versionRequested => "implgen 0.1.0\n"

/-- The answer to a command line that is not run. -/
def stopped (stop : ArgumentStop) : Console :=
  match stop with
  | .helpRequested | .versionRequested => ⟨exitSuccess, stopMessage stop, ""⟩
  | _ => ⟨exitUsage, "", stopMessage stop⟩

end ClassSynthesis.Main

open ClassSynthesis in
/-- Run the program on its command line. -/
def main (words : List String) : IO UInt32 := do
  let console ← match Arguments.parse words with
    | .error stop => pure (Main.stopped stop)
    | .ok arguments => do
      let result ← Main.run arguments
      pure (Console.ofResult result arguments (← Main.terminal))
  IO.print console.stdout
  IO.eprint console.stderr
  return console.code.toUInt32
