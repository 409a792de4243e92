/-!
# File Errors

Why an operation on files fails, in the words of the operating system.
-/

namespace ClassSynthesis

/-- A failed operation on files. -/
inductive FileError
  /-- A part of the path does not exist. -/
  | notFound
  /-- A part of the path that has to be a directory is a file. -/
  | notADirectory
  /-- The path is a directory where a file is wanted. -/
  | isADirectory
  /-- The path exists where nothing may be. -/
  | alreadyExists
  /-- A name, or the path as a whole, is longer than the system admits. -/
  | nameTooLong
  /-- The path holds a character that no path can have. -/
  | invalidName
  /-- The content of a file is not a text. -/
  | invalidText
  /-- Anything else, as the system puts it. -/
  | other (message : String)
  deriving DecidableEq, Repr

/-- The wording of a file error. -/
def FileError.message : FileError → String
  | notFound => "No such file or directory (os error 2)"
  | notADirectory => "Not a directory (os error 20)"
  | isADirectory => "Is a directory (os error 21)"
  | alreadyExists => "File exists (os error 17)"
  | nameTooLong => "File name too long (os error 36)"
  | invalidName => "file name contained an unexpected NUL byte"
  | invalidText => "stream did not contain valid UTF-8"
  | other message => message

/-- Why a directory cannot be searched: it, or a directory beneath it, cannot be read. -/
structure SearchError where
  /-- The path that the directory is read under. -/
  path : String
  /-- What went wrong there. -/
  cause : FileError
  deriving DecidableEq, Repr

/-- The wording of a search error. -/
def SearchError.message (e : SearchError) : String :=
  "IO error for operation on " ++ e.path ++ ": " ++ e.cause.message

end ClassSynthesis
