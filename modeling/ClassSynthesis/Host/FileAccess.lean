import ClassSynthesis.Host.FileTree

/-!
# Access to Files

The operations on files that a run needs, in whatever system the files are. Reading and
writing are apart, so what only reads cannot change anything. A file tree is such a system.
-/

namespace ClassSynthesis

/-- A system of files that can be read. -/
structure FileReader (m : Type → Type) where
  /-- Whether a path leads to a file. -/
  isFile : String → m Bool
  /-- Whether a path leads to a directory. -/
  isDirectory : String → m Bool
  /-- The text of a file. -/
  readText : String → m (Except FileError String)
  /-- The paths of all files beneath a directory, in any order. -/
  filesBeneath : String → m (Except SearchError (List String))

/-- A system of files that can be written. -/
structure FileWriter (m : Type → Type) where
  /-- Whether a path leads to a directory. -/
  isDirectory : String → m Bool
  /-- Make a directory inside one that exists. -/
  makeDirectory : String → m (Except FileError Unit)
  /-- Write a file, replacing the one that is there. -/
  writeText : String → String → m (Except FileError Unit)

namespace FileWriter

variable {m : Type → Type} [Monad m]

/-- Make a directory, unless it exists. -/
def ensureDirectory (files : FileWriter m) (path : String) : m (Except FileError Unit) := do
  match ← files.makeDirectory path with
  | .ok () => return .ok ()
  | .error e => return if ← files.isDirectory path then .ok () else .error e

/-- Make the first of some paths a directory, each of which stands in the next. Those that do
not exist are made first. -/
def ensureChain (files : FileWriter m) : List String → m (Except FileError Unit)
  | [] => return .error .notFound
  | path :: above => do
    if path.isEmpty then return .ok ()
    match ← files.makeDirectory path with
    | .ok () => return .ok ()
    | .error .notFound =>
      match ← files.ensureChain above with
      | .ok () => files.ensureDirectory path
      | .error e => return .error e
    | .error e => return if ← files.isDirectory path then .ok () else .error e

/-- Make a directory and the directories above it, as far as they do not exist. -/
def createDirectories (files : FileWriter m) (path : String) : m (Except FileError Unit) :=
  files.ensureChain (Path.ancestors path)

end FileWriter

namespace FileTree

/-- Reading in a file tree. -/
def reader (tree : FileTree) : FileReader Id where
  isFile path := tree.isFile path
  isDirectory path := tree.isDirectory path
  readText path := tree.readText path
  filesBeneath path := tree.filesBeneath path

/-- Take over a changed tree. After an error the tree is as before. -/
def become (tree : FileTree) : Except FileError FileTree → Except FileError Unit × FileTree
  | .ok changed => (.ok (), changed)
  | .error e => (.error e, tree)

/-- Writing in a file tree. -/
def writer : FileWriter (StateM FileTree) where
  isDirectory path := fun tree => (tree.isDirectory path, tree)
  makeDirectory path := fun tree => tree.become (tree.makeDirectory path)
  writeText path text := fun tree => tree.become (tree.writeFile path text.toUTF8)

end FileTree

end ClassSynthesis
