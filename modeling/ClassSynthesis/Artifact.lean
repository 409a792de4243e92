import ClassSynthesis.Declaration.Lowering
import ClassSynthesis.Declaration.Printer

/-!
# Artifacts

The file generated for one contract, and a store that keeps files in memory. A file that is
accepted again replaces the earlier text and keeps its place in the order.
-/

namespace ClassSynthesis

/-- A generated file. -/
structure Artifact where
  /-- The qualified name of the contract it implements. -/
  qualifiedName : String
  /-- The name of the file. -/
  fileName : String
  /-- The text of the file. -/
  text : String
  deriving DecidableEq, Repr

namespace Artifact

/-- The file name for a contract: angle brackets become underscores, and the extension for
generated source is added. -/
def fileNameFor (qualifiedName : String) : String :=
  qualifiedName.map (fun c => if c == '<' || c == '>' then '_' else c) ++ ".g.cs"

/-- The file for a synthesized class. The options should choose the class name that the
class was synthesized under. -/
def ofClass (c : SynthesizedClass) (options : RenderOptions) : Artifact where
  qualifiedName := c.name.qualified
  fileName := fileNameFor c.name.qualified
  text := options.toLayout.print (c.nodes options)

end Artifact

/-- Files kept in memory, in the order in which they were first accepted. -/
structure ArtifactStore where
  /-- File names with their texts. -/
  files : List (String × String)
  deriving DecidableEq, Repr

namespace ArtifactStore

/-- The store without files. -/
def empty : ArtifactStore := ⟨[]⟩

/-- The names of the files, in the order of first acceptance. -/
def fileNames (store : ArtifactStore) : List String := store.files.map (·.1)

/-- The number of files. -/
def size (store : ArtifactStore) : Nat := store.files.length

/-- Whether there are no files. -/
def isEmpty (store : ArtifactStore) : Bool := store.files.isEmpty

/-- The text of a file. -/
def get? (store : ArtifactStore) (fileName : String) : Option String :=
  store.files.lookup fileName

/-- Set the text of a file in place, or add the file at the end. -/
def put (fileName text : String) : List (String × String) → List (String × String)
  | [] => [(fileName, text)]
  | file :: rest =>
    if file.1 = fileName then (fileName, text) :: rest else file :: put fileName text rest

/-- Accept an artifact. -/
def accept (store : ArtifactStore) (artifact : Artifact) : ArtifactStore :=
  ⟨put artifact.fileName artifact.text store.files⟩

end ArtifactStore

end ClassSynthesis
