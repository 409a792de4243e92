import ClassSynthesis.Host.FileError
import ClassSynthesis.Host.Path
import ClassSynthesis.Text.Replace

/-!
# File Trees

The files and directories of a system, as a value. Below every directory names are distinct,
whatever exists stands in a directory, and everything has a name that the system admits; the type
guarantees all of this. Paths are followed name by name, where `..` leaves the directory reached
so far.

A relative path starts at the root.

## Main definitions

- `FileTree.locate`: what a path leads to.
- `FileTree.readText`, `FileTree.filesBeneath`: reading.
- `FileTree.makeDirectory`, `FileTree.writeFile`: changing.
-/

namespace ClassSynthesis

/-- The place of a file or directory: the names on the way to it from the root. -/
abbrev Location := List String

/-- What stands at a location. -/
inductive FileEntry
  /-- A file with its bytes. -/
  | file (content : ByteArray)
  /-- A directory. -/
  | directory

/-- Files are the same if their bytes are. -/
instance : DecidableEq FileEntry
  | .file ⟨a⟩, .file ⟨b⟩ =>
    if h : a = b then .isTrue (h ▸ rfl)
    else .isFalse fun heq => h (congrArg ByteArray.data (FileEntry.file.inj heq))
  | .file _, .directory => .isFalse nofun
  | .directory, .file _ => .isFalse nofun
  | .directory, .directory => .isTrue rfl

/-- The most bytes that a name may take. -/
def FileTree.maxNameBytes : Nat := 255

/-- A text that a file or a directory can be called: it is not empty, means neither the directory
itself nor the one above, has no slash and no NUL in it and is not too long. -/
def FileTree.IsName (text : String) : Prop :=
  text ≠ "" ∧ text ≠ "." ∧ text ≠ ".." ∧ '/' ∉ text.toList ∧ '\x00' ∉ text.toList ∧
    text.utf8ByteSize ≤ maxNameBytes

instance (text : String) : Decidable (FileTree.IsName text) :=
  inferInstanceAs (Decidable (_ ∧ _))

/-- Files and directories. The root is a directory that is not listed. -/
structure FileTree where
  /-- What there is below the root. -/
  entries : List (Location × FileEntry)
  /-- Every location is listed once. -/
  distinct : (entries.map Prod.fst).Nodup
  /-- Everything stands in a directory. -/
  rooted : ∀ location entry, (location, entry) ∈ entries →
    location ≠ [] ∧ (location.dropLast = [] ∨ (location.dropLast, .directory) ∈ entries)
  /-- Everything has a name that the system admits. -/
  named : ∀ location entry, (location, entry) ∈ entries →
    ∀ name ∈ location, FileTree.IsName name

namespace FileTree

/-- The tree with nothing but its root. -/
def empty : FileTree := ⟨[], by simp, by simp, by simp⟩

/-- What stands at a location. -/
def get? (tree : FileTree) : Location → Option FileEntry
  | [] => some .directory
  | location => tree.entries.lookup location

/-- Looking a key up in a list of pairs with distinct keys finds every pair. -/
private theorem lookup_eq_some_of_mem {entries : List (Location × FileEntry)}
    (distinct : (entries.map Prod.fst).Nodup) {location : Location} {entry : FileEntry}
    (h : (location, entry) ∈ entries) : entries.lookup location = some entry := by
  induction entries with
  | nil => simp at h
  | cons first rest ih =>
    rw [List.map_cons, List.nodup_cons] at distinct
    obtain ⟨key, value⟩ := first
    rcases List.mem_cons.1 h with heq | hmem
    · cases heq
      simp
    · have hne : location ≠ key := fun heq =>
        distinct.1 (heq ▸ List.mem_map.2 ⟨_, hmem, rfl⟩)
      have hbeq : (location == key) = false := by simpa using hne
      rw [List.lookup_cons, hbeq]
      exact ih distinct.2 hmem

/-- A pair that is found is in the list. -/
private theorem mem_of_lookup_eq_some {entries : List (Location × FileEntry)}
    {location : Location} {entry : FileEntry}
    (h : entries.lookup location = some entry) : (location, entry) ∈ entries := by
  induction entries with
  | nil => simp at h
  | cons first rest ih =>
    obtain ⟨key, value⟩ := first
    rw [List.lookup_cons] at h
    split at h
    · next heq =>
      cases h
      rw [beq_iff_eq.1 heq]
      exact List.mem_cons_self
    · exact List.mem_cons_of_mem _ (ih h)

/-- Below the root, something stands at a location exactly when it is listed. -/
theorem get?_eq_some_iff (tree : FileTree) {location : Location} (entry : FileEntry)
    (h : location ≠ []) :
    tree.get? location = some entry ↔ (location, entry) ∈ tree.entries := by
  cases location with
  | nil => exact absurd rfl h
  | cons name names =>
    exact ⟨mem_of_lookup_eq_some, lookup_eq_some_of_mem tree.distinct⟩

/-- Nothing stands at a location that is not listed. -/
private theorem not_mem_of_get?_eq_none {tree : FileTree} {location : Location}
    (h : tree.get? location = none) : location ∉ tree.entries.map Prod.fst := by
  intro hmem
  obtain ⟨⟨found, entry⟩, hentry, rfl⟩ := List.mem_map.1 hmem
  have hne := (tree.rooted _ _ hentry).1
  rw [(tree.get?_eq_some_iff entry hne).2 hentry] at h
  exact absurd h (by simp)

/-- A directory is the root or listed as a directory. -/
private theorem eq_nil_or_mem_of_get? {tree : FileTree} {location : Location}
    (h : tree.get? location = some .directory) :
    location = [] ∨ (location, .directory) ∈ tree.entries := by
  by_cases hnil : location = []
  · exact .inl hnil
  · exact .inr ((tree.get?_eq_some_iff _ hnil).1 h)

/-- Put something where nothing is, inside a directory. -/
def add (tree : FileTree) (directory : Location) (name : String) (entry : FileEntry)
    (admitted : IsName name) (inside : tree.get? directory = some .directory)
    (fresh : tree.get? (directory ++ [name]) = none) : FileTree where
  entries := tree.entries ++ [(directory ++ [name], entry)]
  distinct := by
    rw [List.map_append, List.nodup_append]
    refine ⟨tree.distinct, by simp, ?_⟩
    intro location hlocation other hother heq
    simp only [List.map_cons, List.map_nil, List.mem_singleton] at hother
    rw [heq, hother] at hlocation
    exact not_mem_of_get?_eq_none fresh hlocation
  rooted := by
    intro location found h
    rcases List.mem_append.1 h with h | h
    · obtain ⟨hne, hparent⟩ := tree.rooted _ _ h
      exact ⟨hne, hparent.imp_right (List.mem_append_left _)⟩
    · simp only [List.mem_singleton, Prod.mk.injEq] at h
      obtain ⟨rfl, rfl⟩ := h
      refine ⟨by simp, ?_⟩
      rw [List.dropLast_concat]
      exact (eq_nil_or_mem_of_get? inside).imp_right (List.mem_append_left _)
  named := by
    intro location found h other hother
    rcases List.mem_append.1 h with h | h
    · exact tree.named _ _ h other hother
    · simp only [List.mem_singleton, Prod.mk.injEq] at h
      obtain ⟨rfl, rfl⟩ := h
      rcases List.mem_append.1 hother with hother | hother
      · -- The other names on the way are those of the directory, which is listed itself.
        have hlisted := (eq_nil_or_mem_of_get? inside).resolve_left (List.ne_nil_of_mem hother)
        exact tree.named _ _ hlisted other hother
      · rwa [List.mem_singleton.1 hother]

/-- Put something into a directory under a name that is admitted and free there; otherwise nothing
changes. -/
def insert (tree : FileTree) (directory : Location) (name : String) (entry : FileEntry) :
    FileTree :=
  if h : IsName name ∧ tree.get? directory = some .directory ∧
      tree.get? (directory ++ [name]) = none then
    tree.add directory name entry h.1 h.2.1 h.2.2
  else tree

/-- Changing the content of a file leaves everything in its place. -/
private theorem exists_of_mem_overwritten {entries : List (Location × FileEntry)}
    {location place : Location} {content : ByteArray} {entry : FileEntry}
    (h : (place, entry) ∈ entries.map fun e =>
      if e.1 = location ∧ e.2 ≠ .directory then (e.1, .file content) else e) :
    ∃ old, (place, old) ∈ entries := by
  obtain ⟨⟨found, old⟩, hmem, heq⟩ := List.mem_map.1 h
  have hplace : found = place := by
    split at heq <;> exact congrArg Prod.fst heq
  exact ⟨old, hplace ▸ hmem⟩

/-- Change the content of a file. -/
def overwrite (tree : FileTree) (location : Location) (content : ByteArray) : FileTree where
  entries := tree.entries.map fun e =>
    if e.1 = location ∧ e.2 ≠ .directory then (e.1, .file content) else e
  distinct := by
    have : (tree.entries.map fun e =>
        if e.1 = location ∧ e.2 ≠ .directory then (e.1, .file content) else e).map Prod.fst
        = tree.entries.map Prod.fst := by
      rw [List.map_map]
      apply List.map_congr_left
      intro e _
      simp only [Function.comp_apply]
      split <;> rfl
    rw [this]
    exact tree.distinct
  rooted := by
    intro place entry h
    obtain ⟨old, hmem⟩ := exists_of_mem_overwritten h
    obtain ⟨hne, hparent⟩ := tree.rooted _ _ hmem
    refine ⟨hne, hparent.imp_right fun hdir => List.mem_map.2 ⟨_, hdir, ?_⟩⟩
    simp
  named := by
    intro place entry h
    obtain ⟨old, hmem⟩ := exists_of_mem_overwritten h
    exact tree.named _ _ hmem

/-- The most bytes that a path may take. -/
def maxPathBytes : Nat := 4095

/-- The parts of a path between its slashes, if the system can follow it. -/
def segments (path : String) : Except FileError (List (List Char)) :=
  if path.toList.contains '\x00' then .error .invalidName
  else if path.isEmpty then .error .notFound
  else if path.utf8ByteSize > maxPathBytes then .error .nameTooLong
  else .ok (Text.pieces '/' path.toList)

/-- What stands under a name, inside a directory. -/
def child? (tree : FileTree) (directory : Location) (name : String) :
    Except FileError (Option FileEntry) :=
  match tree.get? directory with
  | some .directory =>
    if name.utf8ByteSize > maxNameBytes then .error .nameTooLong
    else .ok (tree.get? (directory ++ [name]))
  | _ => .error .notADirectory

/-- Follow one part of a path. Every part has to start from a directory, also one that stays
there. -/
def descend (tree : FileTree) (location : Location) (segment : List Char) :
    Except FileError Location :=
  match tree.get? location with
  | some .directory =>
    match Path.Component.ofSegment? segment with
    | some (.name name) => do
      match ← tree.child? location name with
      | some _ => return location ++ [name]
      | none => throw .notFound
    | some .parent => .ok location.dropLast
    | _ => .ok location
  | _ => .error .notADirectory

/-- Follow parts of a path from the root. -/
def follow (tree : FileTree) (parts : List (List Char)) : Except FileError Location :=
  parts.foldlM tree.descend []

/-- The location that a path leads to. -/
def locate (tree : FileTree) (path : String) : Except FileError Location := do
  tree.follow (← segments path)

/-- What a path leads to. -/
def resolve? (tree : FileTree) (path : String) : Option FileEntry :=
  match tree.locate path with
  | .ok location => tree.get? location
  | .error _ => none

/-- Whether a path leads to a file. -/
def isFile (tree : FileTree) (path : String) : Bool :=
  match tree.resolve? path with
  | some (.file _) => true
  | _ => false

/-- Whether a path leads to a directory. -/
def isDirectory (tree : FileTree) (path : String) : Bool :=
  tree.resolve? path == some .directory

/-- The text of the file a path leads to. -/
def readText (tree : FileTree) (path : String) : Except FileError String := do
  let location ← tree.locate path
  match tree.get? location with
  | some (.file content) =>
    match String.fromUTF8? content with
    | some text => return text
    | none => throw .invalidText
  | some .directory => throw .isADirectory
  | none => throw .notFound

/-- The names that lead from a directory to what stands anywhere beneath it. -/
def namesBeneath? (directory location : Location) : Option (List String) :=
  if directory.isPrefixOf location then some (location.drop directory.length) else none

/-- What stands anywhere beneath a directory, each with its path below that of the directory. -/
def beneath (tree : FileTree) (path : String) (directory : Location) :
    List (String × FileEntry) :=
  tree.entries.filterMap fun (location, entry) =>
    (namesBeneath? directory location).map fun names => (names.foldl Path.join path, entry)

/-- The paths of all files beneath the directory that a path leads to. The directories there
are read under their paths, which must not be too long for the system; the files are not. -/
def filesBeneath (tree : FileTree) (path : String) : Except SearchError (List String) :=
  match tree.locate path with
  | .error e => .error ⟨path, e⟩
  | .ok directory =>
    let found := tree.beneath path directory
    match found.find? fun e => e.2 = .directory ∧ e.1.utf8ByteSize > maxPathBytes with
    | some unreadable => .error ⟨unreadable.1, .nameTooLong⟩
    | none => .ok ((found.filter (·.2 ≠ .directory)).map Prod.fst)

/-- The directory that a path is to stand in, with the last part of the path. -/
def split (tree : FileTree) (parts : List (List Char)) :
    Except FileError (Location × List Char) := do
  let directory ← tree.follow parts.dropLast
  match tree.get? directory with
  | some .directory => return (directory, parts.getLast?.getD [])
  | _ => throw .notADirectory

/-- Make a directory. Slashes at the end of the path do not matter. -/
def makeDirectory (tree : FileTree) (path : String) : Except FileError FileTree := do
  let parts ← segments path
  let (directory, last) ← tree.split (parts.reverse.dropWhile List.isEmpty).reverse
  match Path.Component.ofSegment? last with
  | some (.name name) =>
    match ← tree.child? directory name with
    | some _ => throw .alreadyExists
    | none => return tree.insert directory name .directory
  | _ => throw .alreadyExists

/-- Write a file, replacing the one that is there. -/
def writeFile (tree : FileTree) (path : String) (content : ByteArray) :
    Except FileError FileTree := do
  let (directory, last) ← tree.split (← segments path)
  match Path.Component.ofSegment? last with
  | some (.name name) =>
    match ← tree.child? directory name with
    | some .directory => throw .isADirectory
    | some (.file _) => return tree.overwrite (directory ++ [name]) content
    | none => return tree.insert directory name (.file content)
  | _ => throw .isADirectory

/-- The files of a tree that an earlier tree does not have with the same content. -/
def changedFiles (before after : FileTree) : List (Location × ByteArray) :=
  after.entries.filterMap fun (location, entry) =>
    match entry with
    | .file content =>
      if before.get? location = some (.file content) then none else some (location, content)
    | .directory => none

end FileTree

end ClassSynthesis
