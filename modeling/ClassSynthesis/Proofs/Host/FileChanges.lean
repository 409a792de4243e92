import ClassSynthesis.Host.FileAccess
import ClassSynthesis.Proofs.Host.Path
import Mathlib.Data.List.Induction
import Mathlib.Data.List.TakeWhile

/-!
# Changes in a File Tree

What a successful operation changes is one location: making a directory adds a directory where
nothing was (`FileTree.makeDirectory_spec`), and writing a file puts a file into a directory
(`FileTree.writeFile_spec`). What exists goes on to exist, and directories stay directories
(`FileTree.Keeps`), so a path that could be followed leads to the same location afterwards
(`FileTree.Keeps.follow`).

Making a directory with those above it only adds directories, each at a location to which one
of the paths leads (`FileTree.OnlyAdds.createDirectories`).
-/

namespace ClassSynthesis

/-- Two steps that may fail succeed together when both succeed. -/
theorem bind_eq_ok_iff {ε α β : Type} {x : Except ε α} {f : α → Except ε β} {b : β} :
    x >>= f = .ok b ↔ ∃ a, x = .ok a ∧ f a = .ok b := by
  cases x with
  | error e =>
    refine iff_of_false (fun h => ?_) (by simp)
    cases h
  | ok a => simp only [Except.ok.injEq, exists_eq_left']; rfl

namespace FileTree

variable {tree after : FileTree} {location directory : Location} {name : String}

theorem get?_append_name (tree : FileTree) (directory : Location) (name : String) :
    tree.get? (directory ++ [name]) = tree.entries.lookup (directory ++ [name]) := by
  cases directory <;> rfl

theorem get?_add {entry : FileEntry} (admitted : IsName name)
    (inside : tree.get? directory = some .directory)
    (fresh : tree.get? (directory ++ [name]) = none) (other : Location) :
    (tree.add directory name entry admitted inside fresh).get? other =
      if other = directory ++ [name] then some entry else tree.get? other := by
  cases other with
  | nil => simp [get?]
  | cons first rest =>
    show (tree.entries ++ [(directory ++ [name], entry)]).lookup (first :: rest) = _
    rw [List.lookup_append]
    by_cases h : first :: rest = directory ++ [name]
    · rw [get?_append_name] at fresh
      rw [h, fresh, if_pos rfl]
      simp
    · rw [if_neg h, List.lookup_cons, beq_eq_false_iff_ne.2 h]
      exact Option.or_none

/-- Something new is put into a directory, and nothing else changes. -/
theorem get?_insert {entry : FileEntry} (admitted : IsName name)
    (inside : tree.get? directory = some .directory)
    (fresh : tree.get? (directory ++ [name]) = none) (other : Location) :
    (tree.insert directory name entry).get? other =
      if other = directory ++ [name] then some entry else tree.get? other := by
  rw [insert, dif_pos ⟨admitted, inside, fresh⟩, get?_add]

private theorem lookup_map_snd {entries : List (Location × FileEntry)}
    (change : Location → FileEntry → FileEntry) (location : Location) :
    (entries.map fun e => (e.1, change e.1 e.2)).lookup location =
      (entries.lookup location).map (change location) := by
  induction entries with
  | nil => rfl
  | cons e rest ih =>
    rw [List.map_cons, List.lookup_cons, List.lookup_cons, ih]
    by_cases h : location = e.1
    · simp [h]
    · simp [beq_eq_false_iff_ne.2 h]

/-- The content of a file is changed, and nothing else. -/
theorem get?_overwrite {content old : ByteArray} (h : tree.get? location = some (.file old))
    (other : Location) :
    (tree.overwrite location content).get? other =
      if other = location then some (.file content) else tree.get? other := by
  have hchange : (tree.overwrite location content).entries = tree.entries.map fun e =>
      (e.1, if e.1 = location ∧ e.2 ≠ .directory then .file content else e.2) := by
    refine List.map_congr_left fun e _ => ?_
    split <;> rfl
  have hne : location ≠ [] := by
    rintro rfl
    cases h
  cases other with
  | nil => rw [if_neg hne.symm]; rfl
  | cons first rest =>
    show (tree.overwrite location content).entries.lookup (first :: rest) = _
    rw [hchange, lookup_map_snd fun found entry =>
      if found = location ∧ entry ≠ .directory then .file content else entry]
    show (tree.get? (first :: rest)).map _ = _
    by_cases hlocation : first :: rest = location
    · rw [hlocation, h]
      simp
    · simp [hlocation]

/-! ## Following paths -/

/-- What stands under a name is found in a directory, if the name is not too long. -/
theorem child?_eq_ok_iff {child : Option FileEntry} :
    tree.child? directory name = .ok child ↔
      tree.get? directory = some .directory ∧ name.utf8ByteSize ≤ maxNameBytes ∧
        tree.get? (directory ++ [name]) = child := by
  unfold child?
  split
  next hdirectory =>
    by_cases hsize : name.utf8ByteSize > maxNameBytes
    · simp [hsize]
    · simp [hsize, hdirectory, Nat.le_of_not_lt hsize]
  next hdirectory => exact iff_of_false nofun fun h => hdirectory h.1

/-- What a part of a path stands for decides where it leads from a directory. -/
theorem descend_eq_ok_iff {segment : List Char} {next : Location} :
    tree.descend location segment = .ok next ↔
      tree.get? location = some .directory ∧
        match Path.Component.ofSegment? segment with
        | some (.name name) => name.utf8ByteSize ≤ maxNameBytes ∧
            (tree.get? (location ++ [name])).isSome ∧ next = location ++ [name]
        | some .parent => next = location.dropLast
        | _ => next = location := by
  unfold descend
  split
  next hlocation =>
    rw [and_iff_right hlocation]
    rcases Path.Component.ofSegment? segment with _ | _ | _ | _ | name
    · simp [@eq_comm _ next]
    · simp [@eq_comm _ next]
    · simp [@eq_comm _ next]
    · simp [@eq_comm _ next]
    · -- Only a name is looked up in the directory.
      dsimp only
      rw [bind_eq_ok_iff]
      simp only [child?_eq_ok_iff, hlocation, true_and]
      constructor
      · rintro ⟨child, ⟨hsize, hchild⟩, hnext⟩
        cases child with
        | none => cases hnext
        | some child =>
          cases hnext
          exact ⟨hsize, by rw [hchild]; rfl, rfl⟩
      · rintro ⟨hsize, hsome, rfl⟩
        obtain ⟨child, hchild⟩ := Option.isSome_iff_exists.1 hsome
        exact ⟨some child, ⟨hsize, hchild⟩, rfl⟩
  next hlocation => exact iff_of_false nofun fun h => hlocation h.1

theorem follow_concat_eq_ok_iff {parts : List (List Char)} {segment : List Char}
    {next : Location} :
    tree.follow (parts ++ [segment]) = .ok next ↔
      ∃ location, tree.follow parts = .ok location ∧
        tree.descend location segment = .ok next := by
  rw [follow, List.foldlM_append, bind_eq_ok_iff]
  simp only [List.foldlM_cons, List.foldlM_nil, bind_pure]
  rfl

/-- Slashes at the end of a path to a directory lead nowhere else. -/
theorem follow_append_empties {parts empties : List (List Char)}
    (hfollow : tree.follow parts = .ok location) (hdirectory : tree.get? location = some .directory)
    (hempties : ∀ segment ∈ empties, segment = []) :
    tree.follow (parts ++ empties) = .ok location := by
  induction empties using List.reverseRecOn with
  | nil => rwa [List.append_nil]
  | append_singleton empties segment ih =>
    rw [← List.append_assoc, follow_concat_eq_ok_iff]
    refine ⟨location, ih fun s hs => hempties s (List.mem_append_left _ hs), ?_⟩
    rw [hempties segment (by simp), descend_eq_ok_iff]
    exact ⟨hdirectory, rfl⟩

/-- A path that the system can follow is cut at its slashes. -/
theorem segments_eq_ok_iff {path : String} {parts : List (List Char)} :
    segments path = .ok parts ↔
      '\x00' ∉ path.toList ∧ path ≠ "" ∧ path.utf8ByteSize ≤ maxPathBytes ∧
        parts = Text.pieces '/' path.toList := by
  unfold segments
  split
  next h => exact iff_of_false nofun fun hpath => hpath.1 (by simpa using h)
  next hnul =>
    split
    next h => exact iff_of_false nofun fun hpath => hpath.2.1 (by simpa using h)
    next hempty =>
      split
      next h => exact iff_of_false nofun fun hpath => Nat.not_lt.2 hpath.2.2.1 h
      next hsize =>
        have hpath : '\x00' ∉ path.toList ∧ path ≠ "" := by simpa using And.intro hnul hempty
        simp [hpath, Nat.le_of_not_lt hsize, @eq_comm _ parts]

/-- What a part of a path names, if it is not too long, is a name that the system admits. -/
theorem isName_of_mem_segments {path : String} {parts : List (List Char)} {segment : List Char}
    (hparts : segments path = .ok parts) (hsegment : segment ∈ parts)
    (hname : Path.Component.ofSegment? segment = some (.name name))
    (hsize : name.utf8ByteSize ≤ maxNameBytes) : IsName name := by
  obtain ⟨hnul, -, -, rfl⟩ := segments_eq_ok_iff.1 hparts
  obtain ⟨rfl, hempty, hdot, hdots⟩ := Path.ofSegment?_eq_name_iff.1 hname
  refine ⟨hempty, hdot, hdots, fun hslash => ?_, fun hmem => ?_, hsize⟩
  · exact (Text.mem_of_mem_piece hsegment hslash).2 rfl
  · exact hnul (Text.mem_of_mem_piece hsegment hmem).1

theorem locate_eq_ok_iff {path : String} :
    tree.locate path = .ok location ↔
      ∃ parts, segments path = .ok parts ∧ tree.follow parts = .ok location :=
  bind_eq_ok_iff

/-- What a path stands in is found by following all but the last part. -/
theorem split_eq_ok_iff {parts : List (List Char)} {last : List Char} :
    tree.split parts = .ok (directory, last) ↔
      tree.follow parts.dropLast = .ok directory ∧ tree.get? directory = some .directory ∧
        last = parts.getLast?.getD [] := by
  rw [split, bind_eq_ok_iff]
  constructor
  · rintro ⟨found, hfound, h⟩
    split at h
    next hdirectory =>
      cases h
      exact ⟨hfound, hdirectory, rfl⟩
    next => cases h
  · rintro ⟨hfollow, hdirectory, rfl⟩
    refine ⟨directory, hfollow, ?_⟩
    rw [hdirectory]
    rfl

/-! ## What stays -/

/-- What exists goes on to exist, and directories stay directories. -/
structure Keeps (before after : FileTree) : Prop where
  directory : ∀ location, before.get? location = some .directory →
    after.get? location = some .directory
  existing : ∀ location, (before.get? location).isSome → (after.get? location).isSome

namespace Keeps

/-- A part of a path that could be followed leads to the same location. -/
theorem descend {before after : FileTree} (h : before.Keeps after) {segment : List Char}
    {next : Location} (hdescend : before.descend location segment = .ok next) :
    after.descend location segment = .ok next := by
  rw [descend_eq_ok_iff] at hdescend ⊢
  refine ⟨h.directory location hdescend.1, ?_⟩
  have hnext := hdescend.2
  split
  next name hname =>
    rw [hname] at hnext
    exact ⟨hnext.1, h.existing _ hnext.2.1, hnext.2.2⟩
  next hparent =>
    rw [hparent] at hnext
    exact hnext
  next => split at hnext <;> simp_all

/-- A path that could be followed leads to the same location. -/
theorem follow {before after : FileTree} (h : before.Keeps after) {parts : List (List Char)}
    (hfollow : before.follow parts = .ok location) : after.follow parts = .ok location := by
  unfold FileTree.follow at hfollow ⊢
  generalize ([] : Location) = start at hfollow ⊢
  induction parts generalizing start with
  | nil => exact hfollow
  | cons segment rest ih =>
    rw [List.foldlM_cons, bind_eq_ok_iff] at hfollow ⊢
    obtain ⟨next, hnext, hrest⟩ := hfollow
    exact ⟨next, h.descend hnext, ih next hrest⟩

theorem locate {before after : FileTree} (h : before.Keeps after) {path : String}
    (hlocate : before.locate path = .ok location) : after.locate path = .ok location := by
  rw [FileTree.locate, bind_eq_ok_iff] at hlocate ⊢
  obtain ⟨parts, hparts, hfollow⟩ := hlocate
  exact ⟨parts, hparts, h.follow hfollow⟩

/-- A change of one location that is not a directory keeps what exists. -/
theorem of_change {entry : FileEntry} (hlocation : tree.get? location ≠ some .directory)
    (h : ∀ other, after.get? other = if other = location then some entry else tree.get? other) :
    tree.Keeps after := by
  constructor
  · intro other hother
    rwa [h, if_neg]
    rintro rfl
    exact hlocation hother
  · intro other hother
    rw [h]
    split
    · rfl
    · exact hother

end Keeps

/-! ## Operations -/

/-- The segments of a path are those up to the last one that is not empty, and empty ones. -/
private theorem exists_trailing_empties (parts : List (List Char)) :
    ∃ empties : List (List Char), (∀ segment ∈ empties, segment = []) ∧
      parts = (parts.reverse.dropWhile List.isEmpty).reverse ++ empties := by
  refine ⟨(parts.reverse.takeWhile List.isEmpty).reverse, fun segment hsegment => ?_, ?_⟩
  · have hempty := List.mem_takeWhile_imp (List.mem_reverse.1 hsegment)
    exact List.isEmpty_iff.1 hempty
  · rw [← List.reverse_append, List.takeWhile_append_dropWhile, List.reverse_reverse]

/-- Segments of which the last is a name end with it. -/
theorem eq_dropLast_append_of_name {parts : List (List Char)}
    (h : Path.Component.ofSegment? (parts.getLast?.getD []) = some (.name name)) :
    parts = parts.dropLast ++ [parts.getLast?.getD []] := by
  cases hlast : parts.getLast? with
  | none => simp [hlast, Path.Component.ofSegment?] at h
  | some last =>
    obtain ⟨front, rfl⟩ := List.getLast?_eq_some_iff.1 hlast
    simp

/-- Making a directory adds one where nothing was, and the path leads there. -/
theorem makeDirectory_spec {path : String} (h : tree.makeDirectory path = .ok after) :
    ∃ location, tree.get? location = none ∧
      (∀ other, after.get? other =
        if other = location then some .directory else tree.get? other) ∧
      after.locate path = .ok location := by
  rw [makeDirectory, bind_eq_ok_iff] at h
  obtain ⟨parts, hparts, h⟩ := h
  rw [bind_eq_ok_iff] at h
  obtain ⟨⟨directory, last⟩, hsplit, h⟩ := h
  obtain ⟨hfollow, hdirectory, hlast⟩ := split_eq_ok_iff.1 hsplit
  dsimp only at h
  split at h
  next name hname =>
    obtain ⟨child, hchild, h⟩ := bind_eq_ok_iff.1 h
    obtain ⟨-, hsize, hchild⟩ := child?_eq_ok_iff.1 hchild
    cases child with
    | some child => cases h
    | none =>
      cases h
      -- The path ends with the name and then possibly with slashes, which lead nowhere else.
      obtain ⟨empties, hempties, happend⟩ := exists_trailing_empties parts
      have hnamed : (parts.reverse.dropWhile List.isEmpty).reverse =
          (parts.reverse.dropWhile List.isEmpty).reverse.dropLast ++ [last] := by
        rw [hlast] at hname ⊢
        exact eq_dropLast_append_of_name hname
      have hmem : last ∈ parts := by
        rw [happend, hnamed]
        simp
      have hget : ∀ other, (tree.insert directory name .directory).get? other =
          if other = directory ++ [name] then some .directory else tree.get? other :=
        get?_insert (isName_of_mem_segments hparts hmem hname hsize) hdirectory hchild
      refine ⟨directory ++ [name], hchild, hget, ?_⟩
      have hkeeps : tree.Keeps (tree.insert directory name .directory) :=
        .of_change (by simp [hchild]) hget
      have hlead : (tree.insert directory name .directory).follow
          (parts.reverse.dropWhile List.isEmpty).reverse = .ok (directory ++ [name]) := by
        rw [hnamed, follow_concat_eq_ok_iff]
        refine ⟨directory, hkeeps.follow hfollow, descend_eq_ok_iff.2 ?_⟩
        rw [hname]
        exact ⟨hkeeps.directory _ hdirectory, hsize, by simp [hget], rfl⟩
      refine locate_eq_ok_iff.2 ⟨parts, hparts, ?_⟩
      rw [happend]
      exact follow_append_empties hlead (by simp [hget]) hempties
  next => cases h

/-- Writing a file puts it into a directory, where no directory of the name was. -/
theorem writeFile_spec {path : String} {content : ByteArray}
    (h : tree.writeFile path content = .ok after) :
    ∃ parts directory name, segments path = .ok parts ∧
      tree.follow parts.dropLast = .ok directory ∧ tree.get? directory = some .directory ∧
      Path.Component.ofSegment? (parts.getLast?.getD []) = some (.name name) ∧
      tree.get? (directory ++ [name]) ≠ some .directory ∧ name.utf8ByteSize ≤ maxNameBytes ∧
      ∀ other, after.get? other =
        if other = directory ++ [name] then some (.file content) else tree.get? other := by
  rw [writeFile, bind_eq_ok_iff] at h
  obtain ⟨parts, hparts, h⟩ := h
  rw [bind_eq_ok_iff] at h
  obtain ⟨⟨directory, last⟩, hsplit, h⟩ := h
  obtain ⟨hfollow, hdirectory, rfl⟩ := split_eq_ok_iff.1 hsplit
  refine ⟨parts, directory, ?_⟩
  dsimp only at h
  split at h
  next name hname =>
    refine ⟨name, hparts, hfollow, hdirectory, hname, ?_⟩
    obtain ⟨child, hchild, h⟩ := bind_eq_ok_iff.1 h
    obtain ⟨-, hsize, hchild⟩ := child?_eq_ok_iff.1 hchild
    -- The name is free, or a file that is overwritten, or a directory, which is refused.
    rcases child with _ | (old | _)
    · cases h
      have hmem : parts.getLast?.getD [] ∈ parts := by
        rw [eq_dropLast_append_of_name hname]
        simp
      have hadmitted := isName_of_mem_segments hparts hmem hname hsize
      exact ⟨by simp [hchild], hsize, get?_insert hadmitted hdirectory hchild⟩
    · cases h
      exact ⟨by simp [hchild], hsize, get?_overwrite hchild⟩
    · cases h
  next => cases h

/-! ## Directories with those above them -/

/-- Nothing is changed but that directories are made where nothing was, each at a location to
which one of the paths leads. -/
def AddsDirectories (before after : FileTree) (paths : List String) : Prop :=
  ∀ location, after.get? location = before.get? location ∨
    (before.get? location = none ∧ after.get? location = some .directory ∧
      ∃ path ∈ paths, after.locate path = .ok location)

namespace AddsDirectories

variable {before mid : FileTree} {paths more : List String}

theorem refl (tree : FileTree) (paths : List String) : tree.AddsDirectories tree paths :=
  fun _ => Or.inl rfl

theorem mono (h : before.AddsDirectories after paths) (hsub : paths ⊆ more) :
    before.AddsDirectories after more := by
  intro location
  refine (h location).imp_right ?_
  rintro ⟨hnone, hdirectory, path, hpath, hlocate⟩
  exact ⟨hnone, hdirectory, path, hsub hpath, hlocate⟩

theorem keeps (h : before.AddsDirectories after paths) : before.Keeps after := by
  constructor
  · intro location hlocation
    rcases h location with heq | ⟨hnone, -⟩
    · rw [heq, hlocation]
    · rw [hnone] at hlocation
      cases hlocation
  · intro location hlocation
    rcases h location with heq | ⟨hnone, -⟩
    · rwa [heq]
    · rw [hnone] at hlocation
      cases hlocation

theorem trans (first : before.AddsDirectories mid paths)
    (second : mid.AddsDirectories after paths) : before.AddsDirectories after paths := by
  intro location
  rcases second location with heq | ⟨hnone, hadded⟩
  · rw [heq]
    refine (first location).imp_right ?_
    -- A directory made first is still there, and the path still leads to it.
    rintro ⟨hnone, hdirectory, path, hpath, hlocate⟩
    exact ⟨hnone, hdirectory, path, hpath, second.keeps.locate hlocate⟩
  · rcases first location with heq | ⟨-, hdirectory, -⟩
    · rw [← heq]
      exact Or.inr ⟨hnone, hadded⟩
    · rw [hdirectory] at hnone
      cases hnone

end AddsDirectories

/-- From whatever tree it starts, an action changes nothing but that it makes directories to
which the paths lead. -/
def OnlyAdds {α : Type} (action : StateM FileTree α) (paths : List String) : Prop :=
  ∀ tree : FileTree, tree.AddsDirectories (action.run tree).2 paths

namespace OnlyAdds

variable {α β : Type} {paths more : List String}

theorem pure (a : α) (paths : List String) : OnlyAdds (Pure.pure a) paths :=
  fun tree => .refl tree paths

theorem bind {action : StateM FileTree α} {next : α → StateM FileTree β}
    (hfirst : OnlyAdds action paths) (hnext : ∀ a, OnlyAdds (next a) paths) :
    OnlyAdds (action >>= next) paths :=
  fun tree => (hfirst tree).trans (hnext _ _)

theorem mono {action : StateM FileTree α} (h : OnlyAdds action paths) (hsub : paths ⊆ more) :
    OnlyAdds action more :=
  fun tree => (h tree).mono hsub

theorem isDirectory (path : String) (paths : List String) :
    OnlyAdds (writer.isDirectory path) paths :=
  fun tree => .refl tree paths

/-- Making a directory adds it, if it can be made. -/
theorem makeDirectory (path : String) : OnlyAdds (writer.makeDirectory path) [path] := by
  intro tree
  show tree.AddsDirectories (tree.become (tree.makeDirectory path)).2 [path]
  cases h : tree.makeDirectory path with
  | error e => exact .refl tree _
  | ok after =>
    obtain ⟨location, hnone, hget, hlocate⟩ := makeDirectory_spec h
    intro other
    show after.get? other = _ ∨ _ ∧ after.get? other = _ ∧ _
    rw [hget]
    split
    next heq => exact Or.inr ⟨by rwa [heq], rfl, path, by simp, by rwa [heq]⟩
    next => exact Or.inl rfl

/-- Whether a directory exists after all is looked up without a change. -/
theorem unlessDirectory (path : String) (e : FileError) (paths : List String) :
    OnlyAdds (do return if ← writer.isDirectory path then .ok () else .error e :
      StateM FileTree (Except FileError Unit)) paths :=
  (isDirectory path paths).bind fun _ => .pure _ paths

theorem ensureDirectory (path : String) : OnlyAdds (writer.ensureDirectory path) [path] := by
  refine (makeDirectory path).bind fun made => ?_
  split
  next => exact .pure _ _
  next e => exact unlessDirectory path e _

/-- Making a directory with those above it adds them, as far as they can be made. -/
theorem ensureChain (paths : List String) : OnlyAdds (writer.ensureChain paths) paths := by
  induction paths with
  | nil => exact .pure _ _
  | cons path above ih =>
    have hfirst : [path] ⊆ path :: above := by simp
    have habove := ih.mono (List.subset_cons_self path above)
    unfold FileWriter.ensureChain
    split
    next => exact .pure _ _
    next =>
      refine ((makeDirectory path).mono hfirst).bind fun made => ?_
      split
      next => exact .pure _ _
      next =>
        -- The directories above are made first, and then this one.
        refine habove.bind fun chain => ?_
        split
        next => exact (ensureDirectory path).mono hfirst
        next => exact .pure _ _
      next => exact unlessDirectory path _ _

theorem createDirectories (path : String) :
    OnlyAdds (writer.createDirectories path) (Path.ancestors path) :=
  ensureChain (Path.ancestors path)

end OnlyAdds

end FileTree

end ClassSynthesis
