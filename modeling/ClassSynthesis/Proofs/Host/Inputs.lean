import ClassSynthesis.Proofs.Host.Beneath

/-!
# Expanding Inputs

Paths are listed without those that are the same as an earlier one. For two lists of paths one
after the other this means that of the second what the first lists is left out
(`withoutRepeats_append`), and so it is for inputs (`FileTree.modelFiles_append`).

One input alone is a file, which stands for itself, or a directory, which stands for the model
files beneath it in the order of their paths, or it is refused (`FileTree.expand_spec`). Whatever
an input stands for is the path of a file, and it leads there if it is not too long
(`FileTree.Contributes.isFile_iff`).

## Main definitions

- `FileTree.Contributes`: the paths that an input stands for.
- `FileTree.Refuses`: an input that does not stand for anything, with the error that says so.
-/

namespace ClassSynthesis

/-! ## Repeated paths -/

section

variable {paths : List String} {path other : String}

/-- Paths that are the same are the same as the same others. -/
theorem any_same_congr (h : Path.same path other = true) :
    paths.any (Path.same path) = paths.any (Path.same other) := by
  congr 1
  funext known
  rw [Path.same, Path.same, Path.same_eq_true_iff.1 h]

/-- What has been seen before is left out of the paths listed from the start. -/
theorem withoutRepeats_eq_filter (seen paths : List String) :
    withoutRepeats seen paths =
      (withoutRepeats [] paths).filter fun path => !seen.any (Path.same path) := by
  -- Behind the first path it has been seen too, so the induction is for all that has been seen.
  induction paths generalizing seen with
  | nil => rfl
  | cons path rest ih =>
    have hfirst : withoutRepeats [] (path :: rest) = path :: withoutRepeats [path] rest := rfl
    rw [hfirst, withoutRepeats, ih [path], List.filter_cons, List.filter_filter]
    by_cases hseen : seen.any (Path.same path) = true
    · -- The first path is left out, and whatever is the same has been seen as well.
      rw [if_pos hseen, ih seen, hseen, if_neg (by decide)]
      apply List.filter_congr
      intro other _
      by_cases hsame : Path.same other path = true
      · simp [any_same_congr hsame, hseen]
      · simp [hsame]
    · rw [if_neg hseen, ih (path :: seen), Bool.eq_false_iff.2 hseen, if_pos (by decide)]
      congr 1
      apply List.filter_congr
      intro other _
      simp [Bool.and_comm]

/-- The first path is listed, and behind it whatever is not the same. -/
theorem withoutRepeats_cons (path : String) (rest : List String) :
    withoutRepeats [] (path :: rest) =
      path :: (withoutRepeats [] rest).filter fun other => !Path.same other path := by
  have hfirst : withoutRepeats [] (path :: rest) = path :: withoutRepeats [path] rest := rfl
  rw [hfirst, withoutRepeats_eq_filter]
  simp

/-- Of the paths that come second, those are listed that the first do not list. -/
theorem withoutRepeats_append (first second : List String) :
    withoutRepeats [] (first ++ second) =
      withoutRepeats [] first ++ (withoutRepeats [] second).filter fun path =>
        !(withoutRepeats [] first).any (Path.same path) := by
  induction first with
  | nil => exact (List.filter_eq_self.2 fun _ _ => rfl).symm
  | cons path rest ih =>
    rw [List.cons_append, withoutRepeats_cons, ih, List.filter_append, List.filter_filter,
      withoutRepeats_cons, List.cons_append]
    congr 2
    apply List.filter_congr
    intro other _
    by_cases hsame : Path.same other path = true
    · simp [hsame]
    · -- What is the same as a path that is not left out is not left out itself.
      have hany : ((withoutRepeats [] rest).filter fun known => !Path.same known path).any
          (Path.same other) = (withoutRepeats [] rest).any (Path.same other) := by
        rw [List.any_filter]
        congr 1
        funext known
        by_cases hknown : Path.same other known = true
        · have hcomponents := Path.same_eq_true_iff.1 hknown
          rw [Path.same, hcomponents] at hsame
          simp [Path.same, hsame]
        · simp [hknown]
      simp [hsame, hany]

/-- No path is the same as another one listed. -/
theorem withoutRepeats_distinct (paths : List String) :
    (withoutRepeats [] paths).Pairwise fun a b => Path.same a b = false := by
  induction paths with
  | nil => exact .nil
  | cons path rest ih =>
    rw [withoutRepeats_cons, List.pairwise_cons]
    refine ⟨fun other hother => ?_, ih.filter _⟩
    have hdifferent := (List.mem_filter.1 hother).2
    show Path.same path other = false
    rw [Path.same_comm]
    simpa using hdifferent

/-- Paths no two of which are the same are all listed. -/
theorem withoutRepeats_eq_self (h : paths.Pairwise fun a b => Path.same a b = false) :
    withoutRepeats [] paths = paths := by
  induction paths with
  | nil => rfl
  | cons path rest ih =>
    obtain ⟨hpath, hrest⟩ := List.pairwise_cons.1 h
    rw [withoutRepeats_cons, ih hrest, List.filter_eq_self.2]
    intro other hother
    rw [Path.same_comm, hpath other hother]
    rfl

end

/-! ## The law of expansion -/

/-- Without effects, what comes first in an action and may fail decides whether there is more. -/
theorem run_bind {α β : Type} (action : ExceptT HostError Id α)
    (next : α → ExceptT HostError Id β) :
    (action >>= next).run = Except.bind action.run fun a => (next a).run := by
  cases action with
  | ok a => rfl
  | error e => rfl

namespace FileTree

/-- The model files that one input stands for. -/
def expand (tree : FileTree) (input : String) : Except HostError (List String) :=
  (tree.reader.expand input).run

/-- The model files that inputs stand for, each one once. -/
def modelFiles (tree : FileTree) (inputs : List String) : Except HostError (List String) :=
  (tree.reader.modelFiles inputs).run

variable {tree : FileTree} {input path : String} {inputs found : List String}

/-- An input is a file, or a directory that is searched, or not found. -/
theorem expand_eq (tree : FileTree) (input : String) :
    tree.expand input =
      if tree.isFile input then .ok [input]
      else if tree.isDirectory input then
        match tree.filesBeneath input with
        | .error e => .error (.directoryUnreadable input e)
        | .ok found => .ok (sortPaths (found.filter isModelPath))
      else .error (.inputNotFound input) := by
  have hfile : tree.reader.isFile input = tree.isFile input := rfl
  have hdirectory : tree.reader.isDirectory input = tree.isDirectory input := rfl
  have hfound : tree.reader.filesBeneath input = tree.filesBeneath input := rfl
  rw [expand, FileReader.expand, hfile, hdirectory, hfound]
  cases tree.isFile input with
  | true => rfl
  | false =>
    cases tree.isDirectory input with
    | false => rfl
    | true => cases tree.filesBeneath input <;> rfl

/-- Of the files of further inputs, those are listed that the first inputs do not list. -/
theorem modelFiles_append (inputs more : List String) :
    tree.modelFiles (inputs ++ more) = do
      let first ← tree.modelFiles inputs
      let second ← tree.modelFiles more
      return first ++ second.filter fun path => !first.any (Path.same path) := by
  rw [modelFiles, modelFiles, modelFiles, FileReader.modelFiles, FileReader.modelFiles,
    FileReader.modelFiles, List.mapM_append]
  simp only [run_bind]
  cases (inputs.mapM tree.reader.expand).run with
  | error e => rfl
  | ok listed =>
    cases (more.mapM tree.reader.expand).run with
    | error e => rfl
    | ok further =>
      show Except.ok (withoutRepeats [] (listed ++ further).flatten) = _
      rw [List.flatten_append, withoutRepeats_append]
      rfl

theorem modelFiles_singleton (input : String) :
    tree.modelFiles [input] = (tree.expand input).map (withoutRepeats []) := by
  rw [modelFiles, FileReader.modelFiles, List.mapM_cons, List.mapM_nil, expand]
  simp only [run_bind]
  cases (tree.reader.expand input).run with
  | error e => rfl
  | ok listed =>
    show Except.ok (withoutRepeats [] (listed ++ [])) = _
    rw [List.append_nil]
    rfl

/-- No path that is found is the same as another. -/
theorem modelFiles_distinct (h : tree.modelFiles inputs = .ok found) :
    found.Pairwise fun a b => Path.same a b = false := by
  rw [modelFiles, FileReader.modelFiles, run_bind] at h
  cases hlisted : (inputs.mapM tree.reader.expand).run with
  | error e =>
    rw [hlisted] at h
    cases h
  | ok listed =>
    rw [hlisted] at h
    cases h
    exact withoutRepeats_distinct listed.flatten

/-! ## One input -/

theorem isFile_iff :
    tree.isFile path = true ↔
      ∃ location content, tree.locate path = .ok location ∧
        tree.get? location = some (.file content) := by
  unfold isFile resolve?
  cases tree.locate path with
  | error e => simp
  | ok location =>
    cases hentry : tree.get? location with
    | none => simp [hentry]
    | some entry => cases entry <;> simp [hentry]

theorem isDirectory_iff :
    tree.isDirectory path = true ↔
      ∃ location, tree.locate path = .ok location ∧ tree.get? location = some .directory := by
  unfold isDirectory resolve?
  cases tree.locate path <;> simp

/-- What is a file is no directory. -/
theorem isDirectory_of_isFile (h : tree.isFile path = true) : tree.isDirectory path = false := by
  rw [isFile] at h
  rw [isDirectory]
  split at h
  next content hresolve => rw [hresolve]; rfl
  next => cases h

/-- The path is one that the input stands for: the input itself if it is a file, and the path of a
model file beneath it if it is a directory. -/
def Contributes (tree : FileTree) (input path : String) : Prop :=
  tree.isFile input = true ∧ path = input ∨
    tree.isDirectory input = true ∧ tree.IsModelBeneath input path

/-- The input does not stand for anything, and the error says why. -/
inductive Refuses (tree : FileTree) (input : String) : HostError → Prop
  /-- The input is neither a file nor a directory. -/
  | missing (file : tree.isFile input = false) (directory : tree.isDirectory input = false) :
    Refuses tree input (.inputNotFound input)
  /-- The input is a directory with another beneath it whose path is too long. -/
  | unreadable {location : Location} {names : List String}
    (located : tree.locate input = .ok location)
    (directory : tree.get? (location ++ names) = some .directory)
    (long : maxPathBytes < (names.foldl Path.join input).utf8ByteSize) :
    Refuses tree input
      (.directoryUnreadable input ⟨names.foldl Path.join input, .nameTooLong⟩)

/-- A file found beneath a directory is taken for a model by its name. -/
theorem isModelBeneath_iff {location : Location} (hlocate : tree.locate input = .ok location)
    (hdirectory : tree.get? location = some .directory) :
    tree.IsModelBeneath input path ↔
      (∃ names content, tree.get? (location ++ names) = some (.file content) ∧
        path = names.foldl Path.join input) ∧ isModelPath path = true := by
  have hnonempty := (locate_eq_ok_iff_reaches.1 hlocate).1.nonempty
  have hwell : ∀ {names : List String} {content : ByteArray},
      tree.get? (location ++ names) = some (.file content) → ∀ name ∈ names, IsName name := by
    intro names content hfile name hname
    exact isName_of_get? (by rw [hfile]; rfl) (List.mem_append_right location hname)
  constructor
  · rintro ⟨found, names, name, content, hfound, hfile, rfl, hmodel⟩
    obtain rfl : location = found := Except.ok.inj (hlocate.symm.trans hfound)
    refine ⟨⟨names ++ [name], content, hfile, rfl⟩, ?_⟩
    exact (isModelPath_foldl_join hnonempty (hwell hfile)).2 hmodel
  · rintro ⟨⟨names, content, hfile, rfl⟩, hmodel⟩
    cases names using List.reverseRecOn with
    | nil =>
      -- The directory is no file.
      rw [List.append_nil, hdirectory] at hfile
      cases hfile
    | append_singleton names name =>
      refine ⟨location, names, name, content, hlocate, hfile, rfl, ?_⟩
      exact (isModelPath_foldl_join hnonempty (hwell hfile)).1 hmodel

/-- An input stands for the paths it contributes, strictly in order, or is refused. -/
theorem expand_spec (tree : FileTree) (input : String) :
    match tree.expand input with
    | .ok listed =>
      listed.Pairwise (fun a b => Path.compare a b = .lt) ∧
        ∀ path, path ∈ listed ↔ tree.Contributes input path
    | .error e => tree.Refuses input e := by
  rw [expand_eq]
  by_cases hfile : tree.isFile input = true
  · rw [if_pos hfile]
    refine ⟨List.pairwise_singleton _ _, fun path => ?_⟩
    simp [Contributes, hfile, isDirectory_of_isFile hfile]
  rw [if_neg hfile]
  by_cases hdirectory : tree.isDirectory input = true
  · rw [if_pos hdirectory]
    obtain ⟨location, hlocate, hentry⟩ := isDirectory_iff.1 hdirectory
    have hsearch := filesBeneath_spec hlocate
    cases hfound : tree.filesBeneath input with
    | error e =>
      rw [hfound] at hsearch
      obtain ⟨names, hnested, hlong, rfl⟩ := hsearch
      exact .unreadable hlocate hnested hlong
    | ok found =>
      rw [hfound] at hsearch
      obtain ⟨-, hmem, hdistinct⟩ := hsearch
      refine ⟨sortPaths_strict (hdistinct.filter _), fun path => ?_⟩
      rw [mem_sortPaths, List.mem_filter, hmem, Contributes, isModelBeneath_iff hlocate hentry]
      simp [hfile, hdirectory]
  · rw [if_neg hdirectory]
    exact .missing (Bool.eq_false_iff.2 hfile) (Bool.eq_false_iff.2 hdirectory)

theorem contributes_of_expand {listed : List String} (h : tree.expand input = .ok listed) :
    listed.Pairwise (fun a b => Path.compare a b = .lt) ∧
      ∀ path, path ∈ listed ↔ tree.Contributes input path := by
  have hspec := tree.expand_spec input
  rwa [h] at hspec

theorem refuses_of_expand {e : HostError} (h : tree.expand input = .error e) :
    tree.Refuses input e := by
  have hspec := tree.expand_spec input
  rwa [h] at hspec

/-- What is contributed is the path of a file, and leads there unless it is too long. It never leads
to a directory. -/
theorem Contributes.isFile_iff (h : tree.Contributes input path) :
    (tree.isFile path = true ↔ path.utf8ByteSize ≤ maxPathBytes) ∧
      tree.isDirectory path = false := by
  have hreaches : ∃ location content, tree.Reaches path location ∧
      tree.get? location = some (.file content) := by
    rcases h with ⟨hfile, rfl⟩ | ⟨-, directory, names, name, content, hlocate, hentry, rfl, -⟩
    · obtain ⟨location, content, hlocate, hentry⟩ := FileTree.isFile_iff.1 hfile
      exact ⟨location, content, (locate_eq_ok_iff_reaches.1 hlocate).1, hentry⟩
    · have hdirectory := (locate_eq_ok_iff_reaches.1 hlocate).1
      exact ⟨_, content, hdirectory.foldl_join (by rw [hentry]; rfl), hentry⟩
  obtain ⟨location, content, hreaches, hentry⟩ := hreaches
  by_cases hsize : path.utf8ByteSize ≤ maxPathBytes
  · have hfile : tree.isFile path = true :=
      FileTree.isFile_iff.2
        ⟨location, content, locate_eq_ok_iff_reaches.2 ⟨hreaches, hsize⟩, hentry⟩
    exact ⟨iff_of_true hfile hsize, isDirectory_of_isFile hfile⟩
  · have hlong : tree.isFile path = false ∧ tree.isDirectory path = false :=
      not_isFile_of_long (Nat.lt_of_not_le hsize)
    exact ⟨iff_of_false (Bool.eq_false_iff.1 hlong.1) hsize, hlong.2⟩

end FileTree

end ClassSynthesis
