import ClassSynthesis.Proofs.Host.Inputs

/-!
# The Model Files of Inputs

Inputs are expanded one after the other, and each adds the files it stands for that are not
listed yet (`FileTree.modelFiles_concat_eq_ok_iff`). So no model file is listed twice, and inputs
whose files are all listed add nothing (`FileTree.modelFiles_finds_or_refuses`).

The files that are found can be inputs themselves, with one exception: a directory can be searched
although the path of a file in it is too long for the system. That path is found, and as an input
it is refused (`FileTree.modelFiles_too_long`).

## Main definitions

- `FileTree.Finds`: what some inputs stand for.
-/

namespace ClassSynthesis

namespace FileTree

variable {tree : FileTree} {input path : String}
  {inputs before after found more further : List String} {e : HostError}

/-! ## One input after the other -/

/-- A single input stands for what it is expanded to. -/
theorem modelFiles_singleton_eq (tree : FileTree) (input : String) :
    tree.modelFiles [input] = tree.expand input := by
  rw [modelFiles_singleton]
  cases hexpand : tree.expand input with
  | error e => rfl
  | ok listed =>
    -- Paths in strict order are not the same as each other.
    have hdistinct := (contributes_of_expand hexpand).1.imp Path.same_eq_false_of_lt
    rw [Except.map, withoutRepeats_eq_self hdistinct]

/-- The last input adds what it is expanded to, without what is listed already. -/
theorem modelFiles_concat_eq_ok_iff :
    tree.modelFiles (inputs ++ [input]) = .ok found ↔
      ∃ earlier listed, tree.modelFiles inputs = .ok earlier ∧ tree.expand input = .ok listed ∧
        found = earlier ++ listed.filter fun path => !earlier.any (Path.same path) := by
  simp only [modelFiles_append, modelFiles_singleton_eq, bind_eq_ok_iff]
  constructor
  · rintro ⟨earlier, hearlier, listed, hlisted, hfound⟩
    cases hfound
    exact ⟨earlier, listed, hearlier, hlisted, rfl⟩
  · rintro ⟨earlier, listed, hearlier, hlisted, rfl⟩
    exact ⟨earlier, hearlier, listed, hlisted, rfl⟩

/-- What is found for more inputs begins with what is found for the first of them. -/
theorem exists_modelFiles_append (h : tree.modelFiles (inputs ++ more) = .ok found) :
    ∃ first rest, tree.modelFiles inputs = .ok first ∧ found = first ++ rest := by
  rw [modelFiles_append, bind_eq_ok_iff] at h
  obtain ⟨first, hfirst, h⟩ := h
  obtain ⟨second, -, h⟩ := bind_eq_ok_iff.1 h
  cases h
  exact ⟨first, _, hfirst, rfl⟩

/-- What one input adds are the paths it contributes that are not listed yet, in order. -/
theorem exists_new (h : tree.modelFiles (before ++ input :: after) = .ok found) :
    ∃ earlier new rest, found = earlier ++ new ++ rest ∧ tree.modelFiles before = .ok earlier ∧
      new.Pairwise (fun a b => Path.compare a b = .lt) ∧
      ∀ path, path ∈ new ↔
        tree.Contributes input path ∧ ∀ known ∈ earlier, Path.same path known = false := by
  rw [List.append_cons] at h
  obtain ⟨first, rest, hfirst, rfl⟩ := exists_modelFiles_append h
  obtain ⟨earlier, listed, hearlier, hexpand, rfl⟩ := modelFiles_concat_eq_ok_iff.1 hfirst
  obtain ⟨hsorted, hmem⟩ := contributes_of_expand hexpand
  refine ⟨earlier, _, rest, rfl, hearlier, hsorted.filter _, fun path => ?_⟩
  simp [List.mem_filter, hmem]

/-- Where files are found, every input is expanded. -/
theorem exists_expand (h : tree.modelFiles inputs = .ok found)
    (hinput : input ∈ inputs) : ∃ listed, tree.expand input = .ok listed := by
  obtain ⟨before, after, rfl⟩ := List.append_of_mem hinput
  rw [List.append_cons] at h
  obtain ⟨first, -, hfirst, -⟩ := exists_modelFiles_append h
  obtain ⟨-, listed, -, hlisted, -⟩ := modelFiles_concat_eq_ok_iff.1 hfirst
  exact ⟨listed, hlisted⟩

/-- Whatever is found is contributed by an input. -/
theorem exists_contributes (h : tree.modelFiles inputs = .ok found)
    (hpath : path ∈ found) : ∃ input ∈ inputs, tree.Contributes input path := by
  -- A path is found for the earlier inputs already, or the last one adds it.
  induction inputs using List.reverseRecOn generalizing found with
  | nil =>
    cases h
    cases hpath
  | append_singleton inputs input ih =>
    obtain ⟨earlier, listed, hearlier, hexpand, rfl⟩ := modelFiles_concat_eq_ok_iff.1 h
    rcases List.mem_append.1 hpath with hold | hnew
    · obtain ⟨known, hknown, hcontributes⟩ := ih hearlier hold
      exact ⟨known, List.mem_append_left _ hknown, hcontributes⟩
    · have hlisted := (List.mem_filter.1 hnew).1
      exact ⟨input, by simp, ((contributes_of_expand hexpand).2 path).1 hlisted⟩

/-- If nothing is found, an input is refused behind others for which files are found. -/
theorem exists_refuses (h : tree.modelFiles inputs = .error e) :
    ∃ before input after earlier, inputs = before ++ input :: after ∧
      tree.modelFiles before = .ok earlier ∧ tree.Refuses input e := by
  -- Either nothing is found for the earlier inputs already, or the last one is refused.
  induction inputs using List.reverseRecOn with
  | nil => cases h
  | append_singleton inputs input ih =>
    cases hearlier : tree.modelFiles inputs with
    | error cause =>
      rw [modelFiles_append, hearlier] at h
      cases h
      obtain ⟨before, refused, after, earlier, rfl, hbefore, hrefuses⟩ := ih hearlier
      exact ⟨before, refused, after ++ [input], earlier, by simp, hbefore, hrefuses⟩
    | ok earlier =>
      rw [modelFiles_append, hearlier, modelFiles_singleton_eq] at h
      cases hexpand : tree.expand input with
      | ok listed =>
        rw [hexpand] at h
        cases h
      | error cause =>
        rw [hexpand] at h
        cases h
        exact ⟨inputs, input, [], earlier, rfl, hearlier, refuses_of_expand hexpand⟩

/-! ## Files as inputs -/

/-- Files stand for themselves. -/
theorem modelFiles_of_isFile (h : ∀ path ∈ inputs, tree.isFile path = true) :
    tree.modelFiles inputs = .ok (withoutRepeats [] inputs) := by
  induction inputs with
  | nil => rfl
  | cons path rest ih =>
    obtain ⟨hpath, hrest⟩ := List.forall_mem_cons.1 h
    have hfirst : tree.modelFiles [path] = .ok [path] := by
      rw [modelFiles_singleton, expand_eq, if_pos hpath]
      rfl
    rw [← List.singleton_append, modelFiles_append, hfirst, ih hrest, withoutRepeats_append]
    rfl

/-- What is found is found again when it is the input, unless one of the paths is too long. -/
theorem modelFiles_found_iff (h : tree.modelFiles inputs = .ok found) :
    tree.modelFiles found = .ok found ↔ ∀ path ∈ found, path.utf8ByteSize ≤ maxPathBytes := by
  have hfile : ∀ path ∈ found, (tree.isFile path = true ↔ path.utf8ByteSize ≤ maxPathBytes) ∧
      tree.isDirectory path = false := by
    intro path hpath
    obtain ⟨input, -, hcontributes⟩ := exists_contributes h hpath
    exact hcontributes.isFile_iff
  constructor
  · intro hagain path hpath
    obtain ⟨hsize, hdirectory⟩ := hfile path hpath
    obtain ⟨listed, hlisted⟩ := exists_expand hagain hpath
    apply hsize.1
    -- A path that leads to no file, and never to a directory, would be refused.
    rw [expand_eq, hdirectory] at hlisted
    by_contra hno
    rw [if_neg hno] at hlisted
    cases hlisted
  · intro hsize
    rw [modelFiles_of_isFile fun path hpath => (hfile path hpath).1.2 (hsize path hpath),
      withoutRepeats_eq_self (modelFiles_distinct h)]

/-! ## All inputs -/

/-- Inputs whose files are all listed add nothing. -/
theorem modelFiles_append_listed (h : tree.modelFiles inputs = .ok found)
    (hmore : tree.modelFiles more = .ok further)
    (hlisted : ∀ path ∈ further, ∃ known ∈ found, Path.same path known = true) :
    tree.modelFiles (inputs ++ more) = .ok found := by
  -- Of the further files, the law leaves those that are not listed, which are none.
  have hnothing : further.filter (fun path => !found.any (Path.same path)) = [] := by
    apply List.filter_eq_nil_iff.2
    intro path hpath
    simpa using hlisted path hpath
  rw [modelFiles_append, h, hmore]
  show Except.ok (found ++ further.filter fun path => !found.any (Path.same path)) = .ok found
  rw [hnothing, List.append_nil]

/-- A file among the inputs is listed, perhaps in the spelling of an earlier input. -/
theorem exists_same_of_isFile (h : tree.modelFiles inputs = .ok found)
    (hinput : input ∈ inputs) (hfile : tree.isFile input = true) :
    ∃ path ∈ found, Path.same input path = true := by
  obtain ⟨before, after, rfl⟩ := List.append_of_mem hinput
  obtain ⟨earlier, new, rest, rfl, -, -, hmem⟩ := exists_new h
  by_cases hknown : ∃ known ∈ earlier, Path.same input known = true
  · obtain ⟨known, hknown, hsame⟩ := hknown
    exact ⟨known, by simp [hknown], hsame⟩
  · -- What has not been listed before is new.
    have hnew : input ∈ new := by
      apply (hmem input).2
      refine ⟨.inl ⟨hfile, rfl⟩, fun known hold => ?_⟩
      exact Bool.eq_false_iff.2 fun hsame => hknown ⟨known, hold, hsame⟩
    exact ⟨input, by simp [hnew], Path.same_eq_true_iff.2 rfl⟩

/-- Nothing is found if an input is neither a file nor a directory. -/
theorem exists_error_of_missing (hinput : input ∈ inputs) (hfile : tree.isFile input = false) (hdirectory : tree.isDirectory input = false) :
    ∃ e, tree.modelFiles inputs = .error e := by
  cases hfound : tree.modelFiles inputs with
  | error e => exact ⟨e, rfl⟩
  | ok found =>
    obtain ⟨listed, hlisted⟩ := exists_expand hfound hinput
    rw [expand_eq, hfile, hdirectory] at hlisted
    cases hlisted

/-- What some inputs stand for. -/
structure Finds (tree : FileTree) (inputs found : List String) : Prop where
  /-- No model is listed twice. -/
  distinct : found.Pairwise fun a b => Path.same a b = false
  /-- What is found is found again, provided that the system follows paths of that length. -/
  again : tree.modelFiles found = .ok found ↔ ∀ path ∈ found, path.utf8ByteSize ≤ maxPathBytes
  /-- Inputs whose files are all listed add nothing. -/
  absorbs : ∀ more further, tree.modelFiles more = .ok further →
    (∀ path ∈ further, ∃ known ∈ found, Path.same path known = true) →
    tree.modelFiles (inputs ++ more) = .ok found
  /-- Every file among the inputs is listed. -/
  file : ∀ input ∈ inputs, tree.isFile input = true →
    ∃ path ∈ found, Path.same input path = true
  /-- Every input adds, in path order, the paths that it contributes and that are not listed yet:
  itself if it is a file, and the model files beneath it if it is a directory. -/
  adds : ∀ before input after, inputs = before ++ input :: after →
    ∃ earlier new rest, found = earlier ++ new ++ rest ∧ tree.modelFiles before = .ok earlier ∧
      new.Pairwise (fun a b => Path.compare a b = .lt) ∧
      ∀ path, path ∈ new ↔
        tree.Contributes input path ∧ ∀ known ∈ earlier, Path.same path known = false

/-- Where model files are found, each is listed once and those of a directory in order, and they
are found again when they are the inputs, unless a path is too long for that. Where none are found,
an input is refused, as one is that is neither a file nor a directory. -/
theorem modelFiles_finds_or_refuses (tree : FileTree) (inputs : List String) :
    (match tree.modelFiles inputs with
    | .ok found => tree.Finds inputs found
    | .error e => ∃ before input after earlier, inputs = before ++ input :: after ∧
        tree.modelFiles before = .ok earlier ∧ tree.Refuses input e) ∧
    ∀ input ∈ inputs, tree.isFile input = false → tree.isDirectory input = false →
      ∃ e, tree.modelFiles inputs = .error e := by
  constructor
  · cases hfound : tree.modelFiles inputs with
    | error e => exact exists_refuses hfound
    | ok found =>
      exact {
        distinct := modelFiles_distinct hfound
        again := modelFiles_found_iff hfound
        absorbs := fun _ _ => modelFiles_append_listed hfound
        file := fun _ => exists_same_of_isFile hfound
        adds := fun _ _ _ heq => exists_new (heq ▸ hfound) }
  · exact fun _ => exists_error_of_missing

/-- Two directories with models, and with a project file in the first. -/
def twoModules : FileTree :=
  let first := empty.insert [] "m" .directory |>.insert ["m"] "b.json" (.file ⟨#[]⟩)
    |>.insert ["m"] "a.json" (.file ⟨#[]⟩) |>.insert ["m"] "implgen.json" (.file ⟨#[]⟩)
  first.insert [] "n" .directory |>.insert ["n"] "c.json" (.file ⟨#[]⟩)

/-- The first directory adds what is not listed yet, and the second one nothing. -/
theorem modelFiles_twoModules :
    twoModules.modelFiles ["m/b.json", "m", "n/./c.json", "n"] =
      .ok ["m/b.json", "m/a.json", "n/./c.json"] := by
  have hsorted : sortPaths ["m/b.json", "m/a.json"] = ["m/a.json", "m/b.json"] := by
    have hcompare : Path.compare "m/b.json" "m/a.json" = .gt := by decide
    rw [sortPaths, List.mergeSort]
    simp [hcompare]
  have hm : twoModules.expand "m" = .ok ["m/a.json", "m/b.json"] := by
    rw [← hsorted]
    rfl
  have hn : twoModules.expand "n" = .ok ["n/c.json"] := by
    show Except.ok (sortPaths ["n/c.json"]) = _
    rw [sortPaths, List.mergeSort_singleton]
  have hfile : ∀ path ∈ ["m/b.json", "n/./c.json"],
      twoModules.expand path = .ok [path] := by
    intro path hpath
    rw [expand_eq, if_pos]
    revert path
    decide
  -- Each of the four inputs adds what the law leaves of it.
  show twoModules.modelFiles ((([] ++ ["m/b.json"]) ++ ["m"]) ++ ["n/./c.json"] ++ ["n"]) = _
  simp only [modelFiles_append, modelFiles_singleton, hm, hn, hfile "m/b.json" (by simp),
    hfile "n/./c.json" (by simp)]
  rfl

theorem modelFiles_finds_or_refuses_twoModules :
    twoModules.Finds ["m/b.json", "m", "n/./c.json", "n"]
      ["m/b.json", "m/a.json", "n/./c.json"] ∧
      ∃ e, twoModules.modelFiles ["m", "o"] = .error e := by
  constructor
  · have hfinds :=
      (modelFiles_finds_or_refuses twoModules ["m/b.json", "m", "n/./c.json", "n"]).1
    rwa [modelFiles_twoModules] at hfinds
  · exact (modelFiles_finds_or_refuses twoModules ["m", "o"]).2 "o" (by decide) (by decide)
      (by decide)

/-! ## Paths that are too long -/

/-- However the second directory is given, its model is found; but the path found may be too long
for an input. -/
theorem modelFiles_of_reaches (hreaches : twoModules.Reaches path ["n"])
    (hsize : path.utf8ByteSize ≤ maxPathBytes)
    (hlong : maxPathBytes < (Path.join path "c.json").utf8ByteSize) :
    twoModules.modelFiles [path] = .ok [Path.join path "c.json"] ∧
      twoModules.modelFiles [Path.join path "c.json"] =
        .error (.inputNotFound (Path.join path "c.json")) := by
  have hlocate := locate_eq_ok_iff_reaches.2 ⟨hreaches, hsize⟩
  constructor
  · have hbeneath : twoModules.beneath path ["n"] =
        [(path, .directory), (Path.join path "c.json", .file ⟨#[]⟩)] := rfl
    have hfound : twoModules.filesBeneath path = .ok [Path.join path "c.json"] := by
      rw [filesBeneath, hlocate]
      simp [hbeneath, hsize]
    have hmodel : isModelPath (Path.join path "c.json") = true := by
      have hall : ∀ n ∈ [] ++ ["c.json"], IsName n := by decide
      exact (isModelPath_foldl_join hreaches.nonempty hall).2 (by decide)
    have hdirectory : twoModules.isDirectory path = true :=
      isDirectory_iff.2 ⟨["n"], hlocate, rfl⟩
    have hfile : twoModules.isFile path = false := by
      rw [isFile, resolve?, hlocate]
      rfl
    rw [modelFiles_singleton_eq, expand_eq, hfile, hdirectory, hfound]
    simp [hmodel, sortPaths]
  · obtain ⟨hfile, hdirectory⟩ := not_isFile_of_long hlong
    rw [modelFiles_singleton_eq, expand_eq, hfile, hdirectory]
    rfl

/-- A path to the second directory, with so many slashes behind it that the system just follows
it. -/
def longPath : String := "n" ++ Path.slashes 4094

theorem utf8ByteSize_longPath : longPath.utf8ByteSize = maxPathBytes := by
  rw [longPath, String.utf8ByteSize_append, Path.utf8ByteSize_slashes]
  rfl

/-- What is found is not always found again: behind the long path, the path of a model is too
long. -/
theorem modelFiles_too_long :
    twoModules.modelFiles [longPath] = .ok [Path.join longPath "c.json"] ∧
      twoModules.modelFiles [Path.join longPath "c.json"] =
        .error (.inputNotFound (Path.join longPath "c.json")) := by
  have hn : twoModules.Reaches "n" ["n"] := ⟨by decide, by decide, rfl⟩
  have hreaches : twoModules.Reaches longPath ["n"] := hn.slashes rfl 4094
  have hlong : maxPathBytes < (Path.join longPath "c.json").utf8ByteSize := by
    have hname : IsName "c.json" := by decide
    have hc : "c.json".utf8ByteSize = 6 := rfl
    rw [hname.join_eq hreaches.nonempty]
    split <;> simp only [String.utf8ByteSize_append, utf8ByteSize_longPath, hc] <;> omega
  exact modelFiles_of_reaches hreaches (Nat.le_of_eq utf8ByteSize_longPath) hlong

end FileTree

end ClassSynthesis
