import ClassSynthesis.Host.Run
import ClassSynthesis.Proofs.Generation.FileNames
import ClassSynthesis.Proofs.Host.Path

/-!
# Where Files Are Placed

The file for a contract is placed by its qualified name, which is any text. It is placed below
the output directory exactly when the name is relative and does not lead upwards
(`ContractIndex.outputFiles_below_iff`); a name without slashes is such a name
(`KeepsBelow.of_simple`).
-/

namespace ClassSynthesis

/-- A qualified name that keeps its file below an output directory: it does not start at the
root, and no segment of it leads upwards. The last segment is the name of the file and cannot.
If the output directory is empty, the name must not start with the current directory. -/
structure KeepsBelow (outDir qualifiedName : String) : Prop where
  relative : qualifiedName.toList.head? ≠ some '/'
  noParent : ['.', '.'] ∉ (Text.pieces '/' qualifiedName.toList).dropLast
  noCurrent : outDir = "" → ¬ ['.', '/'] <+: qualifiedName.toList

/-- A name without slashes is the name of a file. -/
theorem KeepsBelow.of_simple {outDir qualifiedName : String} (h : '/' ∉ qualifiedName.toList) :
    KeepsBelow outDir qualifiedName where
  relative := fun hhead => h (List.mem_of_mem_head? hhead)
  noParent := by simp [Text.pieces_of_not_mem h]
  noCurrent := fun _ hcurrent => h (hcurrent.subset (by simp))

namespace Artifact

variable (qualifiedName : String)

/-- The extension for generated source. -/
def extension : List Char := ['.', 'g', '.', 'c', 's']

theorem toList_fileNameFor :
    (fileNameFor qualifiedName).toList =
      qualifiedName.toList.map fileNameChar ++ extension := by
  rw [fileNameFor_eq, String.toList_append, String.toList_map]
  rfl

theorem fileNameFor_eq_ofList :
    fileNameFor qualifiedName =
      String.ofList (qualifiedName.toList.map fileNameChar ++ extension) := by
  rw [← toList_fileNameFor, String.ofList_toList]

theorem fileNameChar_eq_slash_iff (c : Char) : fileNameChar c = '/' ↔ c = '/' :=
  fileNameChar_eq_iff_of_not_filler (by decide)

theorem fileNameChar_eq_dot_iff (c : Char) : fileNameChar c = '.' ↔ c = '.' :=
  fileNameChar_eq_iff_of_not_filler (by decide)

/-- The file name starts as the qualified name does. -/
theorem head?_fileNameFor_eq_slash_iff :
    (fileNameFor qualifiedName).toList.head? = some '/' ↔
      qualifiedName.toList.head? = some '/' := by
  rw [toList_fileNameFor]
  cases qualifiedName.toList with
  | nil => simp [extension]
  | cons c rest => simp [fileNameChar_eq_slash_iff]

theorem current_isPrefix_fileNameFor_iff :
    ['.', '/'] <+: (fileNameFor qualifiedName).toList ↔ ['.', '/'] <+: qualifiedName.toList := by
  rw [toList_fileNameFor]
  match qualifiedName.toList with
  | [] => simp [extension]
  | [c] => simp [extension]
  | c :: d :: rest =>
    simp [@eq_comm _ '.', @eq_comm _ '/', fileNameChar_eq_dot_iff, fileNameChar_eq_slash_iff]

/-- The file stands in the directories that the qualified name has before its last slash. -/
theorem exists_pieces_fileNameFor :
    ∃ last, Text.pieces '/' (fileNameFor qualifiedName).toList =
      (Text.pieces '/' qualifiedName.toList).dropLast.map (·.map fileNameChar) ++
        [last ++ extension] := by
  obtain ⟨front, last, hfront, happend⟩ := Text.exists_pieces_append
    (show '/' ∉ extension by decide) (qualifiedName.toList.map fileNameChar)
  rw [Text.pieces_map fileNameChar_eq_slash_iff] at hfront
  refine ⟨last, ?_⟩
  rw [toList_fileNameFor, happend, List.map_dropLast, hfront, List.dropLast_concat]

/-- The last segment is a name, whatever the qualified name is. -/
theorem segmentComponents_fileNameFor_ne_nil :
    Path.segmentComponents (fileNameFor qualifiedName).toList ≠ [] := by
  obtain ⟨last, hpieces⟩ := exists_pieces_fileNameFor qualifiedName
  have hlong : 2 < (last ++ extension).length := by
    rw [List.length_append, extension]
    simp only [List.length_cons, List.length_nil]
    omega
  rw [Path.segmentComponents, hpieces, List.filterMap_append]
  simp [Path.ofSegment?_eq_name hlong]

theorem parent_mem_pieces_fileNameFor_iff :
    ['.', '.'] ∈ Text.pieces '/' (fileNameFor qualifiedName).toList ↔
      ['.', '.'] ∈ (Text.pieces '/' qualifiedName.toList).dropLast := by
  obtain ⟨last, hpieces⟩ := exists_pieces_fileNameFor qualifiedName
  have hlast : ['.', '.'] ≠ last ++ extension := by
    intro h
    have hlength := congrArg List.length h
    simp [extension] at hlength
  have hsegment : ∀ segment : List Char,
      segment.map fileNameChar = ['.', '.'] ↔ segment = ['.', '.'] := by
    intro segment
    simp [List.map_eq_cons_iff, fileNameChar_eq_dot_iff]
  rw [hpieces, List.mem_append, List.mem_singleton, List.mem_map]
  simp [hlast, hsegment]

theorem splitStart_fileNameFor_eq_none_iff (h : qualifiedName.toList.head? ≠ some '/') :
    (Path.splitStart (fileNameFor qualifiedName).toList).1 = none ↔
      ¬ ['.', '/'] <+: qualifiedName.toList := by
  rw [← current_isPrefix_fileNameFor_iff]
  constructor
  · rintro hstart ⟨rest, hrest⟩
    rw [← hrest] at hstart
    simp [Path.splitStart] at hstart
  · intro hcurrent
    have hdot : (fileNameFor qualifiedName).toList ≠ ['.'] := by
      rw [toList_fileNameFor, extension]
      cases qualifiedName.toList <;> simp
    rw [Path.splitStart_of_ne (mt (head?_fileNameFor_eq_slash_iff _).1 h) hdot hcurrent]

/-- A file is placed below the output directory when the name keeps it there. -/
theorem fileNameFor_below_iff (outDir : String) :
    (Path.isAbsolute (fileNameFor qualifiedName) = false ∧
      Path.Below outDir (Path.join outDir (fileNameFor qualifiedName))) ↔
      KeepsBelow outDir qualifiedName := by
  rw [Path.isAbsolute_eq_false_iff]
  by_cases h : qualifiedName.toList.head? = some '/'
  · refine iff_of_false (fun hbelow => ?_) fun hkeeps => hkeeps.relative h
    exact hbelow.1 ((head?_fileNameFor_eq_slash_iff qualifiedName).2 h)
  · have hrelative := mt (head?_fileNameFor_eq_slash_iff qualifiedName).1 h
    rw [Path.below_join_iff (Path.isAbsolute_eq_false_iff.2 hrelative)
      (segmentComponents_fileNameFor_ne_nil qualifiedName),
      parent_mem_pieces_fileNameFor_iff, splitStart_fileNameFor_eq_none_iff qualifiedName h]
    exact ⟨fun hbelow => ⟨h, hbelow.2.1, hbelow.2.2⟩,
      fun hkeeps => ⟨hrelative, hkeeps.noParent, hkeeps.noCurrent⟩⟩

end Artifact

namespace ContractIndex

variable {index : ContractIndex} {options : RenderOptions}

/-- The file for an artifact is placed by the qualified name of the contract alone. It is
placed below the output directory, and not at an absolute path of its own, exactly when the
name keeps it there. -/
theorem outputFiles_below_iff {a : Artifact} (h : a ∈ (index.generate options).artifacts)
    (outDir : String) :
    (∃ id c, index.contract? id = some c ∧ a.qualifiedName = c.name.qualified) ∧
    ⟨Path.join outDir a.fileName, a.text⟩ ∈ (index.generate options).outputFiles outDir ∧
    ((Path.isAbsolute a.fileName = false ∧
        Path.Below outDir (Path.join outDir a.fileName)) ↔
      KeepsBelow outDir a.qualifiedName) := by
  obtain ⟨id, c, hc, -, hname, hfile⟩ := exists_of_mem_artifacts h
  refine ⟨⟨id, c, hc, hname⟩, List.mem_map_of_mem h, ?_⟩
  rw [hfile, hname]
  exact Artifact.fileNameFor_below_iff _ outDir

/-- Contracts whose names are paths: into a directory, out of one, from the root, and out of
one by the dot between namespace and name. -/
def paths : ContractIndex where
  entries := [
    { contract := { name := ⟨some "Shop/Orders", "IOrder<T>"⟩ } },
    { contract := { name := .global "../IOutside" } },
    { contract := { name := .global "/etc/IRoot" } },
    { contract := { name := ⟨some ".", "/IAbove"⟩ } }]
  distinct := by decide

private theorem qualifiedNames_paths :
    (paths.generate {}).artifacts.map (·.qualifiedName) =
      ["Shop/Orders.IOrder<T>", "../IOutside", "/etc/IRoot", "../IAbove"] := by
  have hids : paths.implementable = [⟨0⟩, ⟨1⟩, ⟨2⟩, ⟨3⟩] := by decide
  have hclosure : ∀ id ∈ paths.implementable, paths.closure id = .ok [id] := by
    intro id hid
    rw [hids] at hid
    simp only [List.mem_cons, List.not_mem_nil, or_false] at hid
    rcases hid with rfl | rfl | rfl | rfl <;> cbv
  have hresolve : ∀ id ∈ paths.implementable, ∃ r, paths.resolve id = .ok r := by
    intro id hid
    have hnamed : ∀ id ∈ paths.implementable, ∀ owner ∈ [id], paths.membersOf owner = [] := by
      decide
    refine ⟨_, resolve_eq_ok_iff.2 ⟨_, hclosure id hid, fun owner howner m hm => ?_, rfl⟩⟩
    rw [hnamed id hid owner howner] at hm
    cases hm
  rw [map_qualifiedName_artifacts hresolve, hids]
  decide

theorem outputFiles_below_iff_order :
    ∃ a ∈ (paths.generate {}).artifacts, a.qualifiedName = "Shop/Orders.IOrder<T>" ∧
      Path.Below "out" (Path.join "out" a.fileName) := by
  obtain ⟨a, ha, hname⟩ : ∃ a ∈ (paths.generate {}).artifacts,
      a.qualifiedName = "Shop/Orders.IOrder<T>" := by
    rw [← List.mem_map, qualifiedNames_paths]
    exact List.mem_cons_self
  obtain ⟨-, -, hbelow⟩ := outputFiles_below_iff ha "out"
  refine ⟨a, ha, hname, (hbelow.2 ?_).2⟩
  rw [hname]
  exact ⟨by decide, by decide, by simp⟩

/-- The files of the other three are not placed below the output directory. -/
theorem paths_not_below :
    ((paths.generate {}).outputFiles "out").map (·.path) =
        ["out/Shop/Orders.IOrder_T_.g.cs", "out/../IOutside.g.cs", "/etc/IRoot.g.cs",
          "out/../IAbove.g.cs"] ∧
      ∀ path ∈ ["out/../IOutside.g.cs", "/etc/IRoot.g.cs", "out/../IAbove.g.cs"],
        ¬ Path.Below "out" path := by
  constructor
  · have hplaced : ((paths.generate {}).outputFiles "out").map (·.path) =
        ((paths.generate {}).artifacts.map (·.fileName)).map (Path.join "out") := by
      rw [Generation.outputFiles, List.map_map, List.map_map]
      rfl
    rw [hplaced, map_fileName_artifacts, qualifiedNames_paths,
      funext Artifact.fileNameFor_eq_ofList]
    decide
  · -- Each path leads upwards or starts at the root, which the directory does not.
    have hstray : ∀ path ∈ ["out/../IOutside.g.cs", "/etc/IRoot.g.cs", "out/../IAbove.g.cs"],
        Path.Component.parent ∈ Path.components path ∨ .root ∈ Path.components path := by
      decide
    intro path hpath hbelow
    rcases hstray path hpath with h | h
    · rcases hbelow.mem_components h with h | ⟨_, h⟩
      · exact absurd h (by decide)
      · cases h
    · rcases hbelow.mem_components h with h | ⟨_, h⟩
      · exact absurd h (by decide)
      · cases h

end ContractIndex

end ClassSynthesis
