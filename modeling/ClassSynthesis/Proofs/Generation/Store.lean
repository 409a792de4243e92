import ClassSynthesis.Generation
import ClassSynthesis.Proofs.Synthesis.Collisions
import Mathlib.Data.Finset.Card
import Mathlib.Data.List.Induction

/-!
# Stores of Artifacts

A store keeps one text for each file name. After a list of artifacts it has the names in the
order in which they were first accepted, each once (`fileNames_acceptAll`), and under each name
the text of the last artifact of that name (`get?_acceptAll`). So nothing is lost exactly when
no two artifacts share a file name (`keeps_iff`).
-/

namespace ClassSynthesis

namespace ArtifactStore

variable (store : ArtifactStore) (artifact : Artifact) (artifacts : List Artifact)

private theorem lookup_cons_file (name : String) (file : String × String)
    (rest : List (String × String)) :
    (file :: rest).lookup name = if name = file.1 then some file.2 else rest.lookup name := by
  rw [List.lookup_cons]
  by_cases h : name = file.1
  · rw [if_pos h, beq_iff_eq.2 h]
  · rw [if_neg h, beq_eq_false_iff_ne.2 h]

/-- Putting a text changes what is found under its name only. -/
theorem lookup_put (fileName text name : String) (files : List (String × String)) :
    (put fileName text files).lookup name =
      if name = fileName then some text else files.lookup name := by
  induction files with
  | nil => exact lookup_cons_file name (fileName, text) []
  | cons file rest ih =>
    rw [put]
    by_cases hfile : file.1 = fileName
    · rw [if_pos hfile, lookup_cons_file, lookup_cons_file, hfile]
      by_cases h : name = fileName <;> simp [h]
    · rw [if_neg hfile, lookup_cons_file, lookup_cons_file, ih]
      by_cases h : name = file.1
      · simp [h, hfile]
      · simp [h]

/-- A name that is put again keeps its place, a new one comes last. -/
theorem map_fst_put (fileName text : String) (files : List (String × String)) :
    (put fileName text files).map (·.1) =
      if fileName ∈ files.map (·.1) then files.map (·.1) else files.map (·.1) ++ [fileName] := by
  induction files with
  | nil => simp [put]
  | cons file rest ih =>
    rw [put]
    by_cases hfile : file.1 = fileName
    · simp [hfile]
    · rw [if_neg hfile, List.map_cons, List.map_cons, ih]
      by_cases h : fileName ∈ rest.map (·.1)
      · rw [if_pos h, if_pos (List.mem_cons_of_mem _ h)]
      · rw [if_neg h, if_neg, List.cons_append]
        exact List.not_mem_cons_of_ne_of_not_mem (Ne.symm hfile) h

@[simp]
theorem get?_accept (name : String) :
    (store.accept artifact).get? name =
      if name = artifact.fileName then some artifact.text else store.get? name :=
  lookup_put ..

@[simp]
theorem fileNames_accept :
    (store.accept artifact).fileNames =
      if artifact.fileName ∈ store.fileNames then store.fileNames
      else store.fileNames ++ [artifact.fileName] :=
  map_fst_put ..

theorem size_eq_length_fileNames : store.size = store.fileNames.length := by
  simp [size, fileNames]

/-! ## Several artifacts -/

/-- Accept artifacts in order. -/
def acceptAll : ArtifactStore := artifacts.foldl accept store

theorem acceptAll_concat :
    store.acceptAll (artifacts ++ [artifact]) = (store.acceptAll artifacts).accept artifact := by
  simp [acceptAll]

/-- The text under a name is that of the last artifact of the name. -/
theorem get?_acceptAll (name : String) :
    (store.acceptAll artifacts).get? name =
      ((artifacts.filter (·.fileName == name)).getLast?.map (·.text)).or (store.get? name) := by
  induction artifacts using List.reverseRecOn with
  | nil => rfl
  | append_singleton artifacts artifact ih =>
    rw [acceptAll_concat, get?_accept, ih, List.filter_append]
    by_cases h : artifact.fileName = name
    · simp [h]
    · simp [h, Ne.symm h]

/-- The names are those of the artifacts, in the order of first acceptance. -/
theorem fileNames_acceptAll :
    (empty.acceptAll artifacts).fileNames = (artifacts.map (·.fileName)).eraseDups := by
  induction artifacts using List.reverseRecOn with
  | nil => rfl
  | append_singleton artifacts artifact ih =>
    rw [acceptAll_concat, fileNames_accept, ih, List.map_append, List.map_singleton,
      eraseDups_concat]
    simp only [List.mem_eraseDups]

theorem nodup_fileNames_acceptAll (h : store.fileNames.Nodup) :
    (store.acceptAll artifacts).fileNames.Nodup := by
  induction artifacts using List.reverseRecOn with
  | nil => exact h
  | append_singleton artifacts artifact ih =>
    rw [acceptAll_concat, fileNames_accept]
    split
    next => exact ih
    next hnew =>
      rw [← List.concat_eq_append]
      exact ih.concat hnew

/-- The store has as many files as the artifacts have names. -/
theorem size_acceptAll :
    (empty.acceptAll artifacts).size = (artifacts.map (·.fileName)).toFinset.card := by
  have hnodup := nodup_fileNames_acceptAll empty artifacts List.nodup_nil
  rw [size_eq_length_fileNames, ← List.toFinset_card_of_nodup hnodup, fileNames_acceptAll]
  congr 1
  ext name
  simp [List.mem_eraseDups]

/-- Every artifact has a file of its own when no two have the same name. -/
theorem size_acceptAll_eq_length_iff :
    (empty.acceptAll artifacts).size = artifacts.length ↔
      (artifacts.map (·.fileName)).Nodup := by
  rw [size_acceptAll, ← Multiset.coe_nodup, ← Multiset.toFinset_card_eq_card_iff_nodup,
    Multiset.coe_card, List.length_map]
  rfl

theorem get?_acceptAll_empty (name : String) :
    (empty.acceptAll artifacts).get? name =
      (artifacts.filter (·.fileName == name)).getLast?.map (·.text) := by
  rw [get?_acceptAll]
  exact Option.or_none

/-- Nothing is lost when the artifacts have a file each: all of them are counted, and each is
found under its name. -/
theorem keeps_iff {artifacts : List Artifact} (hnodup : artifacts.Nodup) :
    ((empty.acceptAll artifacts).size = artifacts.length ∧
        ∀ a ∈ artifacts, (empty.acceptAll artifacts).get? a.fileName = some a.text) ↔
      ∀ a ∈ artifacts, ∀ b ∈ artifacts, a.fileName = b.fileName → a = b := by
  rw [size_acceptAll_eq_length_iff]
  constructor
  · rintro ⟨hnames, -⟩ a ha b hb hfile
    exact List.inj_on_of_nodup_map hnames ha hb hfile
  · intro hdistinct
    refine ⟨hnodup.map_on fun a ha b hb => hdistinct a ha b hb, fun a ha => ?_⟩
    -- Whichever artifact is the last one of the name, it is this one.
    have hmem : a ∈ artifacts.filter (·.fileName == a.fileName) := by simp [ha]
    obtain ⟨b, hb⟩ := Option.isSome_iff_exists.1 (List.getLast?_isSome.2 (List.ne_nil_of_mem hmem))
    obtain ⟨hbmem, hbname⟩ := List.mem_filter.1 (List.mem_of_getLast? hb)
    have hsame : b = a := hdistinct b hbmem a ha (by simpa using hbname)
    rw [get?_acceptAll_empty, hb, hsame]
    rfl

/-! ## Batches -/

/-- Accept an artifact that is handed over. -/
def collect (artifact : Artifact) : StateM ArtifactStore Unit :=
  modify (·.accept artifact)

end ArtifactStore

/-- Handing artifacts over to a store counts them and accepts them in order. -/
theorem Generation.run_emitAll (artifacts : List Artifact) (store : ArtifactStore) :
    (emitAll ArtifactStore.collect artifacts).run store =
      (artifacts.length, store.acceptAll artifacts) := by
  induction artifacts generalizing store with
  | nil => rfl
  | cons artifact rest ih =>
    show (let (count, after) := (emitAll ArtifactStore.collect rest).run (store.accept artifact)
      (count + 1, after)) = _
    rw [ih]
    rfl

theorem Generation.run_emitTo (g : Generation) (store : ArtifactStore) :
    (g.emitTo ArtifactStore.collect).run store =
      (g.artifacts.length, store.acceptAll g.artifacts) :=
  run_emitAll g.artifacts store

end ClassSynthesis
