import ClassSynthesis.Proofs.Generation.ModelOrder
import ClassSynthesis.Proofs.Generation.Outcomes
import ClassSynthesis.Proofs.Generation.Store
import Mathlib.Data.List.Forall2

/-!
# File Names

A file name does not tell angle brackets from underscores. So two artifacts of a batch share a
file name exactly when the qualified names of their contracts differ in nothing else
(`Artifact.fileNameFor_eq_iff`). A store keeps the last of them, and it keeps every artifact
exactly when no two contracts have such names (`ContractIndex.emitTo_keeps`).
-/

namespace ClassSynthesis

/-- Characters that look alike in a file name. -/
def IsFiller (c : Char) : Prop := c ∈ ['<', '>', '_']

instance : DecidablePred IsFiller := fun c => inferInstanceAs (Decidable (c ∈ ['<', '>', '_']))

/-- Texts that are the same but for angle brackets and underscores, which may stand for each
other. -/
def SameButBrackets (p q : String) : Prop :=
  List.Forall₂ (fun c d => c = d ∨ (IsFiller c ∧ IsFiller d)) p.toList q.toList

instance (p q : String) : Decidable (SameButBrackets p q) :=
  inferInstanceAs (Decidable (List.Forall₂ _ p.toList q.toList))

namespace Artifact

/-- What a character becomes in a file name. -/
def fileNameChar (c : Char) : Char := if c == '<' || c == '>' then '_' else c

theorem fileNameFor_eq (qualifiedName : String) :
    fileNameFor qualifiedName = qualifiedName.map fileNameChar ++ ".g.cs" := rfl

/-- A character that is no bracket and no underscore stays itself, and no other one becomes
it. -/
theorem fileNameChar_eq_iff_of_not_filler {c d : Char} (h : ¬ IsFiller d) :
    fileNameChar c = d ↔ c = d := by
  simp only [IsFiller, List.mem_cons, List.not_mem_nil, or_false, not_or] at h
  simp only [fileNameChar, Bool.or_eq_true, beq_iff_eq]
  by_cases hc : c = '<' ∨ c = '>'
  · rw [if_pos hc]
    refine iff_of_false (Ne.symm h.2.2) ?_
    rintro rfl
    tauto
  · rw [if_neg hc]

theorem fileNameChar_of_filler {c : Char} (h : IsFiller c) : fileNameChar c = '_' := by
  simp only [IsFiller, List.mem_cons, List.not_mem_nil, or_false] at h
  rcases h with rfl | rfl | rfl <;> rfl

theorem fileNameChar_eq_iff {c d : Char} :
    fileNameChar c = fileNameChar d ↔ c = d ∨ (IsFiller c ∧ IsFiller d) := by
  by_cases hd : IsFiller d
  · by_cases hc : IsFiller c
    · simp [fileNameChar_of_filler, hc, hd]
    · rw [eq_comm, (fileNameChar_eq_iff_of_not_filler hc).2 rfl,
        fileNameChar_eq_iff_of_not_filler hc]
      simp [hc, eq_comm]
  · rw [(fileNameChar_eq_iff_of_not_filler hd).2 rfl, fileNameChar_eq_iff_of_not_filler hd]
    simp [hd]

/-- Names have one file when they are the same but for brackets. -/
theorem fileNameFor_eq_iff {p q : String} :
    fileNameFor p = fileNameFor q ↔ SameButBrackets p q := by
  rw [fileNameFor_eq, fileNameFor_eq, String.append_left_inj, ← String.toList_inj,
    String.toList_map, String.toList_map, ← List.forall₂_eq_eq_eq, List.forall₂_map_left_iff,
    List.forall₂_map_right_iff, SameButBrackets]
  simp only [fileNameChar_eq_iff]

end Artifact

namespace ContractIndex

variable {index : ContractIndex} {options : RenderOptions}

/-- The file of an outcome is for the contract of the outcome and named after it. -/
theorem named_of_artifact_generateOne {id : ContractId} {c : Contract}
    (hc : index.contract? id = some c) {a : Artifact}
    (ha : (index.generateOne options id).artifact = some a) :
    a.qualifiedName = c.name.qualified ∧ a.fileName = Artifact.fileNameFor c.name.qualified := by
  cases hresolve : index.resolve id with
  | ok r =>
    rw [generateOne_of_resolve_ok hc hresolve] at ha
    cases ha
    exact ⟨rfl, rfl⟩
  | error e =>
    rw [generateOne_of_resolve_error hc hresolve] at ha
    cases ha

/-- An artifact of a batch is for one of the contracts and named after it. -/
theorem exists_of_mem_artifacts {a : Artifact} (h : a ∈ (index.generate options).artifacts) :
    ∃ id c, index.contract? id = some c ∧ (index.generateOne options id).artifact = some a ∧
      a.qualifiedName = c.name.qualified ∧ a.fileName = Artifact.fileNameFor c.name.qualified := by
  obtain ⟨o, ho, ha⟩ := List.mem_filterMap.1 h
  obtain ⟨id, c, hc, rfl⟩ := exists_of_mem_outcomes options ho
  exact ⟨id, c, hc, ha, named_of_artifact_generateOne hc ha⟩

/-- When every contract to be implemented resolves, each of them has an artifact. -/
theorem map_qualifiedName_artifacts
    (h : ∀ id ∈ index.implementable, ∃ r, index.resolve id = .ok r) :
    (index.generate options).artifacts.map (·.qualifiedName) =
      index.implementable.map index.displayName := by
  rw [Generation.artifacts, outcomes_generate, List.filterMap_map, List.map_filterMap,
    ← List.filterMap_eq_map]
  refine List.filterMap_congr fun id hid => ?_
  obtain ⟨c, hc⟩ := registered_of_mem_implementable hid
  obtain ⟨r, hr⟩ := h id hid
  have hartifact : (index.generateOne options id).artifact =
      some (.ofClass (.ofResolution c r options.className) options) := by
    rw [generateOne_of_resolve_ok hc hr]
  simp only [Function.comp_apply, hartifact, Option.map_some, displayName_of_contract? hc]
  rfl

theorem map_fileName_artifacts (index : ContractIndex) (options : RenderOptions) :
    (index.generate options).artifacts.map (·.fileName) =
      ((index.generate options).artifacts.map (·.qualifiedName)).map Artifact.fileNameFor := by
  rw [List.map_map]
  refine List.map_congr_left fun a ha => ?_
  obtain ⟨-, c, -, -, hname, hfile⟩ := exists_of_mem_artifacts ha
  rw [Function.comp_apply, hname, hfile]

theorem fileName_eq_iff {a b : Artifact} (ha : a ∈ (index.generate options).artifacts)
    (hb : b ∈ (index.generate options).artifacts) :
    a.fileName = b.fileName ↔ SameButBrackets a.qualifiedName b.qualifiedName := by
  obtain ⟨-, c, -, -, hc, hcfile⟩ := exists_of_mem_artifacts ha
  obtain ⟨-, d, -, -, hd, hdfile⟩ := exists_of_mem_artifacts hb
  rw [hcfile, hdfile, hc, hd, Artifact.fileNameFor_eq_iff]

/-- The artifacts of a batch are for contracts of distinct names. -/
theorem nodup_qualifiedName_artifacts (index : ContractIndex) (options : RenderOptions) :
    ((index.generate options).artifacts.map (·.qualifiedName)).Nodup := by
  have hnamed : ∀ o ∈ (index.generate options).outcomes, ∀ a, o.artifact = some a →
      a.qualifiedName = o.qualifiedName := by
    intro o ho a ha
    obtain ⟨id, c, hc, rfl⟩ := exists_of_mem_outcomes options ho
    rw [(named_of_artifact_generateOne hc ha).1, qualifiedName_generateOne,
      displayName_of_contract? hc]
  have houtcomes := nodup_qualifiedName_outcomes index options
  rw [List.Nodup, List.pairwise_map] at houtcomes
  rw [List.Nodup, List.pairwise_map, Generation.artifacts, List.pairwise_filterMap]
  refine houtcomes.imp_of_mem fun ho ho' hne a ha b hb heq => hne ?_
  rw [← hnamed _ ho a ha, ← hnamed _ ho' b hb, heq]

/-- Handing a batch over to an empty store counts every artifact. The artifacts are for
contracts of distinct names, and two of them share a file when the names are the same but for
brackets. The store has each file once, with the text of the last artifact that it is for; so
it keeps all artifacts exactly when no two of them share a file. -/
theorem emitTo_keeps (index : ContractIndex) (options : RenderOptions) :
    let artifacts := (index.generate options).artifacts
    let (count, store) := ((index.generate options).emitTo ArtifactStore.collect).run .empty
    count = artifacts.length ∧
    (artifacts.map (·.qualifiedName)).Nodup ∧
    (∀ a ∈ artifacts, ∀ b ∈ artifacts,
      a.fileName = b.fileName ↔ SameButBrackets a.qualifiedName b.qualifiedName) ∧
    store.fileNames = (artifacts.map (·.fileName)).eraseDups ∧
    (∀ a ∈ artifacts, store.get? a.fileName =
      (artifacts.filter (·.fileName == a.fileName)).getLast?.map (·.text)) ∧
    ((store.size = count ∧ ∀ a ∈ artifacts, store.get? a.fileName = some a.text) ↔
      ∀ a ∈ artifacts, ∀ b ∈ artifacts,
        SameButBrackets a.qualifiedName b.qualifiedName → a = b) := by
  intro artifacts
  rw [Generation.run_emitTo]
  have hnames := nodup_qualifiedName_artifacts index options
  refine ⟨rfl, hnames, fun a ha b hb => fileName_eq_iff ha hb,
    ArtifactStore.fileNames_acceptAll artifacts,
    fun a _ => ArtifactStore.get?_acceptAll_empty artifacts a.fileName, ?_⟩
  refine (ArtifactStore.keeps_iff hnames.of_map).trans ?_
  constructor
  · intro h a ha b hb hsame
    exact h a ha b hb ((fileName_eq_iff ha hb).2 hsame)
  · intro h a ha b hb hfile
    exact h a ha b hb ((fileName_eq_iff ha hb).1 hfile)

/-- Two contracts whose names are the same but for brackets. -/
def boxes : ContractIndex where
  entries := [
    { contract := { name := .global "IBox<T>" } },
    { contract := { name := .global "IBox_T_" } }]
  distinct := by simp [Registration.qualified]

/-- The artifact for a contract without members. -/
def boxArtifact (id : ContractId) (name : String) : Artifact :=
  .ofClass (.ofResolution { name := .global name } (.ofOrigins id []) defaultClassName) {}

/-- Both artifacts are handed over, but the second one takes the place of the first. -/
theorem first_box_overwritten :
    ∃ a b store, (boxes.generate {}).artifacts = [a, b] ∧
      ((boxes.generate {}).emitTo ArtifactStore.collect).run .empty = (2, store) ∧
      a.qualifiedName ≠ b.qualifiedName ∧ a.fileName = b.fileName ∧
      store.size = 1 ∧ store.get? a.fileName ≠ some a.text := by
  have hids : boxes.implementable = [⟨0⟩, ⟨1⟩] := by decide
  have hfirst : boxes.closure ⟨0⟩ = .ok [⟨0⟩] := by cbv
  have hsecond : boxes.closure ⟨1⟩ = .ok [⟨1⟩] := by cbv
  have hartifacts : (boxes.generate {}).artifacts =
      [boxArtifact ⟨0⟩ "IBox<T>", boxArtifact ⟨1⟩ "IBox_T_"] := by
    rw [Generation.artifacts, outcomes_generate, hids, List.map_cons, List.map_singleton,
      generateOne_of_resolve_ok rfl (resolve_eq_ok_iff.2 ⟨_, hfirst, by decide, rfl⟩),
      generateOne_of_resolve_ok rfl (resolve_eq_ok_iff.2 ⟨_, hsecond, by decide, rfl⟩)]
    rfl
  have hfile : (boxArtifact ⟨0⟩ "IBox<T>").fileName = (boxArtifact ⟨1⟩ "IBox_T_").fileName :=
    Artifact.fileNameFor_eq_iff.2 (by decide)
  have htext : (boxArtifact ⟨0⟩ "IBox<T>").text ≠ (boxArtifact ⟨1⟩ "IBox_T_").text := by
    decide
  refine ⟨_, _, ArtifactStore.empty.acceptAll (boxes.generate {}).artifacts, hartifacts, ?_,
    by decide, hfile, ?_, ?_⟩
  · rw [Generation.run_emitTo, hartifacts]
    rfl
  · rw [hartifacts, ArtifactStore.size_acceptAll]
    simp [hfile]
  · rw [hartifacts, ArtifactStore.get?_acceptAll_empty]
    simp [hfile, htext.symm]

end ContractIndex

end ClassSynthesis
