import ClassSynthesis.Proofs.Generation.Outcomes
import ClassSynthesis.Proofs.Host.Writing

/-!
# Runs

Everything that can be wrong with the inputs comes out before the writing, and no other error
does (`FileReader.yields_prepare`). So a run that fails in this part leaves the files as they
were, and one that is finished has written what it generated, each file under the output
directory (`Run.ofTree_keeps_or_completes`).
-/

namespace ClassSynthesis

variable {arguments : Arguments} {workingDir : String}

/-! ## Before the writing -/

/-- An action has a result with a property, unless an error that is none of writing ends it. -/
def Yields {α : Type} (action : ExceptT HostError Id α) (post : α → Prop) : Prop :=
  match action.run with
  | .ok a => post a
  | .error e => e.isWriting = false

namespace Yields

variable {α β : Type} {post : α → Prop} {last : β → Prop}

theorem pure {a : α} (h : post a) : Yields (Pure.pure a) post := h

theorem throw {e : HostError} (h : e.isWriting = false) : Yields (MonadExcept.throw e) post := h

theorem throwThen {e : HostError} (h : e.isWriting = false)
    (next : α → ExceptT HostError Id β) : Yields (MonadExcept.throw e >>= next) last := h

theorem lift (a : Id α) : Yields (liftM a) fun _ => True := trivial

theorem result {result : Except HostError α} (h : ∀ e, result = .error e → e.isWriting = false) :
    Yields (liftM result) fun _ => True := by
  cases result with
  | error e => exact h e rfl
  | ok a => trivial

theorem of_ok {action : ExceptT HostError Id α} (h : Yields action post) {a : α}
    (ha : action.run = .ok a) : post a := by
  unfold Yields at h
  rwa [ha] at h

theorem of_error {action : ExceptT HostError Id α} (h : Yields action post) {e : HostError}
    (he : action.run = .error e) : e.isWriting = false := by
  unfold Yields at h
  rwa [he] at h

theorem bind {action : ExceptT HostError Id α} {next : α → ExceptT HostError Id β}
    (hfirst : Yields action post)
    (hnext : ∀ a, action.run = .ok a → post a → Yields (next a) last) :
    Yields (action >>= next) last := by
  have hrun : (action >>= next).run = ExceptT.bindCont next action.run := rfl
  unfold Yields
  rw [hrun]
  cases h : action.run with
  | error e => exact hfirst.of_error h
  | ok a => exact hnext a h (hfirst.of_ok h)

theorem mapM {f : α → ExceptT HostError Id β} (h : ∀ a, Yields (f a) fun _ => True)
    (items : List α) : Yields (items.mapM f) fun _ => True := by
  induction items with
  | nil => exact pure trivial
  | cons a rest ih =>
    rw [List.mapM_cons]
    exact (h a).bind fun b _ _ => ih.bind fun bs _ _ => pure trivial

end Yields

namespace FileReader

variable (files : FileReader Id)

theorem yields_expand (input : String) : Yields (files.expand input) fun _ => True := by
  unfold expand
  refine (Yields.lift _).bind fun isFile _ _ => ?_
  split
  next => exact .pure trivial
  next =>
    refine (Yields.lift _).bind fun isDirectory _ _ => ?_
    split
    next =>
      refine (Yields.lift _).bind fun found _ _ => ?_
      split
      next => exact .throw rfl
      next => exact .pure trivial
    next => exact .throwThen rfl _

theorem yields_modelFiles (inputs : List String) :
    Yields (files.modelFiles inputs) fun _ => True :=
  (Yields.mapM files.yields_expand inputs).bind fun _ _ _ => .pure trivial

theorem yields_readModel (path : String) : Yields (files.readModel path) fun _ => True := by
  unfold readModel
  refine (Yields.lift _).bind fun read _ _ => ?_
  split
  next => exact .throw rfl
  next =>
    split
    next => exact .throw rfl
    next => exact .pure trivial

theorem isWriting_of_registerFiles {models : List (String × ModelFile)} {e : HostError}
    {index : ContractIndex} (h : index.registerFiles models = .error e) :
    e.isWriting = false := by
  induction models generalizing index with
  | nil => cases h
  | cons file rest ih =>
    rw [ContractIndex.registerFiles] at h
    split at h
    next => exact ih h
    next =>
      cases h
      rfl

theorem yields_loadIndex (paths : List String) :
    Yields (files.loadIndex paths) fun _ => True := by
  refine (Yields.mapM files.yields_readModel paths).bind fun models _ _ => ?_
  exact .result fun e he => isWriting_of_registerFiles he

theorem yields_readProject (path : String) : Yields (files.readProject path) fun _ => True := by
  unfold readProject
  refine (Yields.lift _).bind fun read _ _ => ?_
  split
  next => exact .throw rfl
  next =>
    split
    next => exact .throw rfl
    next => exact .pure trivial

theorem yields_projectPath (path : String) : Yields (files.projectPath path) fun _ => True := by
  unfold projectPath
  refine (Yields.lift _).bind fun isDirectory _ _ => ?_
  split
  next =>
    refine (Yields.lift _).bind fun isFile _ _ => ?_
    split
    next => exact .pure trivial
    next => exact .throwThen rfl _
  next =>
    refine (Yields.lift _).bind fun isFile _ _ => ?_
    split
    next => exact .pure trivial
    next => exact .throw rfl

theorem yields_findProject? (arguments : Arguments) (workingDir : String) :
    Yields (files.findProject? arguments workingDir) fun _ => True := by
  unfold findProject?
  split
  next =>
    exact (files.yields_projectPath _).bind fun path _ _ =>
      (files.yields_readProject path).bind fun _ _ _ => .pure trivial
  next =>
    refine (Yields.lift _).bind fun isFile _ _ => ?_
    split
    next => exact (files.yields_readProject _).bind fun _ _ _ => .pure trivial
    next => exact .pure trivial

/-- A run that can start writing has found its project, its models and its options. -/
theorem yields_prepare (arguments : Arguments) (workingDir : String) :
    Yields (files.prepare arguments workingDir) fun prepared =>
      ∃ project index options,
        (files.findProject? arguments workingDir).run = .ok project ∧
        (files.modelFiles (arguments.inputPaths workingDir project)).run = .ok prepared.filesRead ∧
        (files.loadIndex prepared.filesRead).run = .ok index ∧
        RenderOptions.resolve (project.bind (·.config.emitOptions)) arguments = .ok options ∧
        prepared.generation = index.generate options ∧
        prepared.outputs = if arguments.noEmit then []
          else (index.generate options).outputFiles (arguments.outputDir workingDir project) := by
  unfold prepare
  refine (files.yields_findProject? arguments workingDir).bind fun project hproject _ => ?_
  dsimp only
  split
  next => exact .throwThen rfl _
  next =>
    refine (files.yields_modelFiles _).bind fun filesRead hfiles _ => ?_
    refine (files.yields_loadIndex filesRead).bind fun index hindex _ => ?_
    split
    next => exact .throw rfl
    next options hoptions =>
      exact .pure ⟨project, index, options, hproject, hfiles, hindex, hoptions, rfl, rfl⟩

end FileReader

/-! ## The outputs -/

/-- The output directory is the one given, below the working directory, or else the one that the
project names, below the directory of the project, or else the directory of the project or the
working directory. -/
theorem Arguments.outputDir_eq (arguments : Arguments) (workingDir : String)
    (project : Option Project) :
    arguments.outputDir workingDir project =
      ((arguments.outDir.map (Path.join workingDir)).or
        (project.bind fun p => p.config.outDir.map (Path.join p.baseDir))).getD
          ((project.map (·.baseDir)).getD workingDir) := by
  have hproject : (fun p : Project => p.config.outDir.map (Path.join p.baseDir)) =
      Project.outDir := rfl
  rw [hproject]
  unfold outputDir
  split
  next h => simp [h]
  next h hdir => simp [h, hdir]
  next h hdir => simp [h, hdir]

namespace ContractIndex

variable {index : ContractIndex} {options : RenderOptions} {a : Artifact}

/-- A file name without slashes is a name below every output directory. -/
theorem path_of_simple (ha : a ∈ (index.generate options).artifacts)
    (hsimple : '/' ∉ a.fileName.toList) (outDir : String) :
    Path.lastSegment (Path.join outDir a.fileName) = a.fileName.toList ∧
      Path.EndsInName (Path.join outDir a.fileName) ∧
      Path.Below outDir (Path.join outDir a.fileName) := by
  obtain ⟨id, c, hc, -, hname, hfile⟩ := exists_of_mem_artifacts ha
  have hlast := Path.lastSegment_join hsimple outDir
  refine ⟨hlast, ?_, ?_⟩
  · rw [Path.EndsInName, hlast]
    refine Path.ofSegment?_eq_name ?_
    rw [hfile, Artifact.toList_fileNameFor]
    simp [Artifact.extension]
  · rw [hfile] at hsimple ⊢
    refine ((Artifact.fileNameFor_below_iff c.name.qualified outDir).2 (.of_simple ?_)).2
    rw [Artifact.toList_fileNameFor] at hsimple
    intro hslash
    refine hsimple (List.mem_append_left _ (List.mem_map.2 ⟨'/', hslash, ?_⟩))
    exact (Artifact.fileNameChar_eq_slash_iff '/').2 rfl

/-- Artifacts with distinct file names without slashes have files of distinct names, all of them
below the output directory. -/
theorem outputFiles_of_simple (outDir : String)
    (hsimple : ∀ a ∈ (index.generate options).artifacts, '/' ∉ a.fileName.toList)
    (hdistinct : ((index.generate options).artifacts.map (·.fileName)).Nodup) :
    (∀ o ∈ (index.generate options).outputFiles outDir,
      Path.EndsInName o.path ∧ Path.Below outDir o.path) ∧
    (((index.generate options).outputFiles outDir).map fun o => Path.lastSegment o.path).Nodup := by
  have hplaced := fun a ha => path_of_simple ha (hsimple a ha) outDir
  constructor
  · intro o ho
    obtain ⟨a, ha, rfl⟩ := List.mem_map.1 ho
    exact (hplaced a ha).2
  · have hlast : ((index.generate options).outputFiles outDir).map
        (fun o => Path.lastSegment o.path) =
        ((index.generate options).artifacts.map (·.fileName)).map String.toList := by
      rw [Generation.outputFiles, List.map_map, List.map_map]
      exact List.map_congr_left fun a ha => (hplaced a ha).1
    rw [hlast]
    exact hdistinct.map fun a b h => String.toList_inj.1 h

theorem artifact_generateOne (id : ContractId) :
    (index.generateOne options id).artifact =
      (index.synthesize id options.className).toOption.map (Artifact.ofClass · options) := by
  unfold generateOne
  split
  next h => simp [h, Except.toOption]
  next h => simp [h, Except.toOption]

/-- There is one artifact for each contract to be implemented that can be synthesized, in the
order in which the contracts were found. -/
theorem artifacts_generate (index : ContractIndex) (options : RenderOptions) :
    (index.generate options).artifacts = index.implementable.filterMap fun id =>
      (index.synthesize id options.className).toOption.map (Artifact.ofClass · options) := by
  rw [Generation.artifacts, outcomes_generate, List.filterMap_map]
  exact List.filterMap_congr fun id _ => artifact_generateOne id

/-- A batch has errors when some contract to be implemented cannot be synthesized. -/
theorem hasErrors_generate_iff_synthesize (index : ContractIndex) (options : RenderOptions) :
    (index.generate options).hasErrors = true ↔
      ∃ id ∈ index.implementable, ∃ e, index.synthesize id options.className = .error e := by
  have hartifact : ∀ id, (index.generateOne options id).artifact = none ↔
      ∃ e, index.synthesize id options.className = .error e := by
    intro id
    rw [artifact_generateOne]
    cases index.synthesize id options.className <;> simp [Except.toOption]
  rw [hasErrors_generate_iff, outcomes_generate]
  constructor
  · rintro ⟨o, ho, hnone⟩
    obtain ⟨id, hid, rfl⟩ := List.mem_map.1 ho
    exact ⟨id, hid, (hartifact id).1 hnone⟩
  · rintro ⟨id, hid, herror⟩
    exact ⟨_, List.mem_map_of_mem hid, (hartifact id).2 herror⟩

end ContractIndex

namespace Run

/-- What a finished run has done with the project, the models and the options that it found.
The output directory is the one given, below the working directory, or else the one that the
project names, below the directory of the project, or else the directory of the project or the
working directory. -/
structure Completes (r : Run) (tree after : FileTree) (arguments : Arguments) (workingDir : String)
    (project : Option Project) (index : ContractIndex) (options : RenderOptions) : Prop where
  found : (tree.reader.findProject? arguments workingDir).run = .ok project
  models : (tree.reader.modelFiles (arguments.inputPaths workingDir project)).run = .ok r.filesRead
  loaded : (tree.reader.loadIndex r.filesRead).run = .ok index
  resolved : RenderOptions.resolve (project.bind (·.config.emitOptions)) arguments = .ok options
  generated : r.generation = index.generate options
  ordered : r.generation.artifacts = index.implementable.filterMap fun id =>
    (index.synthesize id options.className).toOption.map (Artifact.ofClass · options)
  silent : arguments.noEmit = true → r.emittedFiles = [] ∧ after = tree
  emitted : arguments.noEmit = false →
    (∀ a ∈ r.generation.artifacts, '/' ∉ a.fileName.toList) →
    (r.generation.artifacts.map (·.fileName)).Nodup →
    let outDir :=
      ((arguments.outDir.map (Path.join workingDir)).or
        (project.bind fun p => p.config.outDir.map (Path.join p.baseDir))).getD
          ((project.map (·.baseDir)).getD workingDir)
    r.emittedFiles = r.generation.artifacts.map (fun a => Path.join outDir a.fileName) ∧
    (∀ path ∈ r.emittedFiles, Path.Below outDir path) ∧
    tree.Writes after (r.generation.artifacts.map fun a => ⟨Path.join outDir a.fileName, a.text⟩)
  failed : r.exitCode = 1 ↔
    ∃ id ∈ index.implementable, ∃ e, index.synthesize id options.className = .error e
  succeeded : r.exitCode = 0 ↔
    ¬ ∃ id ∈ index.implementable, ∃ e, index.synthesize id options.className = .error e

variable {tree after : FileTree}

theorem completes_ofPrepared {p : PreparedRun}
    (h : (tree.reader.prepare arguments workingDir).run = .ok p)
    (hsilent : p.outputs = [] → after = tree)
    (hwritten : (∀ o ∈ p.outputs, Path.EndsInName o.path) →
      (p.outputs.map fun o => Path.lastSegment o.path).Nodup → tree.Writes after p.outputs) :
    ∃ project index options,
      (ofPrepared p).Completes tree after arguments workingDir project index options := by
  obtain ⟨project, index, options, hproject, hmodels, hindex, hoptions, hgeneration, houtputs⟩ :=
    (tree.reader.yields_prepare arguments workingDir).of_ok h
  have hexit : (ofPrepared p).exitCode = if (index.generate options).hasErrors then 1 else 0 := by
    rw [← hgeneration]
    rfl
  have herrors := index.hasErrors_generate_iff_synthesize options
  have hartifacts := index.artifacts_generate options
  rw [← hgeneration] at hartifacts
  refine ⟨project, index, options, hproject, hmodels, hindex, hoptions, hgeneration, hartifacts,
    ?_, ?_, ?_, ?_⟩
  · -- No files are asked for: none are listed, and the tree stays as it is.
    intro hnoEmit
    rw [hnoEmit, if_pos rfl] at houtputs
    refine ⟨?_, hsilent houtputs⟩
    rw [ofPrepared, houtputs]
    rfl
  · -- Simple file names keep the files in the directory, and distinct ones keep them apart.
    intro hemit hsimple hdistinct outDir
    rw [hemit, if_neg Bool.false_ne_true, arguments.outputDir_eq] at houtputs
    have hgenerated : (ofPrepared p).generation = index.generate options := hgeneration
    rw [hgenerated] at hsimple hdistinct ⊢
    obtain ⟨hplaced, hlast⟩ := ContractIndex.outputFiles_of_simple outDir hsimple hdistinct
    rw [houtputs] at hwritten
    have hpaths : (ofPrepared p).emittedFiles =
        (index.generate options).artifacts.map fun a => Path.join outDir a.fileName := by
      show p.outputs.map _ = _
      rw [houtputs, Generation.outputFiles, List.map_map]
      rfl
    refine ⟨hpaths, fun path hpath => ?_, hwritten (fun o ho => (hplaced o ho).1) hlast⟩
    rw [hpaths, List.mem_map] at hpath
    obtain ⟨a, ha, rfl⟩ := hpath
    exact (hplaced _ (List.mem_map_of_mem ha)).2
  · rw [hexit, ← herrors]
    split <;> simp_all
  · rw [hexit, ← herrors]
    split <;> simp_all

/-- Nothing is to be written if nothing is to be emitted. -/
theorem outputs_of_noEmit {p : PreparedRun}
    (h : (tree.reader.prepare arguments workingDir).run = .ok p)
    (hnoEmit : arguments.noEmit = true) : p.outputs = [] := by
  obtain ⟨_, _, _, _, _, _, _, _, houtputs⟩ :=
    (tree.reader.yields_prepare arguments workingDir).of_ok h
  rwa [hnoEmit, if_pos rfl] at houtputs

/-- A run that cannot start writing leaves the tree as it was. -/
theorem ofTree_of_error {e : HostError}
    (h : (tree.reader.prepare arguments workingDir).run = .error e) :
    ofTree tree arguments workingDir = (.error e, tree) := by
  unfold ofTree
  rw [h]

/-- A run that can start writing ends as the writing does. -/
theorem ofTree_of_ok {p : PreparedRun}
    (h : (tree.reader.prepare arguments workingDir).run = .ok p) :
    ofTree tree arguments workingDir =
      let (written, after) := (FileTree.writer.writeAll p.outputs).run.run tree
      (written.map fun _ => ofPrepared p, after) := by
  unfold ofTree
  generalize (tree.reader.prepare arguments workingDir).run = prepared at h
  subst h
  rfl

/-- For every file tree, working directory and command line: a run fails before the writing when
its project, its inputs, its models or its options are not in order, and only then with an error
that is none of writing. It leaves the tree as it was in that case, and also when nothing is to
be written. A run that is finished has completed all that it was asked for. -/
theorem ofTree_keeps_or_completes (tree : FileTree) (arguments : Arguments) (workingDir : String) :
    let (result, after) := ofTree tree arguments workingDir
    (∀ e, (tree.reader.prepare arguments workingDir).run = .error e ↔
      result = .error e ∧ e.isWriting = false) ∧
    ((∃ e, result = .error e ∧ e.isWriting = false) ∨ arguments.noEmit = true → after = tree) ∧
    ∀ r, result = .ok r → ∃ project index options,
      r.Completes tree after arguments workingDir project index options := by
  cases h : (tree.reader.prepare arguments workingDir).run with
  | error e =>
    have hreading := (tree.reader.yields_prepare arguments workingDir).of_error h
    rw [ofTree_of_error h]
    refine ⟨fun found => ⟨?_, ?_⟩, fun _ => rfl, nofun⟩
    · rintro ⟨⟩
      exact ⟨rfl, hreading⟩
    · rintro ⟨⟨⟩, -⟩
      rfl
  | ok p =>
    have hsilent : p.outputs = [] →
        (FileTree.writer.writeAll p.outputs).run.run tree = (.ok (), tree) := by
      intro houtputs
      rw [houtputs]
      rfl
    have hwritten := tree.achieves_writeAll p.outputs
    unfold FileTree.Achieves at hwritten
    rw [ofTree_of_ok h]
    rcases hrun : (FileTree.writer.writeAll p.outputs).run.run tree with ⟨e | _, after⟩
    · rw [hrun] at hwritten hsilent
      have hne : ∀ found : HostError,
          ¬ ((.error e : Except HostError Run) = .error found ∧ found.isWriting = false) := by
        rintro found ⟨⟨⟩, hfound⟩
        rw [hwritten] at hfound
        cases hfound
      refine ⟨fun found => iff_of_false nofun (hne found), ?_, nofun⟩
      rintro (⟨found, hfound⟩ | hnoEmit)
      · exact absurd hfound (hne found)
      · cases hsilent (outputs_of_noEmit h hnoEmit)
    · rw [hrun] at hwritten hsilent
      have hafter : p.outputs = [] → after = tree := fun houtputs =>
        (Prod.mk.inj (hsilent houtputs)).2
      refine ⟨fun found => iff_of_false nofun nofun, ?_, ?_⟩
      · rintro (⟨found, ⟨⟩, -⟩ | hnoEmit)
        exact hafter (outputs_of_noEmit h hnoEmit)
      · rintro r ⟨⟩
        exact completes_ofPrepared h hafter hwritten

end Run

end ClassSynthesis
