import ClassSynthesis.Proofs.Host.FileChanges
import ClassSynthesis.Proofs.Host.Outputs

/-!
# Writing the Outputs

Writing one output adds directories above it and then the file, and changes nothing else
(`FileTree.achieves_writeOutput`). Outputs of different names do not overwrite each other, so
after writing all of them each is there with exactly its text (`FileTree.achieves_writeAll`).
Only errors of writing can end this (`FileTree.Achieves`).
-/

namespace ClassSynthesis

/-! ## Paths -/

namespace Path

/-- The last segment of a path. -/
def lastSegment (path : String) : List Char := (Text.pieces '/' path.toList).getLast?.getD []

/-- The paths above a path. -/
def above (path : String) : List String := ((parent? path).map ancestors).getD []

/-- A path without slashes is the last segment of a path below a base. -/
theorem lastSegment_join {path : String} (h : '/' ∉ path.toList) (base : String) :
    lastSegment (join base path) = path.toList := by
  have hrelative : isAbsolute path = false :=
    isAbsolute_eq_false_iff.2 fun hhead => h (List.mem_of_mem_head? hhead)
  have hlast : ∀ cs : List Char,
      (Text.pieces '/' (cs ++ '/' :: path.toList)).getLast?.getD [] = path.toList := by
    intro cs
    rw [Text.pieces_append_cons, Text.pieces_of_not_mem h, List.getLast?_concat]
    rfl
  rw [lastSegment, join, hrelative, if_neg Bool.false_ne_true]
  split
  next hbase =>
    rcases Bool.or_eq_true _ _ ▸ hbase with hempty | hslash
    · rw [String.isEmpty_iff.1 hempty]
      simp [Text.pieces_of_not_mem h]
    · obtain ⟨cs, hcs⟩ := List.getLast?_eq_some_iff.1 (beq_iff_eq.1 hslash)
      rw [String.toList_append, hcs, List.append_assoc]
      exact hlast cs
  next =>
    rw [String.toList_append, String.toList_append, List.append_assoc]
    exact hlast base.toList

/-- A path that ends in a name leads to something of that name. -/
def EndsInName (path : String) : Prop :=
  Component.ofSegment? (lastSegment path) = some (.name (String.ofList (lastSegment path)))

end Path

/-! ## One output -/

/-- Whether an error is one of writing. -/
def HostError.isWriting : HostError → Bool
  | directoryNotMade _ _ | fileNotWritten _ _ => true
  | _ => false

namespace FileTree

variable {tree after : FileTree} {output : OutputFile} {location : Location}

/-- Started from a tree, an action leaves a tree with a property, unless an error of writing
ends it. -/
def Achieves (tree : FileTree) (action : ExceptT HostError (StateM FileTree) Unit)
    (post : FileTree → Prop) : Prop :=
  match action.run.run tree with
  | (.ok (), after) => post after
  | (.error e, _) => e.isWriting = true

namespace Achieves

variable {action next : ExceptT HostError (StateM FileTree) Unit} {post mid : FileTree → Prop}

theorem pure (h : post tree) : tree.Achieves (Pure.pure ()) post := h

theorem mono (h : tree.Achieves action mid) (hpost : ∀ after, mid after → post after) :
    tree.Achieves action post := by
  unfold Achieves at h ⊢
  split at h
  next => exact hpost _ h
  next => exact h

theorem bind (hfirst : tree.Achieves action mid)
    (hnext : ∀ between, mid between → between.Achieves next post) :
    tree.Achieves (action >>= fun _ => next) post := by
  have hrun : (action >>= fun _ => next).run.run tree =
      (ExceptT.bindCont (fun _ => next) (action.run.run tree).1).run (action.run.run tree).2 := rfl
  unfold Achieves at hfirst ⊢
  rw [hrun]
  rcases h : action.run.run tree with ⟨e | _, between⟩
  · rw [h] at hfirst
    exact hfirst
  · rw [h] at hfirst
    exact hnext between hfirst

/-- What an attempt explains its failure with is an error of writing. -/
theorem attempt {attempt : StateM FileTree (Except FileError Unit)}
    {explain : FileError → HostError} (hexplain : ∀ cause, (explain cause).isWriting = true)
    (hattempt : ∀ between, attempt.run tree = (.ok (), between) → between.Achieves next post) :
    tree.Achieves (do
      if let .error cause ← attempt then throw (explain cause)
      next) post := by
  have hrun : (do
      if let .error cause ← attempt then throw (explain cause)
      next : ExceptT HostError (StateM FileTree) Unit).run.run tree =
      (match (attempt.run tree).1 with
        | .error cause => throw (explain cause)
        | _ => next : ExceptT HostError (StateM FileTree) Unit).run.run (attempt.run tree).2 := rfl
  unfold Achieves
  rw [hrun]
  rcases h : attempt.run tree with ⟨cause | _, between⟩
  · exact hexplain cause
  · exact hattempt between h

end Achieves

/-- A change that succeeds is taken over. -/
theorem become_eq_ok_iff {changed : Except FileError FileTree} :
    tree.become changed = (.ok (), after) ↔ changed = .ok after := by
  cases changed <;> simp [become]

/-- A tree into which outputs have been written: each path leads to a file with exactly its
text, and nothing else is changed but that directories above the outputs are new. -/
structure Writes (before after : FileTree) (outputs : List OutputFile) : Prop where
  written : ∀ o ∈ outputs, ∃ location,
    after.locate o.path = .ok location ∧ after.get? location = some (.file o.text.toUTF8)
  unchanged : ∀ location, after.get? location = before.get? location ∨
    (before.get? location ≠ some .directory ∧ ∃ o ∈ outputs, after.locate o.path = .ok location) ∨
    (before.get? location = none ∧ after.get? location = some .directory ∧
      ∃ o ∈ outputs, ∃ path ∈ Path.above o.path, after.locate path = .ok location)

/-- A path that ends in a name leads to a location of that name. -/
theorem getLast?_of_locate {path : String} (hpath : Path.EndsInName path)
    (h : tree.locate path = .ok location) :
    location.getLast? = some (String.ofList (Path.lastSegment path)) := by
  obtain ⟨parts, hparts, hfollow⟩ := locate_eq_ok_iff.1 h
  obtain ⟨-, -, -, rfl⟩ := segments_eq_ok_iff.1 hparts
  rw [eq_dropLast_append_of_name hpath, follow_concat_eq_ok_iff] at hfollow
  obtain ⟨directory, -, hdescend⟩ := hfollow
  obtain ⟨-, hname⟩ := descend_eq_ok_iff.1 hdescend
  have hlast : Path.Component.ofSegment? ((Text.pieces '/' path.toList).getLast?.getD []) = _ :=
    hpath
  rw [hlast] at hname
  rw [hname.2.2]
  exact List.getLast?_concat

namespace Writes

variable {before mid : FileTree} {outputs : List OutputFile}

theorem nil (tree : FileTree) : tree.Writes tree [] where
  written := by simp
  unchanged := fun _ => Or.inl rfl

theorem keeps (h : before.Writes after outputs) : before.Keeps after := by
  constructor
  · intro location hlocation
    rcases h.unchanged location with heq | ⟨hne, -⟩ | ⟨hnone, -⟩
    · rwa [heq]
    · exact absurd hlocation hne
    · rw [hlocation] at hnone
      cases hnone
  · intro location hlocation
    rcases h.unchanged location with heq | ⟨-, o, ho, hlocate⟩ | ⟨-, hdirectory, -⟩
    · rwa [heq]
    · obtain ⟨found, hfound, hfile⟩ := h.written o ho
      rw [hlocate] at hfound
      cases hfound
      rw [hfile]
      rfl
    · rw [hdirectory]
      rfl

/-- Writing one output changes nothing else but that directories above it are new. -/
theorem of_writeFile (hadds : tree.AddsDirectories mid (Path.above output.path))
    (hwrite : mid.writeFile output.path output.text.toUTF8 = .ok after) :
    tree.Writes after [output] := by
  obtain ⟨parts, directory, name, hparts, hfollow, hdirectory, hname, hfree, hsize, hget⟩ :=
    writeFile_spec hwrite
  have hkeeps : mid.Keeps after := .of_change hfree hget
  -- The path now leads to the file, which stands under its name in the directory.
  have hlocate : after.locate output.path = .ok (directory ++ [name]) := by
    rw [locate_eq_ok_iff]
    refine ⟨parts, hparts, ?_⟩
    rw [eq_dropLast_append_of_name hname, follow_concat_eq_ok_iff]
    refine ⟨directory, hkeeps.follow hfollow, descend_eq_ok_iff.2 ⟨?_, ?_⟩⟩
    · exact hkeeps.directory _ hdirectory
    · rw [hname]
      exact ⟨hsize, by simp [hget], rfl⟩
  constructor
  · intro o ho
    rw [List.mem_singleton.1 ho]
    exact ⟨_, hlocate, by simp [hget]⟩
  · intro location
    rw [hget]
    -- What the file is not written to is as it was before, or one of the directories made.
    split
    next heq =>
      refine Or.inr (Or.inl ⟨fun hbefore => hfree ?_, output, by simp, by rw [hlocate, heq]⟩)
      rw [← heq]
      exact hadds.keeps.directory _ hbefore
    next =>
      refine (hadds location).imp_right fun h => Or.inr ?_
      obtain ⟨hnone, hadded, path, hpath, hlead⟩ := h
      exact ⟨hnone, hadded, output, by simp, path, hpath, hkeeps.locate hlead⟩

/-- Outputs whose last segments differ do not overwrite each other. -/
theorem cons (hfirst : tree.Writes mid [output]) (hrest : mid.Writes after outputs)
    (hnames : ∀ o ∈ output :: outputs, Path.EndsInName o.path)
    (hne : ∀ o ∈ outputs, Path.lastSegment o.path ≠ Path.lastSegment output.path) :
    tree.Writes after (output :: outputs) := by
  constructor
  · intro o ho
    rcases List.mem_cons.1 ho with rfl | ho
    · obtain ⟨location, hlocate, hfile⟩ := hfirst.written o List.mem_cons_self
      refine ⟨location, hrest.keeps.locate hlocate, ?_⟩
      rcases hrest.unchanged location with heq | ⟨-, p, hp, hother⟩ | ⟨hnone, -⟩
      · rw [heq, hfile]
      · -- The location would have the names of two outputs.
        have hfirstName := getLast?_of_locate (hnames o ho) (hrest.keeps.locate hlocate)
        have hotherName := getLast?_of_locate (hnames p (List.mem_cons_of_mem _ hp)) hother
        rw [hfirstName, Option.some.injEq, String.ofList_inj] at hotherName
        exact absurd hotherName.symm (hne p hp)
      · rw [hfile] at hnone
        cases hnone
    · exact hrest.written o ho
  · intro location
    rcases hrest.unchanged location with heq | ⟨hmid, o, ho, hlocate⟩ | ⟨hnone, hnew, o, ho, hpath⟩
    · rw [heq]
      rcases hfirst.unchanged location with heq | ⟨hbefore, o, ho, hlocate⟩ |
        ⟨hnone, hnew, o, ho, path, hpath, hlocate⟩
      · exact Or.inl heq
      · have ho := List.mem_append_left outputs ho
        exact Or.inr (Or.inl ⟨hbefore, o, ho, hrest.keeps.locate hlocate⟩)
      · have ho := List.mem_append_left outputs ho
        exact Or.inr (Or.inr ⟨hnone, hnew, o, ho, path, hpath, hrest.keeps.locate hlocate⟩)
    · -- What is no directory in between was none before.
      have hbefore := mt (hfirst.keeps.directory location) hmid
      exact Or.inr (Or.inl ⟨hbefore, o, List.mem_cons_of_mem _ ho, hlocate⟩)
    · have hbefore : tree.get? location = none := by
        rw [← Option.not_isSome_iff_eq_none] at hnone ⊢
        exact mt (hfirst.keeps.existing location) hnone
      exact Or.inr (Or.inr ⟨hbefore, hnew, o, List.mem_cons_of_mem _ ho, hpath⟩)

end Writes

theorem achieves_writeOutput (tree : FileTree) (output : OutputFile) :
    tree.Achieves (writer.writeOutput output) (tree.Writes · [output]) := by
  have hwrite : ∀ mid, tree.AddsDirectories mid (Path.above output.path) →
      mid.Achieves (do
        if let .error cause ← writer.writeText output.path output.text then
          throw (.fileNotWritten output.path cause)
        pure ()) (tree.Writes · [output]) := by
    intro mid hadds
    refine .attempt (fun _ => rfl) fun after hafter => .pure ?_
    exact .of_writeFile hadds (become_eq_ok_iff.1 hafter)
  unfold FileWriter.writeOutput
  split
  next directory hparent =>
    refine Achieves.attempt (fun _ => rfl) fun mid hmid => hwrite mid ?_
    have hadds := OnlyAdds.createDirectories directory tree
    rw [hmid] at hadds
    rwa [Path.above, hparent]
  next hparent => exact hwrite tree (.refl tree _)

/-- Outputs are written one by one; if their names differ, all of them are there at the end. -/
theorem achieves_writeAll (tree : FileTree) (outputs : List OutputFile) :
    tree.Achieves (writer.writeAll outputs) fun after =>
      (∀ o ∈ outputs, Path.EndsInName o.path) →
      (outputs.map fun o => Path.lastSegment o.path).Nodup → tree.Writes after outputs := by
  induction outputs generalizing tree with
  | nil => exact .pure fun _ _ => .nil tree
  | cons output outputs ih =>
    refine (achieves_writeOutput tree output).bind fun mid hfirst => ?_
    refine (ih mid).mono fun after hrest hnames hdistinct => ?_
    rw [List.map_cons, List.nodup_cons] at hdistinct
    refine hfirst.cons (hrest (fun o ho => ?_) hdistinct.2) hnames fun o ho heq => ?_
    · exact hnames o (List.mem_cons_of_mem _ ho)
    · exact hdistinct.1 (heq ▸ List.mem_map_of_mem ho)

end FileTree

end ClassSynthesis
