import ClassSynthesis.Proofs.Generation.Store

/-!
# Handing Over the Artifacts of a Batch

A sink accepts an artifact or fails, and has a new state either way. A batch hands its artifacts
over one by one, in the order of its outcomes. Any sink can be made to keep what it is handed
(`Sink.recorded`), which changes nothing else (`Sink.handAll_recorded`) and shows that a batch
stops right behind the first failure and is otherwise handed over as a whole
(`Generation.emitTo_hands_over`).

## Main definitions

- `Sink`: what accepts artifacts, over any state and with any error.
- `Sink.AcceptsAll`, `Sink.FailsAt`: acceptance one after the other, up to the first failure.
- `Sink.recorded`: the sink that also keeps what it is handed.
-/

namespace ClassSynthesis

/-- What accepts artifacts. It may have another state afterwards also when it fails. -/
abbrev Sink (σ ε : Type) : Type := Artifact → ExceptT ε (StateM σ) Unit

namespace Sink

variable {σ ε : Type} (sink : Sink σ ε)

/-- What handing over an artifact comes to: success or a failure, and the state afterwards. -/
def hand (artifact : Artifact) (s : σ) : Except ε Unit × σ := (sink artifact).run.run s

/-- What handing over artifacts one by one comes to: their number or a failure, and the state
afterwards. -/
def handAll (artifacts : List Artifact) (s : σ) : Except ε Nat × σ :=
  (Generation.emitAll sink artifacts).run.run s

/-- The sink accepts artifacts one after the other, from one state to another. -/
def AcceptsAll : σ → List Artifact → σ → Prop
  | s, [], after => after = s
  | s, artifact :: rest, after =>
    ∃ next, sink.hand artifact s = (.ok (), next) ∧ AcceptsAll next rest after

/-- Of the artifacts handed over, the one at a position is the first that the sink does not
accept. -/
def FailsAt (s : σ) (artifacts : List Artifact) (position : Nat) (e : ε) (after : σ) : Prop :=
  ∃ artifact before, artifacts[position]? = some artifact ∧
    sink.AcceptsAll s (artifacts.take position) before ∧
    sink.hand artifact before = (.error e, after)

/-- The sink that also keeps what it is handed, whether it accepts it or not. -/
def recorded : Sink (List Artifact × σ) ε := fun artifact =>
  ExceptT.mk fun (handed, s) =>
    let (result, after) := sink.hand artifact s
    (result, handed ++ [artifact], after)

theorem hand_recorded (artifact : Artifact) (handed : List Artifact) (s : σ) :
    sink.recorded.hand artifact (handed, s) =
      ((sink.hand artifact s).1, handed ++ [artifact], (sink.hand artifact s).2) := rfl

/-- What is handed over first decides: a failure ends it, and after a success the rest is handed
over. -/
theorem handAll_cons (artifact : Artifact) (rest : List Artifact) (s : σ) :
    sink.handAll (artifact :: rest) s =
      match sink.hand artifact s with
      | (.error e, after) => (.error e, after)
      | (.ok (), next) =>
        let (result, after) := sink.handAll rest next
        (result.map (· + 1), after) := by
  have hfirst : (sink artifact).run.run s = sink.hand artifact s := rfl
  simp only [handAll]
  rw [Generation.emitAll, ExceptT.run_bind, StateT.run_bind, hfirst]
  rcases sink.hand artifact s with ⟨e | ⟨⟩, next⟩
  · rfl
  · -- The count of what follows goes up by one, and a failure there stays what it is.
    show (do
      let count ← Generation.emitAll sink rest
      return count + 1).run.run next = _
    rw [ExceptT.run_bind, StateT.run_bind]
    dsimp only
    rcases (Generation.emitAll sink rest).run.run next with ⟨e | count, after⟩
    · rfl
    · rfl

/-- Keeping what is handed over changes neither the result nor the state. -/
theorem handAll_recorded (artifacts handed : List Artifact) (s : σ) :
    sink.handAll artifacts s =
      ((sink.recorded.handAll artifacts (handed, s)).1,
        (sink.recorded.handAll artifacts (handed, s)).2.2) := by
  induction artifacts generalizing handed s with
  | nil => rfl
  | cons artifact rest ih =>
    rw [handAll_cons, handAll_cons, hand_recorded]
    rcases sink.hand artifact s with ⟨e | ⟨⟩, next⟩
    · rfl
    · dsimp only
      rw [ih (handed ++ [artifact]) next]

variable {sink} {s after : σ} {artifact : Artifact} {rest artifacts : List Artifact} {e : ε}
  {position : Nat}

theorem failsAt_cons_zero :
    sink.FailsAt s (artifact :: rest) 0 e after ↔ sink.hand artifact s = (.error e, after) := by
  simp [FailsAt, AcceptsAll]

theorem failsAt_cons_succ :
    sink.FailsAt s (artifact :: rest) (position + 1) e after ↔
      ∃ next, sink.hand artifact s = (.ok (), next) ∧
        sink.FailsAt next rest position e after := by
  simp only [FailsAt, List.getElem?_cons_succ, List.take_succ_cons, AcceptsAll]
  constructor
  · rintro ⟨failing, before, hfailing, ⟨next, hnext, haccepts⟩, hfails⟩
    exact ⟨next, hnext, failing, before, hfailing, haccepts, hfails⟩
  · rintro ⟨next, hnext, failing, before, hfailing, haccepts, hfails⟩
    exact ⟨failing, before, hfailing, ⟨next, hnext, haccepts⟩, hfails⟩

/-- All artifacts are accepted, or one of them is the first that is not. -/
theorem acceptsAll_or_failsAt (sink : Sink σ ε) (s : σ) (artifacts : List Artifact) :
    (∃ after, sink.AcceptsAll s artifacts after) ∨
      ∃ position e after, sink.FailsAt s artifacts position e after := by
  induction artifacts generalizing s with
  | nil => exact .inl ⟨s, rfl⟩
  | cons artifact rest ih =>
    rcases hhand : sink.hand artifact s with ⟨e | ⟨⟩, next⟩
    · exact .inr ⟨0, e, next, failsAt_cons_zero.2 hhand⟩
    · rcases ih next with ⟨after, haccepts⟩ | ⟨position, e, after, hfails⟩
      · exact .inl ⟨after, next, hhand, haccepts⟩
      · exact .inr ⟨position + 1, e, after, failsAt_cons_succ.2 ⟨next, hhand, hfails⟩⟩

/-- Artifacts that are all accepted are handed over in order, and counted. -/
theorem AcceptsAll.handAll_eq (h : sink.AcceptsAll s artifacts after) (handed : List Artifact) :
    sink.recorded.handAll artifacts (handed, s) =
      (.ok artifacts.length, handed ++ artifacts, after) := by
  induction artifacts generalizing s handed with
  | nil =>
    obtain rfl : after = s := h
    rw [List.append_nil]
    rfl
  | cons artifact rest ih =>
    obtain ⟨next, hhand, haccepts⟩ := h
    rw [handAll_cons, hand_recorded, hhand]
    dsimp only
    rw [ih haccepts, List.append_assoc]
    rfl

/-- The artifacts up to the first that is not accepted are handed over in order, and nothing
after it. The failure is the result, and the state is as the failure left it. -/
theorem FailsAt.handAll_eq (h : sink.FailsAt s artifacts position e after)
    (handed : List Artifact) :
    sink.recorded.handAll artifacts (handed, s) =
      (.error e, handed ++ artifacts.take (position + 1), after) := by
  induction artifacts generalizing s handed position with
  | nil =>
    obtain ⟨failing, -, hfailing, -⟩ := h
    exact absurd hfailing (by simp)
  | cons artifact rest ih =>
    rw [handAll_cons, hand_recorded]
    cases position with
    | zero =>
      rw [failsAt_cons_zero.1 h]
      rfl
    | succ position =>
      obtain ⟨next, hhand, hfails⟩ := failsAt_cons_succ.1 h
      rw [hhand]
      dsimp only
      rw [ih hfails, List.append_assoc]
      rfl

end Sink

/-- A store that has accepted artifacts lists their file names once each, in the order of first
acceptance. Under each name it has the text of the last artifact of this name, and nothing under
any other name.

A batch hands over the artifacts of its outcomes in order, and keeping what is handed over changes
neither the result nor the state of the sink. If a sink fails for the first time at some position,
it has been handed the artifacts up to that position and nothing more, and its failure is the
result. If it accepts all of them, it has been handed all, and their number is the result. -/
theorem Generation.emitTo_hands_over {σ ε : Type} (accepted : List Artifact) (g : Generation)
    (sink : Sink σ ε) (s : σ) :
    let store := ArtifactStore.empty.acceptAll accepted
    let artifacts := g.outcomes.filterMap (·.artifact)
    let emission := (g.emitTo sink.recorded).run.run ([], s)
    (store.fileNames = (accepted.map (·.fileName)).eraseDups ∧
      store.size = (accepted.map (·.fileName)).eraseDups.length ∧
      ∀ name, store.get? name =
          (accepted.filter (·.fileName == name)).getLast?.map (·.text) ∧
        (store.get? name = none ↔ ∀ a ∈ accepted, a.fileName ≠ name)) ∧
    (g.emitTo sink).run.run s = (emission.1, emission.2.2) ∧
    (∀ position e after, sink.FailsAt s artifacts position e after →
      emission = (.error e, artifacts.take (position + 1), after)) ∧
    (∀ after, sink.AcceptsAll s artifacts after →
      emission = (.ok artifacts.length, artifacts, after)) ∧
    ((∃ after, sink.AcceptsAll s artifacts after) ∨
      ∃ position e after, sink.FailsAt s artifacts position e after) := by
  intro store artifacts emission
  have hnames : store.fileNames = (accepted.map (·.fileName)).eraseDups :=
    ArtifactStore.fileNames_acceptAll accepted
  refine ⟨⟨hnames, ?_, fun name => ⟨ArtifactStore.get?_acceptAll_empty accepted name, ?_⟩⟩,
    sink.handAll_recorded artifacts [] s, ?_, ?_, sink.acceptsAll_or_failsAt s artifacts⟩
  · rw [ArtifactStore.size_eq_length_fileNames, hnames]
  · rw [ArtifactStore.get?_acceptAll_empty, Option.map_eq_none_iff, List.getLast?_eq_none_iff,
      List.filter_eq_nil_iff]
    simp
  · intro position e after hfails
    exact hfails.handAll_eq []
  · intro after haccepts
    exact haccepts.handAll_eq []

end ClassSynthesis
