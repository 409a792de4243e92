import ClassSynthesis.Proofs.Contract.ClosureErrors
import ClassSynthesis.Proofs.Generation.Batch
import ClassSynthesis.Proofs.Generation.Diagnostics
import ClassSynthesis.Proofs.Synthesis.Collisions
import ClassSynthesis.Proofs.Synthesis.Origins

/-!
# What a Batch Reports

The diagnostics of a batch tell what has been generated. A contract that resolves has a file
and one warning for each name that occurs with several types (`Outcome.WarnsOf`); a contract
that does not has one error, and only the four ways in which a registered contract can fail
occur (`Outcome.Fails`). Nothing is generated for other contracts, and a batch with nothing to
generate says so (`ContractIndex.outcomes_report`).
-/

namespace ClassSynthesis

/-! ## Outcomes -/

/-- A warning about a name that occurs with several types points to the declarations of the
members of that name, one place for each. -/
structure Diagnostic.Warns (d : Diagnostic) (r : Resolution) (name : String) : Prop where
  category : d.category = .warning
  code : d.code = 2001
  text : d.text = Message.format Message.contractQualifiedMember.template [name]
  related : d.related = (r.originsNamed name).map (SynthesizedClass.relatedPlace d.file name)
  several : 2 ≤ d.related.length

/-- The outcome of a contract that resolves: a file, and one warning for each name that occurs
with several types, in the order in which the members first bear them. -/
structure Outcome.Succeeds (o : Outcome) (r : Resolution) : Prop where
  artifact : o.artifact.isSome = true
  warnings : ∃ names : List String, names.Nodup ∧ (∀ name, name ∈ names ↔ r.Collides name) ∧
    (names.Pairwise fun a b =>
      (r.members.map (·.name)).idxOf a < (r.members.map (·.name)).idxOf b) ∧
    List.Forall₂ (fun name d => Diagnostic.Warns d r name) names o.diagnostics

/-- The outcome of a contract that does not resolve: no file, and one error. -/
structure Outcome.Fails (o : Outcome) : Prop where
  artifact : o.artifact = none
  error : ∃ d, o.diagnostics = [d] ∧ d.isError = true ∧ d.code ∈ [1001, 1002, 1003, 1004]

namespace SynthesizedClass

variable {contract : Contract} {r : Resolution} {className : String}

/-- A class has the members of its resolution. -/
theorem originsNamed_ofResolution (name : String) :
    (ofResolution contract r className).originsNamed name = r.originsNamed name := by
  rw [Resolution.originsNamed, ← map_resolved_ofResolution contract r className,
    List.filter_map, List.flatMap_map]
  rfl

/-- The warning about a collided name. -/
theorem warns_collisionWarning {name : String} (h : r.Collides name) (file : String) :
    ((ofResolution contract r className).collisionWarning file name).Warns r name := by
  have hwarning := (ofResolution contract r className).collisionWarning_eq file name
  rw [originsNamed_ofResolution] at hwarning
  rw [hwarning]
  refine ⟨rfl, rfl, rfl, rfl, ?_⟩
  simpa using Resolution.two_le_length_originsNamed h

end SynthesizedClass

namespace ContractIndex

variable {index : ContractIndex} {id : ContractId} {c : Contract} (options : RenderOptions)

/-- A registered contract fails to resolve in one of four ways. -/
theorem code_of_resolve_error (hc : index.contract? id = some c) {e : SynthesisError}
    (he : index.resolve id = .error e) :
    e.cause.registered.code ∈ [1001, 1002, 1003, 1004] := by
  cases hclosure : index.closure id with
  | error cause =>
    rw [resolve_eq, hclosure] at he
    cases he
    cases justifies_of_closure_error hclosure with
    | unknownContract hnone =>
      rw [hc] at hnone
      cases hnone
    | unknownParent =>
      show Message.unknownParent.code ∈ _
      decide
    | unexpectedKind =>
      show Message.unexpectedKind.code ∈ _
      decide
    | inheritanceTooDeep =>
      show Message.inheritanceTooDeep.code ∈ _
      decide
  | ok closure =>
    obtain ⟨owner, -, -, hcause⟩ := cause_of_resolve_error hclosure he
    rw [hcause]
    show Message.emptyMemberName.code ∈ _
    decide

/-- A contract that resolves has a file and its warnings. -/
theorem succeeds_generateOne (hc : index.contract? id = some c) {r : Resolution}
    (hr : index.resolve id = .ok r) : (index.generateOne options id).Succeeds r := by
  obtain ⟨closure, -, -, rfl⟩ := resolve_eq_ok_iff.1 hr
  rw [generateOne_of_resolve_ok hc hr]
  refine ⟨rfl, _, Resolution.nodup_collisions _ _, fun name => Resolution.mem_collisions_iff,
    Resolution.pairwise_collisions _ _, ?_⟩
  -- There is one warning for each name listed.
  refine List.forall₂_map_right_iff.2 (List.forall₂_same.2 fun name hname => ?_)
  exact SynthesizedClass.warns_collisionWarning (Resolution.mem_collisions_iff.1 hname) _

/-- A registered contract that does not resolve has one error. -/
theorem fails_generateOne (hc : index.contract? id = some c) {e : SynthesisError}
    (he : index.resolve id = .error e) : (index.generateOne options id).Fails := by
  obtain ⟨arguments, hdiagnostic⟩ := e.exists_diagnostic_eq (c.sourceFile.getD "")
  rw [generateOne_of_resolve_error hc he]
  refine ⟨rfl, _, rfl, ?_, ?_⟩
  · rw [hdiagnostic, Diagnostic.isError]
    simp [Diagnostic.ofMessage, ModelError.category_registered]
  · rw [hdiagnostic]
    exact code_of_resolve_error hc he

/-- The outcome of a registered contract is one of the two. -/
theorem succeeds_or_fails (hc : index.contract? id = some c) :
    (∃ r, index.resolve id = .ok r ∧ (index.generateOne options id).Succeeds r) ∨
      (index.generateOne options id).Fails := by
  cases hresolve : index.resolve id with
  | ok r => exact Or.inl ⟨r, rfl, succeeds_generateOne options hc hresolve⟩
  | error e => exact Or.inr (fails_generateOne options hc hresolve)

/-- Every diagnostic of an outcome names the contract and its model file. -/
theorem located_generateOne (hc : index.contract? id = some c) :
    ∀ d ∈ (index.generateOne options id).diagnostics,
      d.contract = some c.name.qualified ∧ d.file = c.sourceFile.getD "" := by
  cases hresolve : index.resolve id with
  | ok r =>
    rw [generateOne_of_resolve_ok hc hresolve]
    intro d hd
    obtain ⟨name, -, rfl⟩ := List.mem_map.1 hd
    rw [SynthesizedClass.collisionWarning_eq]
    exact ⟨rfl, rfl⟩
  | error e =>
    rw [generateOne_of_resolve_error hc hresolve]
    intro d hd
    obtain ⟨arguments, hdiagnostic⟩ := e.exists_diagnostic_eq (c.sourceFile.getD "")
    rw [List.mem_singleton.1 hd, hdiagnostic, contract_of_resolve_error hresolve,
      displayName_of_contract? hc]
    exact ⟨rfl, rfl⟩

/-- An outcome has a file when none of its diagnostics is an error. -/
theorem isSome_artifact_generateOne_iff (hc : index.contract? id = some c) :
    (index.generateOne options id).artifact.isSome = true ↔
      ∀ d ∈ (index.generateOne options id).diagnostics, d.isError = false := by
  cases hresolve : index.resolve id with
  | ok r =>
    rw [generateOne_of_resolve_ok hc hresolve]
    refine iff_of_true rfl fun d hd => ?_
    obtain ⟨name, -, rfl⟩ := List.mem_map.1 hd
    exact SynthesizedClass.isError_collisionWarning ..
  | error e =>
    obtain ⟨hartifact, d, hdiagnostics, herror, -⟩ := fails_generateOne options hc hresolve
    simp [hartifact, hdiagnostics, herror]

/-- The contract of an outcome is registered. -/
theorem exists_of_mem_outcomes {index : ContractIndex} {o : Outcome}
    (ho : o ∈ (index.generate options).outcomes) :
    ∃ id c, index.contract? id = some c ∧ o = index.generateOne options id := by
  rw [outcomes_generate] at ho
  obtain ⟨id, hid, rfl⟩ := List.mem_map.1 ho
  obtain ⟨c, hc⟩ := registered_of_mem_implementable hid
  exact ⟨id, c, hc, rfl⟩

/-- A batch has errors when some outcome has no file: its own diagnostic is not an error. -/
theorem hasErrors_generate_iff (index : ContractIndex) :
    (index.generate options).hasErrors = true ↔
      ∃ o ∈ (index.generate options).outcomes, o.artifact = none := by
  -- What a batch reports of itself is that there is nothing to generate.
  have hbatch : ∀ d ∈ (index.generate options).diagnostics, d.isError = false := by
    intro d hd
    rw [diagnostics_generate] at hd
    split at hd
    · rw [List.mem_singleton.1 hd]
      rfl
    · cases hd
  rw [Generation.hasErrors, Generation.allDiagnostics, List.any_eq_true]
  constructor
  · rintro ⟨d, hd, herror⟩
    rcases List.mem_append.1 hd with hd | hd
    · rw [hbatch d hd] at herror
      cases herror
    · obtain ⟨o, ho, hd⟩ := List.mem_flatMap.1 hd
      obtain ⟨id, c, hc, rfl⟩ := exists_of_mem_outcomes options ho
      refine ⟨_, ho, Option.not_isSome_iff_eq_none.1 fun hsome => ?_⟩
      rw [(isSome_artifact_generateOne_iff options hc).1 hsome d hd] at herror
      cases herror
  · rintro ⟨o, ho, hnone⟩
    obtain ⟨id, c, hc, rfl⟩ := exists_of_mem_outcomes options ho
    rcases succeeds_or_fails options hc with ⟨r, -, hsucceeds⟩ | ⟨-, d, hdiagnostics, herror, -⟩
    · have hsome := hsucceeds.artifact
      simp [hnone] at hsome
    · refine ⟨d, List.mem_append_right _ (List.mem_flatMap.2 ⟨_, ho, ?_⟩), herror⟩
      simp [hdiagnostics]

/-- A batch has one outcome for each interface that is marked as partial exactly once, in the
order of the index. An outcome has a file when none of its diagnostics is an error; one that
has no file has a single error, for one of four reasons; and one that has a file has one
warning for each name that occurs with several types among the members. All of its
diagnostics carry the qualified name of the contract and its model file. The batch itself has
a diagnostic when there are no outcomes, and it has errors when some outcome has no file. -/
theorem outcomes_report (index : ContractIndex) :
    (index.generate options).outcomes.map (·.contract) =
      index.ids.filter (fun id => (index.contract? id).any fun c =>
        c.isInterface && c.partialMarkers == 1) ∧
    (∀ o ∈ (index.generate options).outcomes,
      (o.artifact.isSome = true ↔ ∀ d ∈ o.diagnostics, d.isError = false) ∧
      (o.artifact = none → o.Fails) ∧
      (o.artifact.isSome = true → ∃ r, index.resolve o.contract = .ok r ∧ o.Succeeds r) ∧
      ∃ c, index.contract? o.contract = some c ∧ o.qualifiedName = c.name.qualified ∧
        ∀ d ∈ o.diagnostics,
          d.contract = some c.name.qualified ∧ d.file = c.sourceFile.getD "") ∧
    (index.generate options).diagnostics =
      (if (index.generate options).outcomes.isEmpty then
        [.ofMessage "" none .noPartialContracts []] else []) ∧
    ((index.generate options).hasErrors = true ↔
      ∃ o ∈ (index.generate options).outcomes, o.artifact = none) := by
  refine ⟨?_, ?_, ?_, hasErrors_generate_iff options index⟩
  · have hcontract : (index.implementable.map (index.generateOne options)).map (·.contract) =
        index.implementable := by
      rw [List.map_map]
      exact List.map_id'' (fun id => contract_generateOne id) _
    rw [outcomes_generate, hcontract]
    rfl
  · intro o ho
    obtain ⟨id, c, hc, rfl⟩ := exists_of_mem_outcomes options ho
    refine ⟨isSome_artifact_generateOne_iff options hc, ?_, ?_, ?_⟩
    · intro hnone
      refine (succeeds_or_fails options hc).resolve_left ?_
      rintro ⟨r, -, hsucceeds⟩
      have hsome := hsucceeds.artifact
      simp [hnone] at hsome
    · intro hsome
      rw [contract_generateOne]
      refine (succeeds_or_fails options hc).resolve_right fun hfails => ?_
      simp [hfails.artifact] at hsome
    · rw [contract_generateOne, qualifiedName_generateOne, displayName_of_contract? hc]
      exact ⟨c, hc, rfl, located_generateOne options hc⟩
  · rw [diagnostics_generate, outcomes_generate, List.isEmpty_map]

end ContractIndex

end ClassSynthesis
