import ClassSynthesis.Generation
import ClassSynthesis.Proofs.Contract.Lookup

/-!
# Batches

What a batch consists of: one outcome for each contract to be implemented, in the order of
the index, and a diagnostic of its own when there is none (`outcomes_generate`,
`diagnostics_generate`). The outcome of a registered contract is decided by what it resolves
to (`generateOne_of_resolve_ok`, `generateOne_of_resolve_error`).
-/

namespace ClassSynthesis.ContractIndex

variable {index : ContractIndex} {options : RenderOptions} {id : ContractId}

/-- Contracts to be implemented are registered. -/
theorem registered_of_mem_implementable (h : id ∈ index.implementable) :
    ∃ c, index.contract? id = some c := by
  obtain ⟨hmem, -⟩ := List.mem_filter.1 h
  obtain ⟨r, hr⟩ := mem_ids.1 hmem
  exact ⟨r.contract, contract?_eq_some_iff.2 ⟨r, hr, rfl⟩⟩

/-- Each contract to be implemented has one outcome. -/
theorem outcomes_generate (index : ContractIndex) (options : RenderOptions) :
    (index.generate options).outcomes =
      index.implementable.map (index.generateOne options) := by
  rw [generate]
  split
  next h => rw [h, List.map_nil]
  next => rfl

/-- A batch has a diagnostic of its own when there is nothing to implement. -/
theorem diagnostics_generate (index : ContractIndex) (options : RenderOptions) :
    (index.generate options).diagnostics =
      if index.implementable.isEmpty then [.ofMessage "" none .noPartialContracts []]
      else [] := by
  rw [generate]
  split
  next h =>
    rw [h]
    rfl
  next h =>
    have hfalse : index.implementable.isEmpty = false := List.isEmpty_eq_false_iff.2 h
    rw [hfalse]
    rfl

theorem qualifiedName_generateOne (id : ContractId) :
    (index.generateOne options id).qualifiedName = index.displayName id := by
  rw [generateOne]
  split <;> rfl

theorem contract_generateOne (id : ContractId) :
    (index.generateOne options id).contract = id := by
  rw [generateOne]
  split <;> rfl

/-- A contract that resolves has the file and the warnings of the class synthesized for it. -/
theorem generateOne_of_resolve_ok {c : Contract} (hc : index.contract? id = some c)
    {r : Resolution} (hr : index.resolve id = .ok r) :
    index.generateOne options id =
      { contract := id
        qualifiedName := c.name.qualified
        artifact := some (.ofClass (.ofResolution c r options.className) options)
        diagnostics := (SynthesizedClass.ofResolution c r options.className).collisionWarnings
          (c.sourceFile.getD "") } := by
  have hsynthesize : index.synthesize id options.className =
      .ok (.ofResolution c r options.className) := by
    rw [synthesize, hr, hc]
    rfl
  rw [generateOne, hsynthesize, displayName, sourceFileOf, hc]
  rfl

/-- A contract that does not resolve has no file and one diagnostic. -/
theorem generateOne_of_resolve_error {c : Contract} (hc : index.contract? id = some c)
    {e : SynthesisError} (he : index.resolve id = .error e) :
    index.generateOne options id =
      { contract := id
        qualifiedName := c.name.qualified
        artifact := none
        diagnostics := [e.diagnostic (c.sourceFile.getD "")] } := by
  have hsynthesize : index.synthesize id options.className = .error e := by
    rw [synthesize, he]
    rfl
  rw [generateOne, hsynthesize, displayName, sourceFileOf, hc]
  rfl

end ClassSynthesis.ContractIndex
