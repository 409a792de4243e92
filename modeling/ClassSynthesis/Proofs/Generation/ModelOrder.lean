import ClassSynthesis.Proofs.Contract.Registration
import ClassSynthesis.Proofs.Generation.Batch
import ClassSynthesis.Proofs.Synthesis.Renumbering

/-!
# The Order of the Model Does Not Matter

Model files can be read in any order, and their contracts can be listed in any order. The
indexes differ by a renumbering then (`exists_registerFiles_of_sameModels`), and what is generated
shows no number: the declarations of a renumbered class and the warnings about it are the
same (`nodes_renumber`, `collisionWarnings_renumber`). So a contract has the same file and
the same diagnostics in both indexes, and only the order of the outcomes differs
(`generation_independent`).
-/

namespace ClassSynthesis

/-! ## Declarations -/

section Declarations

variable {f : ContractId → ContractId} {context : NullableContext}

namespace SynthesizedMember

theorem originPlans_renumber (m : SynthesizedMember) :
    (m.renumber f).originPlans = m.originPlans.map fun (o, plan) => (o.renumber f, plan) := by
  have horigins : (m.renumber f).resolved.origins =
      m.resolved.origins.map (·.renumber f) := rfl
  unfold originPlans
  rw [horigins, List.map_map, List.map_map]
  rfl

theorem forwarded_renumber (m : SynthesizedMember) :
    (m.renumber f).forwarded = m.forwarded.map fun (o, plan) => (o.renumber f, plan) := by
  have hfield : (m.renumber f).backingField = m.backingField := rfl
  unfold forwarded
  rw [hfield]
  split
  · rfl
  · -- Which origins are forwarded is decided by their plans, which stay the same.
    rw [originPlans_renumber, List.filter_map]
    rfl

/-- Explicit implementations name the contract and do not show its number. -/
theorem explicitProperties_renumber (target : Expression)
    (implemented : List (MemberOrigin × AccessorPlan)) :
    (implemented.map fun (o, plan) => (o.renumber f, plan)).map
        (explicitProperty context target) =
      implemented.map (explicitProperty context target) := by
  rw [List.map_map]
  rfl

theorem propertyNodes_renumber (m : SynthesizedMember) :
    (m.renumber f).propertyNodes context = m.propertyNodes context := by
  have hfield : (m.renumber f).backingField = m.backingField := rfl
  unfold propertyNodes
  rw [hfield]
  cases m.backingField with
  | some field =>
    dsimp only
    rw [originPlans_renumber, explicitProperties_renumber]
  | none =>
    dsimp only
    rw [forwarded_renumber, explicitProperties_renumber]
    rfl

end SynthesizedMember

namespace SynthesizedClass

variable (c : SynthesizedClass)

theorem members_renumber : (c.renumber f).members = c.members.map (·.renumber f) := rfl

theorem constructorNode_renumber (className : String) (plan : ConstructorPlan) :
    (c.renumber f).constructorNode className plan = c.constructorNode className plan := by
  have hparameters : (c.renumber f).parameterNodes plan = c.parameterNodes plan := by
    unfold parameterNodes
    congr 1
    funext ⟨position, name⟩
    dsimp only
    rw [members_renumber, List.getElem?_map, Option.map_map]
    rfl
  have hslots : (c.renumber f).slotNode? (c.parameterNodes plan) =
      c.slotNode? (c.parameterNodes plan) := by
    ext1 slot
    unfold slotNode?
    rw [members_renumber, List.getElem?_map, Option.map_map]
    rfl
  unfold constructorNode
  rw [hparameters, hslots]

theorem appendConstructors_renumber (className : String) (body : List Node)
    (plans : List ConstructorPlan) :
    (c.renumber f).appendConstructors className body plans =
      c.appendConstructors className body plans := by
  induction plans generalizing body with
  | nil => rfl
  | cons plan rest ih =>
    rw [appendConstructors, appendConstructors, constructorNode_renumber, ih]

theorem memberNodes_renumber : (c.renumber f).memberNodes = c.memberNodes := by
  have hfields : (c.renumber f).members.filterMap (·.fieldNode? c.context) =
      c.members.filterMap (·.fieldNode? c.context) := by
    rw [members_renumber, List.filterMap_map]
    rfl
  have hproperties : (c.renumber f).members.flatMap (·.propertyNodes c.context) =
      c.members.flatMap (·.propertyNodes c.context) := by
    rw [members_renumber, List.flatMap_map]
    congr 1
    ext1 m
    exact m.propertyNodes_renumber
  have hcontext : (c.renumber f).context = c.context := rfl
  unfold memberNodes
  rw [hcontext, hfields, hproperties]

/-- The declarations of a class do not show numbers. -/
theorem nodes_renumber (options : RenderOptions) :
    (c.renumber f).nodes options = c.nodes options := by
  have hclass : (c.renumber f).classNode options.className = c.classNode options.className := by
    unfold classNode
    rw [memberNodes_renumber, appendConstructors_renumber]
    rfl
  unfold nodes
  rw [hclass]
  rfl

/-- The warnings about a class do not show numbers. -/
theorem collisionWarnings_renumber (file : String) :
    (c.renumber f).collisionWarnings file = c.collisionWarnings file := by
  have horigins : ∀ name, (c.renumber f).originsNamed name =
      (c.originsNamed name).map (·.renumber f) := by
    intro name
    unfold originsNamed
    rw [members_renumber, List.filter_map, List.flatMap_map, List.map_flatMap]
    rfl
  have hcollisions : (c.renumber f).collisions = c.collisions := rfl
  unfold collisionWarnings
  rw [hcollisions]
  congr 1
  ext1 name
  unfold collisionWarning
  rw [horigins, List.foldl_map]
  rfl

end SynthesizedClass

/-- The diagnostic for an error does not show numbers. -/
theorem SynthesisError.diagnostic_renumber (e : SynthesisError) (file : String) :
    (e.renumber f).diagnostic file = e.diagnostic file := by
  obtain ⟨contract, cause⟩ := e
  cases cause <;> rfl

end Declarations

/-! ## Generation -/

/-- The outcome with its contract renumbered. -/
def Outcome.renumber (f : ContractId → ContractId) (o : Outcome) : Outcome :=
  { o with contract := f o.contract }

namespace ContractIndex

variable {index other : ContractIndex} {options : RenderOptions}

/-- The outcomes of a batch are reported under distinct names. -/
theorem nodup_qualifiedName_outcomes (index : ContractIndex) (options : RenderOptions) :
    ((index.generate options).outcomes.map (·.qualifiedName)).Nodup := by
  rw [outcomes_generate, List.map_map]
  refine List.Nodup.map_on (fun id hid id' hid' hname => ?_) (index.nodup_ids.filter _)
  obtain ⟨c, hc⟩ := registered_of_mem_implementable hid
  obtain ⟨d, hd⟩ := registered_of_mem_implementable hid'
  have hqualified : c.name.qualified = d.name.qualified := by
    rw [← displayName_of_contract? hc, ← displayName_of_contract? hd,
      ← qualifiedName_generateOne, ← qualifiedName_generateOne]
    exact hname
  obtain ⟨r, hr, rfl⟩ := contract?_eq_some_iff.1 hc
  obtain ⟨s, hs, rfl⟩ := contract?_eq_some_iff.1 hd
  exact eq_of_qualified_eq hr hs hqualified

namespace Renumbers

variable {ρ : ContractId ≃ ContractId} (h : Renumbers ρ index other)
include h

theorem sourceFileOf (id : ContractId) : other.sourceFileOf (ρ id) = index.sourceFileOf id := by
  unfold ContractIndex.sourceFileOf
  rw [h.contract?]

/-- A registered contract has the same outcome under its other number. -/
theorem generateOne {id : ContractId} {c : Contract} (hc : index.contract? id = some c) :
    other.generateOne options (ρ id) = (index.generateOne options id).renumber ρ := by
  unfold ContractIndex.generateOne
  rw [h.synthesize hc, h.displayName hc, h.sourceFileOf]
  cases index.synthesize id options.className with
  | error e =>
    dsimp only
    rw [SynthesisError.diagnostic_renumber]
    rfl
  | ok c =>
    have hartifact : Artifact.ofClass (c.renumber ρ) options = .ofClass c options := by
      unfold Artifact.ofClass
      rw [SynthesizedClass.nodes_renumber]
      rfl
    dsimp only
    rw [hartifact, SynthesizedClass.collisionWarnings_renumber]
    rfl

/-- Batches over corresponding indexes have corresponding outcomes. -/
theorem outcomes_perm (options : RenderOptions) :
    (other.generate options).outcomes.Perm
      ((index.generate options).outcomes.map (·.renumber ρ)) := by
  have hsame : (index.implementable.map ρ).map (other.generateOne options) =
      (index.implementable.map (index.generateOne options)).map (·.renumber ρ) := by
    rw [List.map_map, List.map_map]
    -- An identity without a contract is not reported alike, but none is implementable.
    refine List.map_congr_left fun id hid => ?_
    obtain ⟨c, hc⟩ := registered_of_mem_implementable hid
    exact h.generateOne hc
  rw [outcomes_generate, outcomes_generate, ← hsame]
  exact h.implementable.map _

theorem batch_diagnostics (options : RenderOptions) :
    (other.generate options).diagnostics = (index.generate options).diagnostics := by
  have hempty : other.implementable.isEmpty = index.implementable.isEmpty := by
    rw [h.implementable.isEmpty_eq, List.isEmpty_map]
  rw [diagnostics_generate, diagnostics_generate, hempty]

/-- Outcomes that are reported under one name say the same. -/
theorem outcome_of_qualifiedName_eq {o o' : Outcome}
    (ho : o ∈ (index.generate options).outcomes) (ho' : o' ∈ (other.generate options).outcomes)
    (hname : o'.qualifiedName = o.qualifiedName) : o' = o.renumber ρ := by
  obtain ⟨p, hp, rfl⟩ := List.mem_map.1 ((h.outcomes_perm options).subset ho')
  rw [List.inj_on_of_nodup_map (nodup_qualifiedName_outcomes index options) hp ho hname]

end Renumbers

end ContractIndex

/-! ## The order of files and contracts -/

/-- The same model files in whatever order, each with the same contracts in whatever order. A
contract keeps the order of its members. -/
def SameModels (files other : List (String × ModelFile)) : Prop :=
  ∃ shuffled, files.Perm shuffled ∧
    List.Forall₂ (fun f g => f.1 = g.1 ∧ f.2.contracts.Perm g.2.contracts) shuffled other

/-- The same models ask for the same registrations, in some order. -/
theorem SameModels.registrationsOf_perm {files other : List (String × ModelFile)}
    (h : SameModels files other) : (registrationsOf files).Perm (registrationsOf other) := by
  obtain ⟨shuffled, hfiles, hcontracts⟩ := h
  have hshuffled : (registrationsOf files).Perm (registrationsOf shuffled) :=
    hfiles.flatMap_right _
  refine hshuffled.trans ?_
  clear hfiles hshuffled
  -- What is left keeps the files in order and reorders within each of them.
  induction hcontracts with
  | nil => exact List.Perm.refl _
  | @cons f g rest rest' hfirst _ ih =>
    obtain ⟨path, model⟩ := f
    obtain ⟨path', model'⟩ := g
    obtain ⟨rfl, hperm⟩ := hfirst
    exact (hperm.map _).append ih

namespace ContractIndex

/-- Model files that are registered without an error are so in every order of the files and
of their contracts, and the indexes differ by a renumbering. -/
theorem exists_registerFiles_of_sameModels {files other : List (String × ModelFile)}
    (hsame : SameModels files other) {index : ContractIndex}
    (h : empty.registerFiles files = .ok index) :
    ∃ index', empty.registerFiles other = .ok index' ∧ ∃ ρ, Renumbers ρ index index' := by
  have hentries : index.entries = registrationsOf files := registerFiles_eq_ok_iff.1 h
  have hperm : index.entries.Perm (registrationsOf other) := by
    rw [hentries]
    exact hsame.registrationsOf_perm
  have hdistinct : ((registrationsOf other).map Registration.qualified).Nodup :=
    (hperm.map _).nodup_iff.1 index.distinct
  exact ⟨⟨registrationsOf other, hdistinct⟩, registerFiles_eq_ok_iff.2 rfl,
    exists_renumbers hperm⟩

/-- Model files that are registered without an error are so in every order of the files and
of their contracts. The same is generated then, up to the order of the outcomes and the
numbers of the contracts: the outcomes under one name have the same file or none, and the
same diagnostics in the same order, and so has the batch. -/
theorem generation_independent {files other : List (String × ModelFile)}
    (hsame : SameModels files other) {index : ContractIndex}
    (h : empty.registerFiles files = .ok index) :
    ∃ index', empty.registerFiles other = .ok index' ∧
      ∃ ρ, Renumbers ρ index index' ∧ ∀ options,
        (index'.generate options).outcomes.Perm
            ((index.generate options).outcomes.map (·.renumber ρ)) ∧
          (index'.generate options).diagnostics = (index.generate options).diagnostics ∧
          ∀ o ∈ (index.generate options).outcomes,
            ∀ o' ∈ (index'.generate options).outcomes, o'.qualifiedName = o.qualifiedName →
              o'.artifact = o.artifact ∧ o'.diagnostics = o.diagnostics := by
  obtain ⟨index', hindex', ρ, hρ⟩ := exists_registerFiles_of_sameModels hsame h
  refine ⟨index', hindex', ρ, hρ, fun options => ⟨?_, ?_, ?_⟩⟩
  · exact hρ.outcomes_perm options
  · exact hρ.batch_diagnostics options
  · intro o ho o' ho' hname
    rw [hρ.outcome_of_qualifiedName_eq ho ho' hname]
    exact ⟨rfl, rfl⟩

/-- Two model files. -/
def listed : List (String × ModelFile) := [
  ("shapes.json", ⟨[{ name := "IShape", modifiers := ["partial"], parents := ["INamed"] }]⟩),
  ("names.json", ⟨[{ name := "INamed" }, { name := "ILabel", modifiers := ["partial"] }]⟩)]

/-- The same files and their contracts back to front. -/
def listedBackwards : List (String × ModelFile) := [
  ("names.json", ⟨[{ name := "ILabel", modifiers := ["partial"] }, { name := "INamed" }]⟩),
  ("shapes.json", ⟨[{ name := "IShape", modifiers := ["partial"], parents := ["INamed"] }]⟩)]

theorem generation_independent_listed :
    ∃ index index' ρ, empty.registerFiles listed = .ok index ∧
      empty.registerFiles listedBackwards = .ok index' ∧ Renumbers ρ index index' ∧
      (index'.generate {}).outcomes.Perm ((index.generate {}).outcomes.map (·.renumber ρ)) := by
  have hsame : SameModels listed listedBackwards := by
    refine ⟨listed.reverse, (List.reverse_perm _).symm, ?_⟩
    exact .cons ⟨rfl, List.Perm.swap _ _ _⟩ (.cons ⟨rfl, List.Perm.refl _⟩ .nil)
  have hdistinct : ((registrationsOf listed).map Registration.qualified).Nodup := by decide
  have h : empty.registerFiles listed = .ok ⟨registrationsOf listed, hdistinct⟩ :=
    registerFiles_eq_ok_iff.2 rfl
  obtain ⟨index', hindex', ρ, hρ, hgenerated⟩ := generation_independent hsame h
  exact ⟨_, index', ρ, h, hindex', hρ, (hgenerated {}).1⟩

end ContractIndex

end ClassSynthesis
