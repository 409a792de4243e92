import ClassSynthesis.Proofs.Generation.Outcomes

/-!
# The Files of Related Places

A warning about a collided name points to the declarations of that name. Each place names the
contract that declares it, but the file of each is that of the contract the class is made for. So
the places are right as long as the collided declarations stand in the file of this contract, and
only then (`ContractIndex.related_files_iff`); two parents in files of their own are enough to be
sent to the wrong file (`ContractIndex.related_file_of_child`).
-/

namespace ClassSynthesis

/-- The place tells where the contract of a declaration is: its name and its model file. -/
structure RelatedInformation.PointsTo (index : ContractIndex) (o : MemberOrigin)
    (place : RelatedInformation) : Prop where
  contract : place.contract = some o.contractName.qualified
  file : place.file = index.sourceFileOf o.contract

namespace SynthesizedClass

variable {index : ContractIndex} {file name : String}

/-- A place has the name of the declaring contract, so it is right when the file is. -/
theorem pointsTo_relatedPlace_iff {o : MemberOrigin} :
    (relatedPlace file name o).PointsTo index o ↔ file = index.sourceFileOf o.contract :=
  ⟨fun h => h.file, fun h => ⟨rfl, h⟩⟩

/-- The places of several declarations are right when all of them stand in the one file. -/
theorem forall₂_pointsTo_iff {origins : List MemberOrigin} :
    List.Forall₂ (RelatedInformation.PointsTo index) origins
        (origins.map (relatedPlace file name)) ↔
      ∀ o ∈ origins, index.sourceFileOf o.contract = file := by
  rw [List.forall₂_map_right_iff, List.forall₂_same]
  simp only [pointsTo_relatedPlace_iff, eq_comm]

end SynthesizedClass

namespace ContractIndex

variable {index : ContractIndex} {id : ContractId} {options : RenderOptions} {d : Diagnostic}

/-- The origins of resolved members are declarations of the index. -/
theorem declaredIn_of_resolve {r : Resolution} (hr : index.resolve id = .ok r) {name : String}
    {o : MemberOrigin} (ho : o ∈ r.originsNamed name) : o.DeclaredIn index := by
  obtain ⟨closure, -, -, rfl⟩ := resolve_eq_ok_iff.1 hr
  obtain ⟨m, hm, ho⟩ := List.mem_flatMap.1 ho
  obtain ⟨hmem, -⟩ := List.mem_filter.1 hm
  exact declaredIn_of_mem_merge (toMergedMember_mem hmem) ho

/-- Only a contract that resolves has a warning with this code, and it is about a name that
collides. -/
theorem eq_collisionWarning_of_code {c : Contract} (hc : index.contract? id = some c)
    (hd : d ∈ (index.generateOne options id).diagnostics)
    (hcode : d.code = Message.contractQualifiedMember.code) :
    ∃ r name, index.resolve id = .ok r ∧ r.Collides name ∧
      d = (SynthesizedClass.ofResolution c r options.className).collisionWarning
        (index.sourceFileOf id) name := by
  have hfile : index.sourceFileOf id = c.sourceFile.getD "" := by
    rw [sourceFileOf, hc]
    rfl
  cases hresolve : index.resolve id with
  | ok r =>
    rw [generateOne_of_resolve_ok hc hresolve] at hd
    obtain ⟨name, hname, rfl⟩ := List.mem_map.1 hd
    obtain ⟨closure, -, -, rfl⟩ := resolve_eq_ok_iff.1 hresolve
    exact ⟨_, name, rfl, Resolution.mem_collisions_iff.1 hname, by rw [hfile]⟩
  | error e =>
    -- A synthesis that was given up is reported under another code.
    have herror := code_of_resolve_error hc hresolve
    rw [generateOne_of_resolve_error hc hresolve] at hd
    obtain ⟨arguments, hdiagnostic⟩ := e.exists_diagnostic_eq (c.sourceFile.getD "")
    have hsame : d.code = e.cause.registered.code := by
      rw [List.mem_singleton.1 hd, hdiagnostic]
      rfl
    rw [← hsame, hcode] at herror
    exact absurd herror (by decide)

/-- Every warning in a batch about a collided name points to the declarations of the name, one
place for each. The declarations are those of registered contracts, and each place has the name of
the contract that declares it and the file of the contract whose class is generated. So the places
are right exactly when the collided declarations all stand in this file. -/
theorem related_files_iff {o : Outcome} (ho : o ∈ (index.generate options).outcomes)
    (hd : d ∈ o.diagnostics) (hcode : d.code = Message.contractQualifiedMember.code) :
    ∃ r name, index.resolve o.contract = .ok r ∧ r.Collides name ∧
      (∀ origin ∈ r.originsNamed name, origin.DeclaredIn index) ∧
      d.related = (r.originsNamed name).map
        (SynthesizedClass.relatedPlace (index.sourceFileOf o.contract) name) ∧
      (List.Forall₂ (RelatedInformation.PointsTo index) (r.originsNamed name) d.related ↔
        ∀ origin ∈ r.originsNamed name,
          index.sourceFileOf origin.contract = index.sourceFileOf o.contract) := by
  obtain ⟨id, c, hc, rfl⟩ := exists_of_mem_outcomes options ho
  obtain ⟨r, name, hr, hcollides, rfl⟩ := eq_collisionWarning_of_code hc hd hcode
  rw [contract_generateOne, SynthesizedClass.collisionWarning_eq,
    SynthesizedClass.originsNamed_ofResolution]
  exact ⟨r, name, hr, hcollides, fun origin => declaredIn_of_resolve hr, rfl,
    SynthesizedClass.forall₂_pointsTo_iff⟩

/-- A contract whose parents declare a property of the same name with different types, either in
the file of the contract or apart, in files of their own. -/
def warehouse (apart : Bool) : ContractIndex where
  entries := [
    { contract :=
        { name := .global "IShelf", parents := ["IBox", "ICrate"],
          sourceFile := some "shelf.json" } },
    { contract :=
        { name := .global "IBox", partialMarkers := 0,
          sourceFile := some (if apart then "box.json" else "shelf.json") },
      members := [
        { name := "Size", type := .value "int", accessors := ⟨true, true, false⟩ }] },
    { contract :=
        { name := .global "ICrate", partialMarkers := 0,
          sourceFile := some (if apart then "crate.json" else "shelf.json") },
      members := [
        { name := "Size", type := .value "long", accessors := ⟨true, true, false⟩ }] }]
  distinct := by simp [Registration.qualified]

theorem resolve_warehouse (apart : Bool) :
    (warehouse apart).resolve ⟨0⟩ = .ok (.ofOrigins ⟨0⟩
      ([⟨0⟩, ⟨1⟩, ⟨2⟩].flatMap (warehouse apart).eligibleOrigins)) := by
  have hclosure : (warehouse apart).closure ⟨0⟩ = .ok [⟨0⟩, ⟨1⟩, ⟨2⟩] := by cbv
  refine resolve_eq_ok_iff.2 ⟨_, hclosure, ?_, rfl⟩
  cases apart <;> decide

/-- The batch for it has a warning about the property, with a place for each parent. -/
theorem exists_warning_warehouse (apart : Bool) :
    ∃ o ∈ ((warehouse apart).generate {}).outcomes, o.contract = ⟨0⟩ ∧ ∃ d ∈ o.diagnostics,
      d.code = Message.contractQualifiedMember.code ∧
      d.related.map (fun place => (place.contract, place.file)) =
        [(some "IBox", "shelf.json"), (some "ICrate", "shelf.json")] := by
  have hname : "Size" ∈ (Resolution.ofOrigins ⟨0⟩
      ([⟨0⟩, ⟨1⟩, ⟨2⟩].flatMap (warehouse apart).eligibleOrigins)).collisions := by
    cases apart <;> decide
  refine ⟨(warehouse apart).generateOne {} ⟨0⟩, ?_, contract_generateOne _, ?_⟩
  · rw [outcomes_generate]
    exact List.mem_map_of_mem List.mem_cons_self
  · rw [generateOne_of_resolve_ok rfl (resolve_warehouse apart)]
    refine ⟨_, List.mem_map_of_mem hname, ?_⟩
    rw [SynthesizedClass.collisionWarning_eq, SynthesizedClass.originsNamed_ofResolution]
    exact ⟨rfl, by cases apart <;> decide⟩

/-- With all contracts in one file, the places are right. -/
theorem related_files_iff_together :
    ∃ o ∈ ((warehouse false).generate {}).outcomes, ∃ d ∈ o.diagnostics,
      ∃ r name, (warehouse false).resolve o.contract = .ok r ∧ r.Collides name ∧
        List.Forall₂ (RelatedInformation.PointsTo (warehouse false)) (r.originsNamed name)
          d.related := by
  obtain ⟨o, ho, hcontract, d, hd, hcode, -⟩ := exists_warning_warehouse false
  obtain ⟨r, name, hr, hcollides, -, -, hiff⟩ := related_files_iff ho hd hcode
  refine ⟨o, ho, d, hd, r, name, hr, hcollides, hiff.2 fun origin horigin => ?_⟩
  rw [hcontract, resolve_warehouse] at hr
  cases hr
  -- Every declaration of a member is in the one file.
  have hfiles : ∀ m ∈ (Resolution.ofOrigins ⟨0⟩
      ([⟨0⟩, ⟨1⟩, ⟨2⟩].flatMap (warehouse false).eligibleOrigins)).members,
      ∀ origin ∈ m.origins, (warehouse false).sourceFileOf origin.contract =
        (warehouse false).sourceFileOf ⟨0⟩ := by decide
  obtain ⟨m, hm, horigin⟩ := List.mem_flatMap.1 horigin
  rw [hcontract]
  exact hfiles m (List.mem_of_mem_filter hm) origin horigin

/-- With the parents in files of their own, the place of the first names it next to the file of
the child. -/
theorem related_file_of_child :
    ∃ o ∈ ((warehouse true).generate {}).outcomes, ∃ d ∈ o.diagnostics, ∃ place ∈ d.related,
      d.code = 2001 ∧ place.contract = some "IBox" ∧ place.file = "shelf.json" ∧
      ∃ id c, (warehouse true).contract? id = some c ∧ c.name.qualified = "IBox" ∧
        c.sourceFile = some "box.json" := by
  obtain ⟨o, ho, -, d, hd, hcode, hplaces⟩ := exists_warning_warehouse true
  have hmem : (some "IBox", "shelf.json") ∈
      d.related.map fun place => (place.contract, place.file) := by
    rw [hplaces]
    exact List.mem_cons_self
  obtain ⟨place, hplace, heq⟩ := List.mem_map.1 hmem
  obtain ⟨hcontract, hfile⟩ := Prod.mk.inj heq
  exact ⟨o, ho, d, hd, place, hplace, hcode, hcontract, hfile, ⟨1⟩, _, rfl, by decide, by decide⟩

end ContractIndex

end ClassSynthesis
