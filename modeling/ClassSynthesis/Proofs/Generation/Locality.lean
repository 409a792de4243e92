import ClassSynthesis.Proofs.Contract.Growth
import ClassSynthesis.Proofs.Generation.Diagnostics
import ClassSynthesis.Proofs.Synthesis.Origins

/-!
# What an Outcome Depends On

The outcome of a contract is made from its closure: the contracts on it, the members they
declare and the names of their parents. An index that grows elsewhere gives the same outcome
again (`generateOne_growAll`). Only a contract that fails for want of a parent is different:
it waits for a contract of that name.
-/

namespace ClassSynthesis.ContractIndex

namespace GrowsTo

variable {index other : ContractIndex} {owners : List ContractId} {names : List String}
  {id : ContractId} {c : Contract} (h : index.GrowsTo other owners names)
  (hc : index.contract? id = some c)
include h hc

theorem displayName_eq : other.displayName id = index.displayName id := by
  rw [displayName_of_contract? hc, displayName_of_contract? (h.contract? hc)]

theorem sourceFileOf_eq : other.sourceFileOf id = index.sourceFileOf id := by
  rw [sourceFileOf, sourceFileOf, h.contract? hc, hc]

/-- A contract on which nothing is declared has a blank name if it had one. -/
theorem hasBlankName_eq (hid : id ∉ owners) : other.hasBlankName id = index.hasBlankName id := by
  rw [hasBlankName, hasBlankName, h.membersOf hc hid]

/-- A contract on which nothing is declared contributes what it did. -/
theorem eligibleOrigins_eq (hid : id ∉ owners) :
    other.eligibleOrigins id = index.eligibleOrigins id := by
  rw [eligibleOrigins, eligibleOrigins, h.contract? hc, hc, h.membersOf hc hid]

/-- A contract resolves to the same when nothing is declared on its ancestors and the parent
that is missing, if one is, has not been added. -/
theorem resolve_eq (howners : ∀ owner ∈ owners, ¬ index.Reachable id owner)
    (hmissing : ∀ child name, index.closure id = .error (.unknownParent child name) →
      name ∉ names) :
    other.resolve id = index.resolve id := by
  rw [ContractIndex.resolve_eq, ContractIndex.resolve_eq, h.closure_eq hc hmissing,
    h.displayName_eq hc]
  cases hclosure : index.closure id with
  | error cause => rfl
  | ok closure =>
    -- The contracts read are those of the closure, which are the reachable ones.
    have hclosed : ∀ x ∈ closure, (∃ d, index.contract? x = some d) ∧ x ∉ owners := by
      intro x hx
      refine ⟨registered_of_closure hclosure x hx, fun hmem => ?_⟩
      exact howners x hmem ((mem_iff_of_closure hclosure x).1 hx)
    have hblank : closure.find? other.hasBlankName = closure.find? index.hasBlankName := by
      rw [← List.head?_filter, ← List.head?_filter]
      refine congrArg List.head? (List.filter_congr fun x hx => ?_)
      obtain ⟨⟨d, hd⟩, hx⟩ := hclosed x hx
      exact h.hasBlankName_eq hd hx
    have horigins : closure.flatMap other.eligibleOrigins =
        closure.flatMap index.eligibleOrigins := by
      refine List.flatMap_congr fun x hx => ?_
      obtain ⟨⟨d, hd⟩, hx⟩ := hclosed x hx
      exact h.eligibleOrigins_eq hd hx
    dsimp only
    rw [hblank, horigins]
    cases hfind : closure.find? index.hasBlankName with
    | none => rfl
    | some owner =>
      obtain ⟨⟨d, hd⟩, -⟩ := hclosed owner (List.mem_of_find?_eq_some hfind)
      dsimp only
      rw [h.displayName_eq hd]

/-- The outcome of a contract is then the same. -/
theorem generateOne_eq (howners : ∀ owner ∈ owners, ¬ index.Reachable id owner)
    (hmissing : ∀ child name, index.closure id = .error (.unknownParent child name) →
      name ∉ names) (options : RenderOptions) :
    other.generateOne options id = index.generateOne options id := by
  have hsynthesize : other.synthesize id options.className =
      index.synthesize id options.className := by
    rw [synthesize, synthesize, h.resolve_eq hc howners hmissing, h.contract? hc, hc]
  rw [generateOne, generateOne, hsynthesize, h.displayName_eq hc, h.sourceFileOf_eq hc]

end GrowsTo

variable {index other : ContractIndex} {id : ContractId}

/-- A closure that fails makes the synthesis fail for the same reason. -/
theorem synthesize_of_closure_error {cause : ModelError} (h : index.closure id = .error cause)
    (className : String) :
    index.synthesize id className = .error ⟨index.displayName id, cause⟩ := by
  have hresolve : index.resolve id = .error ⟨index.displayName id, cause⟩ := by
    rw [resolve_eq, h]
  rw [synthesize, hresolve]
  rfl

/-- An outcome reports a missing parent when the synthesis failed for it. -/
theorem exists_unknownParent_iff {options : RenderOptions} :
    (∃ d ∈ (index.generateOne options id).diagnostics, d.code = Message.unknownParent.code) ↔
      ∃ e child name, index.synthesize id options.className = .error e ∧
        e.cause = .unknownParent child name := by
  rw [generateOne]
  cases hsynthesize : index.synthesize id options.className with
  | ok c =>
    -- A class that is synthesized is reported for collisions only.
    constructor
    · rintro ⟨d, hd, hcode⟩
      obtain ⟨name, -, rfl⟩ := List.mem_map.1 hd
      rw [c.code_collisionWarning] at hcode
      exact absurd hcode (by decide)
    · rintro ⟨e, child, name, he, -⟩
      cases he
  | error e =>
    obtain ⟨arguments, hdiagnostic⟩ := e.exists_diagnostic_eq (index.sourceFileOf id)
    constructor
    · rintro ⟨d, hd, hcode⟩
      rw [List.mem_singleton.1 hd, hdiagnostic] at hcode
      obtain ⟨child, name, hcause⟩ := ModelError.exists_eq_unknownParent hcode
      exact ⟨e, child, name, rfl, hcause⟩
    · rintro ⟨e', child, name, he, hcause⟩
      cases he
      refine ⟨_, List.mem_singleton.2 rfl, ?_⟩
      rw [hdiagnostic, hcause]
      rfl

/-- An index grows by registrations, and by members declared on contracts that cannot be
reached from a contract through the parents that the index had. If the contract has not failed
for want of a parent, its outcome is the same afterwards, the same file and the same
diagnostics. If it has, there is a parent that it lacks, and its outcome is the same as long
as no contract of that name has been registered. -/
theorem generateOne_growAll {steps : List Growth} (hgrow : index.growAll? steps = some other)
    (hid : ∃ c, index.contract? id = some c)
    (hlocal : ∀ owner m, Growth.member owner m ∈ steps → ¬ index.Reachable id owner)
    (options : RenderOptions) :
    ((∀ d ∈ (index.generateOne options id).diagnostics, d.code ≠ Message.unknownParent.code) →
      other.generateOne options id = index.generateOne options id) ∧
    ((∃ d ∈ (index.generateOne options id).diagnostics,
        d.code = Message.unknownParent.code) →
      ∃ e child name, index.synthesize id options.className = .error e ∧
        e.cause = .unknownParent child name ∧
        ((∀ r, Growth.contract r ∈ steps → r.qualified ≠ name) →
          other.generateOne options id = index.generateOne options id)) := by
  obtain ⟨c, hc⟩ := hid
  have hgrown := GrowsTo.of_growAll? hgrow
  have howners : ∀ owner ∈ Growth.owners steps, ¬ index.Reachable id owner := by
    intro owner howner
    obtain ⟨m, hm⟩ := Growth.mem_owners.1 howner
    exact hlocal owner m hm
  constructor
  · intro hcodes
    refine hgrown.generateOne_eq hc howners (fun child name hclosure => ?_) options
    -- A missing parent would have been reported.
    have hfailed := synthesize_of_closure_error hclosure options.className
    obtain ⟨d, hd, hcode⟩ := exists_unknownParent_iff.2 ⟨_, child, name, hfailed, rfl⟩
    exact absurd hcode (hcodes d hd)
  · intro hreported
    obtain ⟨e, child, name, he, hcause⟩ := exists_unknownParent_iff.1 hreported
    refine ⟨e, child, name, he, hcause, fun hnames => ?_⟩
    refine hgrown.generateOne_eq hc howners (fun child' name' hclosure => ?_) options
    -- The closure lacks the parent that is reported.
    rw [synthesize_of_closure_error hclosure] at he
    cases he
    cases hcause
    intro hname
    obtain ⟨r, hr, heq⟩ := Growth.mem_names.1 hname
    exact hnames r hr heq

/-- A contract with its parent, and one that lacks its parent. -/
def catalogue : ContractIndex where
  entries := [
    { contract := { name := .global "IShape", parents := ["INamed"] } },
    { contract := { name := .global "INamed" },
      members := [
        { name := "Name", type := .reference "string", accessors := ⟨true, true, false⟩ }] },
    { contract := { name := .global "ILabel", parents := ["IText"] } }]
  distinct := by decide

/-- A new contract that extends the first one, and a member of it. -/
def additions : List Growth := [
  .contract { contract := { name := .global "IRound", parents := ["IShape"] } },
  .member ⟨3⟩ { name := "Radius", type := .value "int", accessors := ⟨true, false, false⟩ }]

/-- Neither contract is affected, the one that is complete and the one that fails. -/
theorem generateOne_growAll_catalogue :
    ∃ other, catalogue.growAll? additions = some other ∧
      other.generateOne {} ⟨0⟩ = catalogue.generateOne {} ⟨0⟩ ∧
      other.generateOne {} ⟨2⟩ = catalogue.generateOne {} ⟨2⟩ := by
  obtain ⟨other, hgrow⟩ : ∃ other, catalogue.growAll? additions = some other :=
    Option.isSome_iff_exists.1 (by decide)
  have hcomplete : catalogue.closure ⟨0⟩ = .ok [⟨0⟩, ⟨1⟩] := by cbv
  have hfails : catalogue.closure ⟨2⟩ = .error (.unknownParent "ILabel" "IText") := by cbv
  have howner : ∀ owner m, Growth.member owner m ∈ additions → owner = ⟨3⟩ := by
    intro owner m hm
    simp [additions] at hm
    exact hm.1
  have hcompleteLocal : ∀ owner m, Growth.member owner m ∈ additions →
      ¬ catalogue.Reachable ⟨0⟩ owner := by
    intro owner m hm
    rw [howner owner m hm, ← mem_iff_of_closure hcomplete]
    decide
  have hfailsLocal : ∀ owner m, Growth.member owner m ∈ additions →
      ¬ catalogue.Reachable ⟨2⟩ owner := by
    intro owner m hm hreachable
    rw [howner owner m hm] at hreachable
    rcases hreachable.cases_head with heq | ⟨parent, ⟨c, hc, name, hname, hlookup⟩, -⟩
    · exact absurd heq (by decide)
    · -- The only parent listed is not there.
      cases hc
      rw [List.mem_singleton.1 hname] at hlookup
      have hnone : catalogue.lookup "IText" = none := by decide
      rw [hnone] at hlookup
      cases hlookup
  refine ⟨other, hgrow, ?_, ?_⟩
  · refine (generateOne_growAll hgrow ⟨_, rfl⟩ hcompleteLocal {}).1 fun d hd hcode => ?_
    obtain ⟨e, child, name, he, -⟩ := exists_unknownParent_iff.1 ⟨d, hd, hcode⟩
    have hresolve := resolve_eq_ok_iff.2 ⟨_, hcomplete, by decide, rfl⟩
    rw [synthesize_eq_ok_iff.2 ⟨_, _, rfl, hresolve, rfl⟩] at he
    cases he
  · have hfailed := synthesize_of_closure_error hfails ({} : RenderOptions).className
    obtain ⟨e, child, name, he, hcause, hsame⟩ :=
      (generateOne_growAll hgrow ⟨_, rfl⟩ hfailsLocal {}).2
        (exists_unknownParent_iff.2 ⟨_, _, _, hfailed, rfl⟩)
    rw [hfailed] at he
    cases he
    cases hcause
    apply hsame
    intro r hr
    simp [additions] at hr
    rw [hr]
    decide

end ClassSynthesis.ContractIndex
