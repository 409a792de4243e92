import ClassSynthesis.Proofs.Synthesis.ConstructorPlan
import ClassSynthesis.Proofs.Synthesis.Gathering
import ClassSynthesis.Proofs.Synthesis.Origins

/-!
# Members That Are Never Null

A contract in an enabled nullable context promises that its non-nullable references have a
value. Declarations with and without such a promise may be merged into one member, which is
then classified under the context of the declaration that the closure meets first. So the
constructors keep the promise of a later declaration only if the first one promises the same,
or if nothing but a constructor can set the member (`ContractIndex.slot_iff_of_nonNull`).
-/

namespace ClassSynthesis

/-- A type that promises a value in some context does so in the enabled one only. -/
theorem TypeRef.isNonNullableReference_iff {t : TypeRef} {context other : NullableContext}
    (h : t.isNonNullableReference context = true) :
    t.isNonNullableReference other = true ↔ other = .enabled := by
  simp only [isNonNullableReference, Bool.and_eq_true] at h ⊢
  simp [h.1]

namespace SynthesizedMember

variable {m : SynthesizedMember}

/-- The constructors have to set a member that cannot be written, and one whose first
declaration promises a value. -/
theorem required_plan_iff :
    m.plan.required = true ↔
      (m.resolved.accessors.set = false ∧ m.resolved.accessors.init = false) ∨
        m.type.isNonNullableReference m.resolved.first.context = true := by
  show ((!m.resolved.accessors.set && !m.resolved.accessors.init) ||
    m.type.isNonNullableReference m.resolved.first.context) = true ↔ _
  simp

end SynthesizedMember

namespace SynthesizedClass

variable {contract : Contract} {resolution : Resolution} {className : String}

/-- A constructor has a slot for a member exactly when the member is required. -/
theorem exists_slot_iff {plan : ConstructorPlan} {position : Nat} {m : SynthesizedMember}
    (hplan : plan ∈ (ofResolution contract resolution className).constructors.toList)
    (hm : (ofResolution contract resolution className).members[position]? = some m) :
    (∃ slot ∈ plan.slots, slot.member = position) ↔ m.plan.required = true := by
  rw [← List.mem_map, map_member_slots hplan, requiredPositions, List.mem_filter, hm]
  have hlt := (List.getElem?_eq_some_iff.1 hm).1
  simp [hlt]

end SynthesizedClass

namespace ContractIndex

variable {index : ContractIndex} {id : ContractId} {className : String} {c : SynthesizedClass}

/-- A member of a class gathers the declarations of its key in the closure. -/
theorem gathers_of_synthesize (h : index.synthesize id className = .ok c)
    {m : SynthesizedMember} (hm : m ∈ c.members) :
    ∃ closure, index.closure id = .ok closure ∧
      m.resolved.Gathers
        (declarationsOf m.resolved.key (closure.flatMap index.eligibleOrigins)) := by
  obtain ⟨closure, hclosure, hmembers, -⟩ := members_of_synthesize h
  refine ⟨closure, hclosure, gathers_of_mem_qualifyCollisions ?_⟩
  rw [← hmembers]
  exact List.mem_map_of_mem hm

/-- Let a declaration of a member be a non-nullable reference under the context of its
contract. Then every constructor has a slot for the member if the declaration that the closure
meets first stands in an enabled context, or if no declaration of the member can be written.
Otherwise no constructor has one. -/
theorem slot_iff_of_nonNull (h : index.synthesize id className = .ok c) {position : Nat}
    {m : SynthesizedMember} (hm : c.members[position]? = some m) {o : MemberOrigin}
    (ho : o ∈ m.resolved.origins)
    (hpromise : o.member.type.isNonNullableReference o.context = true) :
    (∃ closure, index.closure id = .ok closure ∧
      (declarationsOf m.resolved.key (closure.flatMap index.eligibleOrigins)).head? =
        some m.resolved.first) ∧
    ∀ plan ∈ c.constructors.toList, (∃ slot ∈ plan.slots, slot.member = position) ↔
      m.resolved.first.context = .enabled ∨
        (m.resolved.accessors.set = false ∧ m.resolved.accessors.init = false) := by
  have hmem : m ∈ c.members := List.mem_of_getElem? hm
  obtain ⟨closure, hclosure, hgathers⟩ := gathers_of_synthesize h hmem
  refine ⟨⟨closure, hclosure, hgathers.first⟩, fun plan hplan => ?_⟩
  -- The member has the type that is promised, so only the first context is left to decide.
  have htype : o.member.type = m.type := (declared_of_synthesize h m hmem).type_eq ho
  rw [htype] at hpromise
  obtain ⟨contract, resolution, -, -, rfl⟩ := synthesize_eq_ok_iff.1 h
  rw [SynthesizedClass.exists_slot_iff hplan hm, SynthesizedMember.required_plan_iff,
    TypeRef.isNonNullableReference_iff hpromise, or_comm]

/-- A document whose parents declare the same property, which can be written. The contract of
the modern parent promises a value, the legacy one stands in a disabled context. -/
def document (parents : List String) : ContractIndex where
  entries := [
    { contract := { name := .global "IDocument", parents, context := .enabled } },
    { contract := { name := .global "ILegacy" },
      members := [
        { name := "Title", type := .reference "string", accessors := ⟨true, true, false⟩ }] },
    { contract := { name := .global "IModern", context := .enabled },
      members := [
        { name := "Title", type := .reference "string", accessors := ⟨true, true, false⟩ }] }]
  distinct := by simp [Registration.qualified]

/-- When the modern parent is met first, every constructor takes a title. -/
theorem slot_iff_of_nonNull_modern :
    ∃ c m, (document ["IModern", "ILegacy"]).synthesize ⟨0⟩ "Class" = .ok c ∧
      c.members[0]? = some m ∧ m.name = "Title" ∧
      ∀ plan ∈ c.constructors.toList, ∃ slot ∈ plan.slots, slot.member = 0 := by
  have hclosure : (document ["IModern", "ILegacy"]).closure ⟨0⟩ = .ok [⟨0⟩, ⟨2⟩, ⟨1⟩] := by cbv
  have hresolve := resolve_eq_ok_iff.2 ⟨_, hclosure, by decide, rfl⟩
  have hc : (document ["IModern", "ILegacy"]).synthesize ⟨0⟩ "Class" = .ok _ :=
    synthesize_eq_ok_iff.2 ⟨_, _, rfl, hresolve, rfl⟩
  obtain ⟨-, hslots⟩ := @slot_iff_of_nonNull _ _ _ _ hc 0 _ rfl _ List.mem_cons_self (by decide)
  exact ⟨_, _, hc, rfl, by decide, fun plan hplan => (hslots plan hplan).2 (Or.inl (by decide))⟩

/-- When it is met second, its promise is lost: the only constructor takes nothing. -/
theorem promise_lost_after_legacy :
    ∃ c m, (document ["ILegacy", "IModern"]).synthesize ⟨0⟩ "Class" = .ok c ∧
      c.members[0]? = some m ∧
      (∃ o ∈ m.resolved.origins, o.contractName = .global "IModern" ∧
        o.member.type.isNonNullableReference o.context = true) ∧
      ∀ plan ∈ c.constructors.toList, ¬ ∃ slot ∈ plan.slots, slot.member = 0 := by
  have hclosure : (document ["ILegacy", "IModern"]).closure ⟨0⟩ = .ok [⟨0⟩, ⟨1⟩, ⟨2⟩] := by cbv
  have hresolve := resolve_eq_ok_iff.2 ⟨_, hclosure, by decide, rfl⟩
  refine ⟨_, _, synthesize_eq_ok_iff.2 ⟨_, _, rfl, hresolve, rfl⟩, rfl, by decide, by decide⟩

end ContractIndex

end ClassSynthesis
