import ClassSynthesis.Proofs.Declaration.Access
import ClassSynthesis.Proofs.Synthesis.NonNull

/-!
# Definite Assignment

A member that nothing else could ever give a value is given one by every constructor, and what is
declared readonly is written by nobody else. The declarations and the constructors agree on this
although they are made apart from each other: the declarations from the plan of the member and
from those of its origins, the constructors from the list of required members
(`SynthesizedClass.Assigned`).

Both sides come down to the accessors. A member has the accessors of all its origins, so what an
origin may write the member may write, and what no origin may write is required
(`SynthesizedMember.required_of_writeAccess?`).
-/

namespace ClassSynthesis

/-! ## Declared fields -/

/-- A declared field. -/
structure FieldDeclaration where
  /-- The modifiers. -/
  modifiers : List String
  /-- The type as written. -/
  type : String
  /-- The name. -/
  name : String
  /-- The initial value. -/
  value : Option Expression
  deriving DecidableEq, Repr

/-- Only a constructor can write the field. -/
def FieldDeclaration.isReadonly (f : FieldDeclaration) : Bool := f.modifiers.contains "readonly"

namespace Node

/-- The field that a node declares. -/
def field? : Node → Option FieldDeclaration
  | field modifiers declared name value => some ⟨modifiers, declared, name, value⟩
  | _ => none

/-- The fields that a body declares, in order. -/
def fields (body : List Node) : List FieldDeclaration := body.filterMap field?

end Node

/-- The backing field of the member, as declared. -/
def SynthesizedMember.fieldDeclaration? (m : SynthesizedMember) (context : NullableContext) :
    Option FieldDeclaration :=
  (m.fieldNode? context).bind Node.field?

/-- The fields of a class are those of its members, in order. -/
theorem SynthesizedClass.fields_body (c : SynthesizedClass) (className : String) :
    Node.fields (c.body className) = c.members.filterMap (·.fieldDeclaration? c.context) := by
  have hproperties :
      (c.members.flatMap (·.propertyNodes c.context)).filterMap Node.field? = [] := by
    refine List.filterMap_eq_nil_iff.2 fun node hnode => ?_
    obtain ⟨m, -, hm⟩ := List.mem_flatMap.1 hnode
    obtain ⟨_, _, _, _, _, _, rfl⟩ := m.exists_property_of_mem c.context hm
    rfl
  rw [body_eq, Node.fields, c.filterMap_appendConstructors className rfl fun _ => rfl, memberNodes,
    List.filterMap_append, hproperties, List.append_nil, List.filterMap_filterMap]
  rfl

/-! ## Plans and accessors -/

namespace AccessorPlan

variable {member : Member} {context : NullableContext} {plan : AccessorPlan}

/-- A member is written in the way that its accessors tell; `set` wins over `init`. -/
theorem writeAccess?_ofMember (member : Member) (context : NullableContext) :
    (ofMember member context).writeAccess? =
      if member.accessors.set then some .set
      else if member.accessors.init then some .init else none := by
  rw [writeAccess?, ofMember]
  cases member.accessors.set <;> simp

theorem writeAccess?_ofMember_eq_set_iff :
    (ofMember member context).writeAccess? = some .set ↔ member.accessors.set = true := by
  rw [writeAccess?_ofMember]
  cases member.accessors.set <;> cases member.accessors.init <;> decide

theorem writeAccess?_ofMember_eq_none_iff :
    (ofMember member context).writeAccess? = none ↔
      member.accessors.set = false ∧ member.accessors.init = false := by
  rw [writeAccess?_ofMember]
  cases member.accessors.set <;> cases member.accessors.init <;> decide

/-- The accessors offered are a getter and the one that writes. -/
theorem accessorKind_mem_iff (access : WriteAccess) :
    access.accessorKind ∈ plan.accessorKinds ↔ plan.writeAccess? = some access := by
  rw [accessorKinds]
  cases plan.writeAccess? with
  | none => cases access <;> decide
  | some other => cases access <;> cases other <;> decide

/-- Accessors that are implemented automatically have no body. -/
theorem body_of_mem_autoAccessors {a : Accessor} (h : a ∈ plan.autoAccessors) : a.body = none := by
  rcases List.mem_cons.1 h with rfl | h
  · rfl
  · obtain ⟨access, -, rfl⟩ := List.mem_map.1 h
    rfl

end AccessorPlan

/-! ## One member -/

/-- The constructor gives a value to the member at a position. -/
def ConstructorPlan.Sets (plan : ConstructorPlan) (position : Nat) : Prop :=
  ∃ slot ∈ plan.slots, slot.member = position

instance (plan : ConstructorPlan) (position : Nat) : Decidable (plan.Sets position) :=
  inferInstanceAs (Decidable (∃ slot ∈ plan.slots, slot.member = position))

/-- A declaration starts out with a new instance of a type exactly under a condition, and with no
value otherwise. -/
def StartsWithNew (value : Option Expression) (type : String) (condition : Prop) : Prop :=
  value = some (.newInstance type) ∧ condition ∨ value = none ∧ ¬ condition

namespace SynthesizedClass

/-- The declarations of the member at a position and the constructors of the class agree on who
gives the member a value. -/
structure Assigned (c : SynthesizedClass) (position : Nat) (m : SynthesizedMember) : Prop where
  /-- A public property that offers no write accessor is set by every constructor. -/
  readOnlyProperty : ∀ p ∈ Node.propertiesIn (m.propertyNodes c.context), p.isPublic = true →
    .set ∉ p.accessorKinds → .init ∉ p.accessorKinds →
      ∀ plan ∈ c.constructors.toList, plan.Sets position
  /-- So is a backing field when no declaration of the member has a write accessor. -/
  readOnlyField : m.backingField.isSome = true → m.resolved.accessors.set = false →
    m.resolved.accessors.init = false → ∀ plan ∈ c.constructors.toList, plan.Sets position
  /-- No explicit implementation sets a field that is declared readonly. -/
  readonly : ∀ f, m.fieldDeclaration? c.context = some f → f.isReadonly = true →
    ∀ p ∈ Node.propertiesIn (m.propertyNodes c.context), .set ∉ p.accessorKinds
  /-- Where an accessor assigns a property of the object, this is the public property of the
  member, and it can be set at any time. -/
  forwarding : ∀ p ∈ Node.propertiesIn (m.propertyNodes c.context), ∀ a ∈ p.accessors,
    ∀ target value, a.body = some (.assign (.thisMember target) value) →
      ∃ q ∈ Node.propertiesIn (m.propertyNodes c.context),
        q.isPublic = true ∧ q.name = target ∧ .set ∈ q.accessorKinds
  /-- The member is declared by a field or by a public property. -/
  declared : (∃ f, m.fieldDeclaration? c.context = some f) ∨
    ∃ p ∈ Node.propertiesIn (m.propertyNodes c.context), p.isPublic = true
  /-- The field starts out with an empty instance when this is possible and no constructor sets
  the member. -/
  field : ∀ f, m.fieldDeclaration? c.context = some f →
    StartsWithNew f.value m.type.name
      (m.plan.selfInitializable = true ∧ ∀ plan ∈ c.constructors.toList, ¬ plan.Sets position)
  /-- So does the public property, in the absence of a field. -/
  property : ∀ p ∈ Node.propertiesIn (m.propertyNodes c.context), p.isPublic = true →
    StartsWithNew p.value m.type.name
      (m.plan.selfInitializable = true ∧ ∀ plan ∈ c.constructors.toList, ¬ plan.Sets position)
  /-- Explicit implementations keep no value, so they start out with none. -/
  explicit : ∀ p ∈ Node.propertiesIn (m.propertyNodes c.context), p.isPublic = false →
    p.value = none

end SynthesizedClass

namespace SynthesizedMember

variable {m : SynthesizedMember} {context : NullableContext} {p : PropertyDeclaration}

theorem writeAccess?_plan_eq_none_iff :
    m.plan.writeAccess? = none ↔
      m.resolved.accessors.set = false ∧ m.resolved.accessors.init = false :=
  AccessorPlan.writeAccess?_ofMember_eq_none_iff

theorem writeAccess?_plan_eq_set_iff :
    m.plan.writeAccess? = some .set ↔ m.resolved.accessors.set = true :=
  AccessorPlan.writeAccess?_ofMember_eq_set_iff

/-- A member that cannot be written is required. -/
theorem required_of_writeAccess? (h : m.plan.writeAccess? = none) : m.plan.required = true :=
  required_plan_iff.2 (Or.inl (writeAccess?_plan_eq_none_iff.1 h))

theorem eq_publicDeclaration_of_isPublic (hp : p ∈ Node.propertiesIn (m.propertyNodes context))
    (hpublic : p.isPublic = true) :
    m.backingField = none ∧ p = m.publicDeclaration context := by
  rcases public_or_explicit hp with h | ⟨o, -, -, rfl⟩
  · exact h
  · cases hpublic

/-- What an explicit implementation assigns is its target. -/
theorem forwardingTarget_of_assign {o : MemberOrigin} {a : Accessor} {target value : Expression}
    (ha : a ∈ (explicitDeclaration context m.forwardingTarget o).accessors)
    (hbody : a.body = some (.assign target value)) : m.forwardingTarget = target := by
  rcases List.mem_cons.1 ha with rfl | ha
  · -- A getter evaluates the target, which is no assignment.
    rw [Option.some.injEq, forwardingTarget] at hbody
    split at hbody <;> cases hbody
  · obtain ⟨access, -, rfl⟩ := List.mem_map.1 ha
    cases hbody
    rfl

theorem of_forwardingTarget_eq_thisMember {name : String}
    (h : m.forwardingTarget = .thisMember name) : m.backingField = none ∧ m.name = name := by
  rw [forwardingTarget] at h
  split at h
  next => cases h
  next hfield => exact ⟨hfield, Expression.thisMember.inj h⟩

section Origins

variable (hle : ∀ o ∈ m.resolved.origins, o.member.accessors ≤ m.resolved.accessors)
  {o : MemberOrigin} (ho : o ∈ m.resolved.origins)
include hle ho

/-- An origin can be set at any time only if the member can. -/
theorem writeAccess?_plan_of_set (hset : o.plan.writeAccess? = some .set) :
    m.plan.writeAccess? = some .set := by
  rw [writeAccess?_plan_eq_set_iff]
  exact (AccessorSet.le_iff.1 (hle o ho)).2.1 (AccessorPlan.writeAccess?_ofMember_eq_set_iff.1 hset)

/-- What cannot be written has no origin that can. -/
theorem writeAccess?_origin_eq_none (hnone : m.plan.writeAccess? = none) :
    o.plan.writeAccess? = none := by
  obtain ⟨hset, hinit⟩ := writeAccess?_plan_eq_none_iff.1 hnone
  obtain ⟨-, hset', hinit'⟩ := AccessorSet.le_iff.1 (hle o ho)
  refine AccessorPlan.writeAccess?_ofMember_eq_none_iff.2 ⟨?_, ?_⟩
  · exact Bool.eq_false_iff.2 fun h => Bool.eq_false_iff.1 hset (hset' h)
  · exact Bool.eq_false_iff.2 fun h => Bool.eq_false_iff.1 hinit (hinit' h)

/-- An origin is implemented next to a public property only if this one can be set at any time:
the origin declares `init` then. -/
theorem writeAccess?_plan_of_isExplicit (hfield : m.backingField = none)
    (hexplicit : m.isExplicit o = true) : m.plan.writeAccess? = some .set := by
  obtain ⟨hsome, hne⟩ : o.plan.writeAccess?.isSome = true ∧
      o.plan.writeAccess? ≠ m.plan.writeAccess? := by
    simpa [isExplicit, hfield] using hexplicit
  obtain ⟨access, haccess⟩ := Option.isSome_iff_exists.1 hsome
  cases hplan : m.plan.writeAccess? with
  | none => exact absurd ((writeAccess?_origin_eq_none hle ho hplan).trans hplan.symm) hne
  | some other =>
    cases other with
    | set => rfl
    | init =>
      -- An origin that declares `set` would let the member be set, and `init` is not explicit.
      cases access with
      | set =>
        rw [writeAccess?_plan_of_set hle ho haccess] at hplan
        cases hplan
      | init => exact absurd (haccess.trans hplan.symm) hne

end Origins

/-- The field that a member declares is its backing field. It has the initial value of the member,
and it is readonly only if the member cannot be set at any time. -/
theorem of_fieldDeclaration? {f : FieldDeclaration} (h : m.fieldDeclaration? context = some f) :
    m.backingField = some f.name ∧ f.value = m.declarationDefault ∧
      (f.isReadonly = true → m.plan.writeAccess? ≠ some .set) := by
  rw [fieldDeclaration?, fieldNode?] at h
  cases hfield : m.backingField with
  | none =>
    rw [hfield] at h
    cases h
  | some field =>
    rw [hfield] at h
    cases h
    refine ⟨rfl, rfl, fun hreadonly hset => ?_⟩
    -- A plan that can be set at any time exposes a setter.
    have hexposes : m.plan.exposesSetter = true := writeAccess?_plan_eq_set_iff.1 hset
    simp [FieldDeclaration.isReadonly, hexposes] at hreadonly

end SynthesizedMember

namespace SynthesizedClass

variable {contract : Contract} {r : Resolution} {className : String} {position : Nat}
  {m : SynthesizedMember}

/-- A constructor sets the members that are required. -/
theorem sets_iff {plan : ConstructorPlan}
    (hplan : plan ∈ (ofResolution contract r className).constructors.toList)
    (hm : (ofResolution contract r className).members[position]? = some m) :
    plan.Sets position ↔ m.plan.required = true :=
  exists_slot_iff hplan hm

/-- A member starts out with an empty instance when this is possible and no constructor sets
it. -/
theorem startsWithNew_declarationDefault
    (hm : (ofResolution contract r className).members[position]? = some m) :
    StartsWithNew m.declarationDefault m.type.name
      (m.plan.selfInitializable = true ∧
        ∀ plan ∈ (ofResolution contract r className).constructors.toList,
          ¬ plan.Sets position) := by
  -- One constructor sets what all do, and there is one.
  have hnone : (∀ plan ∈ (ofResolution contract r className).constructors.toList,
      ¬ plan.Sets position) ↔ m.plan.required = false := by
    constructor
    · intro h
      rw [← Bool.not_eq_true, ← sets_iff List.mem_cons_self hm]
      exact h _ List.mem_cons_self
    · intro hrequired plan hplan hsets
      rw [sets_iff hplan hm, hrequired] at hsets
      cases hsets
  rw [StartsWithNew, hnone, SynthesizedMember.declarationDefault,
    AccessorPlan.hasDeclarationDefault]
  cases m.plan.selfInitializable <;> cases m.plan.required <;> simp

/-- The declarations of a member whose accessors include those of its origins agree with the
constructors. -/
theorem assigned_of_accessors_le
    (hm : (ofResolution contract r className).members[position]? = some m)
    (hle : ∀ o ∈ m.resolved.origins, o.member.accessors ≤ m.resolved.accessors) :
    (ofResolution contract r className).Assigned position m where
  readOnlyProperty := by
    -- A property without a write accessor belongs to a plan without one, which is required.
    intro p hp hpublic hset hinit plan hplan
    obtain ⟨-, rfl⟩ := SynthesizedMember.eq_publicDeclaration_of_isPublic hp hpublic
    rw [SynthesizedMember.accessorKinds_publicDeclaration] at hset hinit
    rw [sets_iff hplan hm]
    apply SynthesizedMember.required_of_writeAccess?
    cases hwrite : m.plan.writeAccess? with
    | none => rfl
    | some access =>
      have hmem := (AccessorPlan.accessorKind_mem_iff access).2 hwrite
      cases access with
      | set => exact absurd hmem hset
      | init => exact absurd hmem hinit
  readOnlyField := by
    intro _ hset hinit plan hplan
    rw [sets_iff hplan hm]
    exact SynthesizedMember.required_of_writeAccess?
      (SynthesizedMember.writeAccess?_plan_eq_none_iff.2 ⟨hset, hinit⟩)
  readonly := by
    -- An origin that can be set would make the plan of the member expose a setter.
    intro f hf hreadonly p hp hset
    obtain ⟨hfield, -, hplan⟩ := SynthesizedMember.of_fieldDeclaration? hf
    rcases SynthesizedMember.public_or_explicit hp with ⟨hnone, -⟩ | ⟨o, ho, -, rfl⟩
    · rw [hnone] at hfield
      cases hfield
    · rw [SynthesizedMember.accessorKinds_explicitDeclaration] at hset
      exact hplan hreadonly (SynthesizedMember.writeAccess?_plan_of_set hle ho
        ((AccessorPlan.accessorKind_mem_iff .set).1 hset))
  forwarding := by
    -- Only an explicit implementation has a body, and it is explicit for its `init`.
    intro p hp a ha target value hbody
    rcases SynthesizedMember.public_or_explicit hp with ⟨-, rfl⟩ | ⟨o, ho, hexplicit, rfl⟩
    · rw [AccessorPlan.body_of_mem_autoAccessors ha] at hbody
      cases hbody
    · have htarget := SynthesizedMember.forwardingTarget_of_assign ha hbody
      obtain ⟨hfield, rfl⟩ := SynthesizedMember.of_forwardingTarget_eq_thisMember htarget
      refine ⟨_, SynthesizedMember.publicDeclaration_mem hfield, rfl, rfl, ?_⟩
      rw [SynthesizedMember.accessorKinds_publicDeclaration]
      exact (AccessorPlan.accessorKind_mem_iff .set).2
        (SynthesizedMember.writeAccess?_plan_of_isExplicit hle ho hfield hexplicit)
  declared := by
    cases hfield : m.backingField with
    | some field =>
      left
      rw [SynthesizedMember.fieldDeclaration?, SynthesizedMember.fieldNode?, hfield]
      exact ⟨_, rfl⟩
    | none => exact Or.inr ⟨_, SynthesizedMember.publicDeclaration_mem hfield, rfl⟩
  field := by
    intro f hf
    rw [(SynthesizedMember.of_fieldDeclaration? hf).2.1]
    exact startsWithNew_declarationDefault hm
  property := by
    intro p hp hpublic
    obtain ⟨-, rfl⟩ := SynthesizedMember.eq_publicDeclaration_of_isPublic hp hpublic
    exact startsWithNew_declarationDefault hm
  explicit := by
    intro p hp hpublic
    rcases SynthesizedMember.public_or_explicit hp with ⟨-, rfl⟩ | ⟨o, -, -, rfl⟩
    · cases hpublic
    · rfl

end SynthesizedClass

namespace ContractIndex

/-- In a synthesized class the fields, the properties and the constructors are those of its
members and of its plans, and for each member they agree on who gives it a value. -/
theorem members_assigned {index : ContractIndex} {id : ContractId} {className : String}
    {c : SynthesizedClass} (h : index.synthesize id className = .ok c) :
    Node.fields (c.body className) = c.members.filterMap (·.fieldDeclaration? c.context) ∧
    Node.propertiesIn (c.body className) =
      c.members.flatMap (fun m => Node.propertiesIn (m.propertyNodes c.context)) ∧
    (c.body className).filter Node.isConstructor =
      c.constructors.toList.map (c.constructorNode className) ∧
    ∀ position m, c.members[position]? = some m → c.Assigned position m := by
  refine ⟨c.fields_body className, c.propertiesIn_body className, c.constructors_body className,
    fun position m hm => ?_⟩
  have hle : ∀ o ∈ m.resolved.origins, o.member.accessors ≤ m.resolved.accessors := by
    obtain ⟨closure, -, hgathers⟩ := gathers_of_synthesize h (List.mem_of_getElem? hm)
    exact fun o ho => hgathers.le_accessors ho
  obtain ⟨contract, resolution, -, -, rfl⟩ := synthesize_eq_ok_iff.1 h
  exact SynthesizedClass.assigned_of_accessors_le hm hle

/-- A property that a parent can set and its child only initializes, one spelled like the class
that can only be read, and a collection that may be missing. -/
def shop : ContractIndex where
  entries := [
    { contract := { name := .global "IShop", parents := ["ILabelled"], context := .enabled },
      members := [
        { name := "Name", type := .reference "string", accessors := ⟨true, false, true⟩ },
        { name := "Class", type := .value "int", accessors := ⟨true, false, false⟩ },
        { name := "Tags", type := (TypeRef.collection "List<string>").toNullable,
          accessors := ⟨true, true, false⟩ }] },
    { contract := { name := .global "ILabelled", context := .enabled },
      members := [
        { name := "Name", type := .reference "string", accessors := ⟨true, true, false⟩ }] }]
  distinct := by decide

/-- The field of the second member is set by every constructor, and the third starts out with an
empty collection. -/
theorem members_assigned_shop :
    ∃ c number tags, shop.synthesize ⟨0⟩ "Class" = .ok c ∧
      c.members[1]? = some number ∧ number.name = "Class" ∧
      (∀ plan ∈ c.constructors.toList, plan.Sets 1) ∧
      c.members[2]? = some tags ∧ tags.name = "Tags" ∧
      ∀ p ∈ Node.propertiesIn (tags.propertyNodes c.context), p.isPublic = true →
        p.value = some (.newInstance "List<string>") := by
  have hclosure : shop.closure ⟨0⟩ = .ok [⟨0⟩, ⟨1⟩] := by cbv
  have hresolve := resolve_eq_ok_iff.2 ⟨_, hclosure, by decide, rfl⟩
  have hc : shop.synthesize ⟨0⟩ "Class" = .ok _ :=
    synthesize_eq_ok_iff.2 ⟨_, _, rfl, hresolve, rfl⟩
  obtain ⟨-, -, -, hassigned⟩ := members_assigned hc
  refine ⟨_, _, _, hc, rfl, by decide, ?_, rfl, by decide, fun p hp hpublic => ?_⟩
  · exact (hassigned 1 _ rfl).readOnlyField rfl (by decide) (by decide)
  · rcases (hassigned 2 _ rfl).property p hp hpublic with ⟨hvalue, -⟩ | ⟨-, hnot⟩
    · exact hvalue
    · exact absurd (by decide) hnot

end ContractIndex

end ClassSynthesis
