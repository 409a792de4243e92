import ClassSynthesis.Proofs.Declaration.Properties

/-!
# Every Origin Is Implemented Once

A class implements each origin of its members in one of two ways: by an explicit property
for the contract that declares it, or through the public property of the member. Which way
it is depends on the origin alone (`SynthesizedMember.isExplicit`), and the contracts that
declare a member have distinct qualified names, so no origin is implemented twice and none
is left out (`ContractIndex.origins_implemented`).
-/

namespace ClassSynthesis

/-- In a list with distinct labels, an element is the only one with its label. -/
private theorem filter_label_eq_singleton {α β : Type} [BEq β] [LawfulBEq β] {label : α → β}
    {l : List α} (h : (l.map label).Nodup) {a : α} (ha : a ∈ l) :
    l.filter (label · == label a) = [a] := by
  induction l with
  | nil => cases ha
  | cons b rest ih =>
    rw [List.map_cons, List.nodup_cons] at h
    rcases List.mem_cons.1 ha with rfl | ha
    · have hrest : rest.filter (label · == label a) = [] := by
        refine List.filter_eq_nil_iff.2 fun c hc hlabel => h.1 ?_
        rw [← eq_of_beq hlabel]
        exact List.mem_map_of_mem hc
      rw [List.filter_cons, if_pos BEq.rfl, hrest]
    · have hb : ¬ (label b == label a) = true := by
        intro hlabel
        rw [eq_of_beq hlabel] at h
        exact h.1 (List.mem_map_of_mem ha)
      rw [List.filter_cons, if_neg hb]
      exact ih h.2 ha

namespace SynthesizedMember

/-- Among the properties of the member, exactly one implements the contract of the origin
explicitly. It has the member's name and the declared type, it is read, and it is written in
the way that the origin declares, or in none. -/
def ImplementedExplicitly (m : SynthesizedMember) (context : NullableContext)
    (o : MemberOrigin) : Prop :=
  ∃ p, (Node.propertiesIn (m.propertyNodes context)).filter
      (·.implementsContract o.contractName.qualified) = [p] ∧
    p.name = m.name ∧ p.type = o.member.type.display context ∧
      p.accessorKinds = .get :: o.plan.writeAccess?.toList.map WriteAccess.accessorKind

/-- None of the properties of the member implements the contract of the origin explicitly,
and exactly one is public. That one has the member's name and the declared type, it is read,
and if the origin declares a way of writing, it is written in that way. -/
def ImplementedPublicly (m : SynthesizedMember) (context : NullableContext)
    (o : MemberOrigin) : Prop :=
  (Node.propertiesIn (m.propertyNodes context)).filter
      (·.implementsContract o.contractName.qualified) = [] ∧
    ∃ p, (Node.propertiesIn (m.propertyNodes context)).filter (·.isPublic) = [p] ∧
      p.name = m.name ∧ p.type = o.member.type.display context ∧
        ∃ write : Option WriteAccess,
          p.accessorKinds = .get :: write.toList.map WriteAccess.accessorKind ∧
            (o.plan.writeAccess? = none ∨ o.plan.writeAccess? = write)

variable {index : ContractIndex} {m : SynthesizedMember} {o : MemberOrigin}

/-- The explicit implementations for the contract of an origin: one or none, as the origin
needs it. -/
theorem filter_implementsContract (h : m.DeclaredIn index) (ho : o ∈ m.resolved.origins)
    (context : NullableContext) :
    (Node.propertiesIn (m.propertyNodes context)).filter
        (·.implementsContract o.contractName.qualified) =
      if m.isExplicit o then [explicitDeclaration context m.forwardingTarget o] else [] := by
  -- The public property implements no contract explicitly, and of the explicit ones only the
  -- one for this origin names its contract.
  have hpublic : (if m.backingField.isNone then [m.publicDeclaration context] else []).filter
      (·.implementsContract o.contractName.qualified) = [] := by
    split <;> rfl
  have hsame : ((m.resolved.origins.filter m.isExplicit).map
      (explicitDeclaration context m.forwardingTarget)).filter
        (·.implementsContract o.contractName.qualified) =
      ((m.resolved.origins.filter fun p =>
        p.contractName.qualified == o.contractName.qualified).filter m.isExplicit).map
          (explicitDeclaration context m.forwardingTarget) := by
    rw [List.filter_map, List.filter_filter, List.filter_filter]
    congr 1
    refine List.filter_congr fun p _ => ?_
    rw [Bool.and_comm]
    rfl
  rw [properties_propertyNodes, List.filter_append, hpublic, List.nil_append, hsame,
    filter_label_eq_singleton h.nodup_qualified ho]
  rw [List.filter_cons]
  split <;> rfl

/-- The public properties of a member: one unless it has a backing field. -/
theorem filter_isPublic (m : SynthesizedMember) (context : NullableContext) :
    (Node.propertiesIn (m.propertyNodes context)).filter (·.isPublic) =
      if m.backingField.isNone then [m.publicDeclaration context] else [] := by
  have hexplicit : ((m.resolved.origins.filter m.isExplicit).map
      (explicitDeclaration context m.forwardingTarget)).filter (·.isPublic) = [] := by
    refine List.filter_eq_nil_iff.2 fun p hp => ?_
    obtain ⟨o, -, rfl⟩ := List.mem_map.1 hp
    exact Bool.false_ne_true
  rw [properties_propertyNodes, List.filter_append, hexplicit, List.append_nil]
  split <;> rfl

theorem implementedExplicitly_of_isExplicit (h : m.DeclaredIn index)
    (ho : o ∈ m.resolved.origins) (context : NullableContext)
    (hexplicit : m.isExplicit o = true) : m.ImplementedExplicitly context o := by
  refine ⟨explicitDeclaration context m.forwardingTarget o, ?_, ?_, rfl, ?_⟩
  · rw [filter_implementsContract h ho, if_pos hexplicit]
  · exact h.name_eq ho
  · exact accessorKinds_explicitDeclaration ..

theorem implementedPublicly_of_not_isExplicit (h : m.DeclaredIn index)
    (ho : o ∈ m.resolved.origins) (context : NullableContext)
    (hexplicit : m.isExplicit o = false) : m.ImplementedPublicly context o := by
  obtain ⟨hfield, hwrite⟩ := Bool.or_eq_false_iff.1 hexplicit
  have hnone : m.backingField.isNone = true := by
    rw [← Option.not_isSome, hfield]
    rfl
  refine ⟨?_, m.publicDeclaration context, ?_, rfl, ?_, m.plan.writeAccess?, ?_, ?_⟩
  · rw [filter_implementsContract h ho, hexplicit]
    rfl
  · rw [filter_isPublic, if_pos hnone]
  · rw [h.type_eq ho]
    rfl
  · exact accessorKinds_publicDeclaration ..
  · -- The origin declares no way of writing, or that of the public property.
    rcases Bool.and_eq_false_iff.1 hwrite with hwrite | hwrite
    · left
      exact Option.isSome_eq_false_iff.1 hwrite |> Option.isNone_iff_eq_none.1
    · right
      simpa using hwrite

/-- The two ways exclude each other, and one of them applies. -/
theorem implemented_xor (h : m.DeclaredIn index) (ho : o ∈ m.resolved.origins)
    (context : NullableContext) :
    Xor (m.ImplementedExplicitly context o) (m.ImplementedPublicly context o) := by
  have hexclusive : ¬ (m.ImplementedExplicitly context o ∧ m.ImplementedPublicly context o) := by
    rintro ⟨⟨p, hp, -⟩, hnone, -⟩
    rw [hnone] at hp
    cases hp
  cases hexplicit : m.isExplicit o with
  | true =>
    have hyes := implementedExplicitly_of_isExplicit h ho context hexplicit
    exact Or.inl ⟨hyes, fun hno => hexclusive ⟨hyes, hno⟩⟩
  | false =>
    have hyes := implementedPublicly_of_not_isExplicit h ho context hexplicit
    exact Or.inr ⟨hyes, fun hno => hexclusive ⟨hno, hyes⟩⟩

/-- A property of a member is its public one, or the explicit one for an origin. -/
theorem public_or_explicit {context : NullableContext} {p : PropertyDeclaration}
    (hp : p ∈ Node.propertiesIn (m.propertyNodes context)) :
    m.backingField = none ∧ p = m.publicDeclaration context ∨
      ∃ o ∈ m.resolved.origins, m.isExplicit o = true ∧
        p = explicitDeclaration context m.forwardingTarget o := by
  rw [properties_propertyNodes] at hp
  rcases List.mem_append.1 hp with hp | hp
  · left
    split at hp
    next hnone => exact ⟨Option.isNone_iff_eq_none.1 hnone, List.mem_singleton.1 hp⟩
    next => cases hp
  · right
    obtain ⟨o, ho, rfl⟩ := List.mem_map.1 hp
    obtain ⟨hmem, hexplicit⟩ := List.mem_filter.1 ho
    exact ⟨o, hmem, hexplicit, rfl⟩

end SynthesizedMember

/-- The public properties of a class are those of the members without a backing field. -/
theorem SynthesizedClass.filter_isPublic (c : SynthesizedClass) (options : RenderOptions) :
    (Node.propertiesIn (c.nodes options)).filter (·.isPublic) =
      (c.members.filter (·.backingField.isNone)).map (·.publicDeclaration c.context) := by
  rw [properties_nodes, List.filter_flatMap]
  induction c.members with
  | nil => rfl
  | cons m rest ih =>
    rw [List.flatMap_cons, ih, SynthesizedMember.filter_isPublic, List.filter_cons]
    split <;> rfl

namespace ContractIndex

/-- In the file of a synthesized class, each origin of each member is implemented either by
one explicit property for its contract or through the public property of the member, and not
in both ways. The file has no properties but those of the members. Each of these is the one
public property of a member without a backing field, which may be read and has the type of
the member, or the explicit implementation for an origin. No two public properties have the
same name. -/
theorem origins_implemented {index : ContractIndex} {id : ContractId}
    {options : RenderOptions} {c : SynthesizedClass}
    (h : index.synthesize id options.className = .ok c) :
    (∀ m ∈ c.members, ∀ o ∈ m.resolved.origins,
      Xor (m.ImplementedExplicitly c.context o) (m.ImplementedPublicly c.context o)) ∧
    Node.propertiesIn (c.nodes options) =
      c.members.flatMap (fun m => Node.propertiesIn (m.propertyNodes c.context)) ∧
    (∀ m ∈ c.members, ∀ p ∈ Node.propertiesIn (m.propertyNodes c.context),
      (m.backingField = none ∧
        (Node.propertiesIn (m.propertyNodes c.context)).filter (·.isPublic) = [p] ∧
          p.name = m.name ∧ p.type = m.type.display c.context ∧ .get ∈ p.accessorKinds) ∨
        ∃ o ∈ m.resolved.origins,
          p.implementsContract o.contractName.qualified = true ∧
            m.ImplementedExplicitly c.context o) ∧
    (((Node.propertiesIn (c.nodes options)).filter (·.isPublic)).map (·.name)).Nodup := by
  have hdeclared := declared_of_synthesize h
  refine ⟨?_, c.properties_nodes options, ?_, ?_⟩
  · intro m hm o ho
    exact SynthesizedMember.implemented_xor (hdeclared m hm) ho c.context
  · intro m hm p hp
    rcases SynthesizedMember.public_or_explicit hp with ⟨hnone, rfl⟩ | ⟨o, ho, hexplicit, rfl⟩
    · refine Or.inl ⟨hnone, ?_, rfl, rfl, ?_⟩
      · rw [SynthesizedMember.filter_isPublic, hnone]
        rfl
      · rw [SynthesizedMember.accessorKinds_publicDeclaration]
        exact List.mem_cons_self
    · refine Or.inr ⟨o, ho, BEq.rfl, ?_⟩
      exact SynthesizedMember.implementedExplicitly_of_isExplicit (hdeclared m hm) ho c.context
        hexplicit
  · rw [SynthesizedClass.filter_isPublic, List.map_map]
    exact nodup_plain_names h

/-- An interface that narrows a property of its parent to one that can be set only during
initialization, next to a property spelled like the class. -/
def narrowing : ContractIndex where
  entries := [
    { contract := { name := .global "IShape", parents := ["INamed"] },
      members := [
        { name := "Name", type := .reference "string", accessors := ⟨true, false, true⟩ },
        { name := "Class", type := .value "int", accessors := ⟨true, false, false⟩ }] },
    { contract := { name := .global "INamed" },
      members := [
        { name := "Name", type := .reference "string", accessors := ⟨true, true, false⟩ }] }]
  distinct := by decide

theorem origins_implemented_narrowing :
    ∃ c, narrowing.synthesize ⟨0⟩ ({} : RenderOptions).className = .ok c ∧
      c.members.map SynthesizedMember.name = ["Name", "Class"] ∧
      ∀ m ∈ c.members, ∀ o ∈ m.resolved.origins,
        Xor (m.ImplementedExplicitly c.context o) (m.ImplementedPublicly c.context o) := by
  have hclosure : narrowing.closure ⟨0⟩ = .ok [⟨0⟩, ⟨1⟩] := by cbv
  have hresolve := resolve_eq_ok_iff.2 ⟨_, hclosure, by decide, rfl⟩
  obtain ⟨c, hc⟩ : ∃ c, narrowing.synthesize ⟨0⟩ ({} : RenderOptions).className = .ok c :=
    ⟨_, synthesize_eq_ok_iff.2 ⟨_, _, rfl, hresolve, rfl⟩⟩
  refine ⟨c, hc, ?_, (origins_implemented hc).1⟩
  obtain ⟨closure, hsame, hmembers, -⟩ := members_of_synthesize hc
  rw [hclosure] at hsame
  cases hsame
  have hnames : c.members.map SynthesizedMember.name =
      (c.members.map SynthesizedMember.resolved).map (·.name) := by
    rw [List.map_map]
    rfl
  rw [hnames, hmembers]
  decide

end ContractIndex

end ClassSynthesis
