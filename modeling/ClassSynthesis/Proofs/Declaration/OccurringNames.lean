import ClassSynthesis.Proofs.Declaration.Construction
import ClassSynthesis.Proofs.Declaration.Initialization
import ClassSynthesis.Proofs.Synthesis.ParameterNames
import ClassSynthesis.Proofs.Synthesis.StorageNames

/-!
# The Names in a Class

A class spells names in its declarations and uses them in its bodies. Whatever a body uses is
declared: it is bound by the body, or it is a field or property of the class (`Node.InScope`). The
fields and the parameters are escaped, so none of them is a reserved word. The properties have the
names of their members as these are, and where a member has no backing field, its name stands in
bodies too. So a reserved word occurs in a class exactly when it is the name of a member
(`ContractIndex.reserved_word_occurs_iff`), and there are contracts for which it does
(`ContractIndex.reserved_word_as_property`).

- `Node.names`: the names declared and used in a node.
- `ContractIndex.eq_of_mem_names`: what can be such a name in a class.
-/

namespace ClassSynthesis

/-! ## Names and scopes -/

namespace Expression

/-- The names used in an expression, bare or as members of the object. -/
def names : Expression → List String
  | identifier name => [name]
  | thisMember name => [name]
  | newInstance _ => []
  | assign target value => target.names ++ value.names

/-- A name used in the expression is bound by the body, or it is one of the fields and properties
`stored`. A member of the object is one of the latter in any case. -/
def InScope (stored bound : List String) : Expression → Prop
  | identifier name => name ∈ bound ∨ name ∈ stored
  | thisMember name => name ∈ stored
  | newInstance _ => True
  | assign target value => target.InScope stored bound ∧ value.InScope stored bound

end Expression

namespace Accessor

/-- The names used in the body of the accessor. -/
def names (a : Accessor) : List String := a.body.toList.flatMap Expression.names

/-- The names that its body binds: when it writes, the incoming value. -/
def bound (a : Accessor) : List String :=
  match a.kind with
  | .get => []
  | .set => ["value"]
  | .init => ["value"]

end Accessor

/-- An explicit implementation evaluates its target or assigns the incoming value to it. -/
theorem AccessorPlan.body_of_mem_forwardingAccessors {plan : AccessorPlan} {target : Expression}
    {a : Accessor} (h : a ∈ plan.forwardingAccessors target) :
    a.body = some target ∨
      a.bound = ["value"] ∧ a.body = some (.assign target (.identifier "value")) := by
  rcases List.mem_cons.1 h with rfl | h
  · exact Or.inl rfl
  · obtain ⟨access, -, rfl⟩ := List.mem_map.1 h
    cases access <;> exact Or.inr ⟨rfl, rfl⟩

namespace Node

mutual

/-- The names of the fields, properties and parameters declared in a node, and the names used in
its bodies and initial values. -/
def names : Node → List String
  | comment _ => []
  | directive _ => []
  | blank => []
  | scope _ body => namesIn body
  | type _ _ _ _ body => namesIn body
  | field _ _ name value => name :: value.toList.flatMap Expression.names
  | property _ _ _ name accessors value =>
    name :: (accessors.flatMap Accessor.names ++ value.toList.flatMap Expression.names)
  | constructor _ _ parameters body => parameters.map (·.name) ++ namesIn body
  | statement expression => expression.names

/-- The names in a sequence of nodes. -/
def namesIn : List Node → List String
  | [] => []
  | node :: rest => names node ++ namesIn rest

end

theorem namesIn_eq_flatMap (nodes : List Node) : namesIn nodes = nodes.flatMap names := by
  induction nodes with
  | nil => rw [namesIn, List.flatMap_nil]
  | cons node rest ih => rw [namesIn, List.flatMap_cons, ih]

/-- The parameters of a constructor; none in any other node. -/
def parameters : Node → List Parameter
  | constructor _ _ parameters _ => parameters
  | _ => []

/-- In a class with the fields and properties `stored`, the names used in the bodies of a
declaration and in its initial value are in scope. -/
def InScope (stored : List String) : Node → Prop
  | field _ _ _ value => ∀ e ∈ value, e.InScope stored []
  | property _ _ _ _ accessors value =>
    (∀ a ∈ accessors, ∀ e ∈ a.body, e.InScope stored a.bound) ∧
      ∀ e ∈ value, e.InScope stored []
  | constructor _ _ parameters body =>
    ∀ e, statement e ∈ body → e.InScope stored (parameters.map (·.name))
  | _ => True

end Node

/-! ## One member -/

namespace SynthesizedMember

variable {m : SynthesizedMember} {context : NullableContext} {node : Node}
  {stored bound : List String}

/-- The storage of a member is its backing field or else its name. -/
theorem storage_cases (m : SynthesizedMember) :
    m.backingField = some m.storage ∨ m.backingField = none ∧ m.storage = m.name := by
  rw [storage]
  cases m.backingField with
  | some field => exact Or.inl rfl
  | none => exact Or.inr ⟨rfl, rfl⟩

/-- A declaration starts out with an instance of a type or with nothing, and names neither. -/
theorem of_mem_declarationDefault {e : Expression} (h : e ∈ m.declarationDefault) :
    e = .newInstance m.type.name := by
  rw [declarationDefault] at h
  split at h <;> cases h
  rfl

theorem names_declarationDefault (m : SynthesizedMember) :
    m.declarationDefault.toList.flatMap Expression.names = [] := by
  rw [List.flatMap_eq_nil_iff]
  intro e he
  rw [of_mem_declarationDefault (Option.mem_toList.1 he)]
  rfl

theorem inScope_declarationDefault {e : Expression} (h : e ∈ m.declarationDefault) :
    e.InScope stored bound := by
  rw [of_mem_declarationDefault h]
  trivial

theorem names_forwardingTarget (m : SynthesizedMember) :
    m.forwardingTarget.names = [m.storage] := by
  rw [forwardingTarget, storage]
  cases m.backingField <;> rfl

theorem inScope_forwardingTarget (h : m.storage ∈ stored) :
    m.forwardingTarget.InScope stored bound := by
  rw [storage] at h
  rw [forwardingTarget]
  cases hfield : m.backingField with
  | some field =>
    rw [hfield] at h
    exact Or.inr h
  | none =>
    rw [hfield] at h
    exact h

/-- The nodes for the properties of a member. -/
theorem mem_propertyNodes (h : node ∈ m.propertyNodes context) :
    m.backingField = none ∧ node = m.publicProperty context ∨
      ∃ o ∈ m.resolved.origins,
        node = explicitProperty context m.forwardingTarget (o, o.plan) := by
  -- With or without a field, the explicit implementations are made from the plans of origins.
  have hexplicit : ∀ plans ⊆ m.originPlans, node ∈ plans.map
      (explicitProperty context m.forwardingTarget) → ∃ o ∈ m.resolved.origins,
        node = explicitProperty context m.forwardingTarget (o, o.plan) := by
    intro plans hsub hnode
    obtain ⟨implemented, hmem, rfl⟩ := List.mem_map.1 hnode
    obtain ⟨o, ho, rfl⟩ := List.mem_map.1 (hsub hmem)
    exact ⟨o, ho, rfl⟩
  rw [propertyNodes] at h
  split at h
  next field hfield =>
    have htarget : m.forwardingTarget = .identifier field := by rw [forwardingTarget, hfield]
    rw [← htarget] at h
    exact Or.inr (hexplicit _ (List.Subset.refl _) h)
  next hfield =>
    have htarget : m.forwardingTarget = .thisMember m.name := by rw [forwardingTarget, hfield]
    rw [← htarget] at h
    rcases List.mem_cons.1 h with h | h
    · exact Or.inl ⟨hfield, h⟩
    · refine Or.inr (hexplicit _ ?_ h)
      rw [forwarded, hfield]
      exact List.filter_sublist.subset

/-- A member has a property, and all of them have its name: the public one, or an explicit one for
the first origin. -/
theorem name_mem_names (context : NullableContext)
    (h : ∀ o ∈ m.resolved.origins, o.member.name = m.name) :
    ∃ node ∈ m.propertyNodes context, m.name ∈ node.names := by
  cases hfield : m.backingField with
  | none =>
    refine ⟨m.publicProperty context, ?_, List.mem_cons_self⟩
    rw [propertyNodes, hfield]
    exact List.mem_cons_self
  | some field =>
    -- With a field every origin is implemented, and there is a first one.
    have hfirst : m.resolved.first ∈ m.resolved.origins := List.mem_cons_self
    refine ⟨explicitProperty context (.identifier field)
      (m.resolved.first, m.resolved.first.plan), ?_, ?_⟩
    · rw [propertyNodes, hfield]
      exact List.mem_map_of_mem (List.mem_map_of_mem hfirst)
    · rw [← h _ hfirst]
      exact List.mem_cons_self

/-- An explicit implementation for an origin uses the storage of the member. -/
theorem names_explicitProperty (m : SynthesizedMember) (o : MemberOrigin) :
    (explicitProperty context m.forwardingTarget (o, o.plan)).names ⊆
      [o.member.name, m.storage, "value"] := by
  intro name hname
  rw [explicitProperty, Node.names, List.mem_cons] at hname
  rcases hname with rfl | hname
  · exact List.mem_cons_self
  · refine List.mem_cons_of_mem _ ?_
    -- The accessors name the storage and the incoming value, and there is no initial value.
    rcases List.mem_append.1 hname with hname | hname
    · obtain ⟨a, ha, hname⟩ := List.mem_flatMap.1 hname
      rcases AccessorPlan.body_of_mem_forwardingAccessors ha with hbody | ⟨-, hbody⟩
      · simp [Accessor.names, hbody, names_forwardingTarget] at hname
        simp [hname]
      · simpa [Accessor.names, hbody, names_forwardingTarget, Expression.names] using hname
    · cases hname

theorem inScope_explicitProperty (h : m.storage ∈ stored) (o : MemberOrigin) :
    (explicitProperty context m.forwardingTarget (o, o.plan)).InScope stored := by
  refine ⟨fun a ha e he => ?_, fun e he => ?_⟩
  · rcases AccessorPlan.body_of_mem_forwardingAccessors ha with hbody | ⟨hbound, hbody⟩
    · rw [hbody] at he
      cases he
      exact inScope_forwardingTarget h
    · rw [hbody] at he
      cases he
      rw [hbound]
      exact ⟨inScope_forwardingTarget h, Or.inl List.mem_cons_self⟩
  · cases he

/-- A public property names itself only. -/
theorem names_publicProperty (m : SynthesizedMember) (context : NullableContext) :
    (m.publicProperty context).names = [m.name] := by
  have haccessors : m.plan.autoAccessors.flatMap Accessor.names = [] := by
    rw [List.flatMap_eq_nil_iff]
    intro a ha
    rw [Accessor.names, AccessorPlan.body_of_mem_autoAccessors ha]
    rfl
  rw [publicProperty, Node.names, haccessors, names_declarationDefault]
  rfl

theorem inScope_publicProperty (m : SynthesizedMember) (context : NullableContext) :
    (m.publicProperty context).InScope stored := by
  refine ⟨fun a ha e he => ?_, fun e => inScope_declarationDefault⟩
  rw [AccessorPlan.body_of_mem_autoAccessors ha] at he
  cases he

/-- The properties of a member use its name, its storage and the incoming value. -/
theorem names_subset_of_mem_propertyNodes
    (horigins : ∀ o ∈ m.resolved.origins, o.member.name = m.name)
    (h : node ∈ m.propertyNodes context) : node.names ⊆ [m.name, m.storage, "value"] := by
  rcases mem_propertyNodes h with ⟨-, rfl⟩ | ⟨o, ho, rfl⟩
  · rw [names_publicProperty]
    simp
  · rw [← horigins o ho]
    exact names_explicitProperty m o

theorem inScope_of_mem_propertyNodes (hstored : m.storage ∈ stored)
    (h : node ∈ m.propertyNodes context) : node.InScope stored := by
  rcases mem_propertyNodes h with ⟨-, rfl⟩ | ⟨o, -, rfl⟩
  · exact inScope_publicProperty m context
  · exact inScope_explicitProperty hstored o

/-- The field of a member is its storage. -/
theorem names_fieldNode (h : m.fieldNode? context = some node) : node.names = [m.storage] := by
  obtain ⟨field, hfield, rfl⟩ := Option.map_eq_some_iff.1 h
  rw [Node.names, names_declarationDefault, storage, hfield]
  rfl

theorem inScope_fieldNode (h : m.fieldNode? context = some node) : node.InScope stored := by
  obtain ⟨field, -, rfl⟩ := Option.map_eq_some_iff.1 h
  exact fun e => inScope_declarationDefault

end SynthesizedMember

/-! ## Constructors -/

namespace SynthesizedClass

variable {c : SynthesizedClass} {plan : ConstructorPlan} {m : SynthesizedMember}
  {parameters : List Parameter} {stored bound : List String} {className : String}

/-- What a constructor assigns is the storage of a member. -/
theorem names_assignmentTarget (m : SynthesizedMember) (parameters : List Parameter) :
    (assignmentTarget m parameters).names = [m.storage] := by
  rw [assignmentTarget, SynthesizedMember.storage]
  cases m.backingField with
  | some field => rfl
  | none =>
    dsimp only
    split <;> rfl

theorem inScope_assignmentTarget (h : m.storage ∈ stored) :
    (assignmentTarget m parameters).InScope stored bound := by
  rw [SynthesizedMember.storage] at h
  rw [assignmentTarget]
  cases hfield : m.backingField with
  | some field =>
    rw [hfield] at h
    exact h
  | none =>
    rw [hfield] at h
    dsimp only
    split
    · exact h
    · exact Or.inr h

/-- The body of a constructor holds an assignment for each of its slots. -/
theorem mem_statements {node : Node}
    (h : node ∈ plan.slots.filterMap (c.slotNode? parameters)) :
    ∃ slot ∈ plan.slots, ∃ m ∈ c.members,
      node = .statement (.assign (assignmentTarget m parameters) (slotValue m slot.source)) := by
  obtain ⟨slot, hslot, hnode⟩ := List.mem_filterMap.1 h
  obtain ⟨m, hm, rfl⟩ := Option.map_eq_some_iff.1 hnode
  exact ⟨slot, hslot, m, List.mem_of_getElem? hm, rfl⟩

/-- The names in a constructor are those of its parameters and the storage of members. -/
theorem of_mem_names_constructorNode {name : String}
    (h : name ∈ (c.constructorNode className plan).names) :
    (∃ p ∈ plan.parameters, p.2 = name) ∨ ∃ m ∈ c.members, m.storage = name := by
  rw [constructorNode, Node.names, Node.namesIn_eq_flatMap] at h
  rcases List.mem_append.1 h with h | h
  · obtain ⟨parameter, hparameter, rfl⟩ := List.mem_map.1 h
    obtain ⟨p, hp, hsome⟩ := List.mem_filterMap.1 hparameter
    obtain ⟨m, -, rfl⟩ := Option.map_eq_some_iff.1 hsome
    exact Or.inl ⟨p, hp, rfl⟩
  · obtain ⟨node, hnode, hname⟩ := List.mem_flatMap.1 h
    obtain ⟨⟨position, source⟩, hslot, m, hm, rfl⟩ := mem_statements hnode
    rw [Node.names, Expression.names, names_assignmentTarget, List.singleton_append,
      List.mem_cons] at hname
    rcases hname with rfl | hname
    · exact Or.inr ⟨m, hm, rfl⟩
    · -- Only a parameter is a value with a name.
      cases source with
      | parameter other =>
        obtain rfl := List.mem_singleton.1 hname
        exact Or.inl ⟨_, mem_parameters_iff.2 hslot, rfl⟩
      | emptyInstance => cases hname

/-- A constructor with a slot for each required member uses what it binds and what the class
stores. -/
theorem inScope_constructorNode (hslots : plan.slots.map (·.member) = c.requiredPositions)
    (hstored : ∀ m ∈ c.members, m.storage ∈ stored) :
    (c.constructorNode className plan).InScope stored := by
  intro e he
  obtain ⟨⟨position, source⟩, hslot, m, hm, heq⟩ := mem_statements he
  cases heq
  refine ⟨inScope_assignmentTarget (hstored m hm), ?_⟩
  cases source with
  | parameter name =>
    left
    rw [map_name_parameterNodes hslots]
    exact List.mem_map_of_mem (mem_parameters_iff.2 hslot)
  | emptyInstance => trivial

/-- The names in a class are those in its declarations. -/
theorem mem_names_classNode_iff {name : String} :
    name ∈ (c.classNode className).names ↔ ∃ node ∈ c.body className, name ∈ node.names := by
  rw [classNode, Node.names, Node.namesIn_eq_flatMap, List.mem_flatMap]
  rfl

/-- Backing fields are escaped. -/
theorem not_reserved_of_mem_backingFields {contract : Contract} {r : Resolution} {field : String}
    (h : field ∈ (ofResolution contract r className).backingFields) :
    field ∉ Identifier.reservedWords := by
  rw [backingFields_ofResolution] at h
  obtain ⟨name, -, rfl⟩ := List.mem_map.1 h
  exact Identifier.escape_not_mem name

end SynthesizedClass

/-! ## Reserved words -/

namespace ContractIndex

variable {index : ContractIndex} {id : ContractId} {className : String} {c : SynthesizedClass}

/-- A name in a class is that of the incoming value, of a member, of its storage or of a
parameter. -/
theorem eq_of_mem_names (h : index.synthesize id className = .ok c) {name : String}
    (hname : name ∈ (c.classNode className).names) :
    name = "value" ∨ (∃ m ∈ c.members, name = m.name ∨ name = m.storage) ∨
      ∃ plan ∈ c.constructors.toList, ∃ p ∈ plan.parameters, p.2 = name := by
  obtain ⟨node, hnode, hname⟩ := SynthesizedClass.mem_names_classNode_iff.1 hname
  rcases c.mem_body className hnode with rfl | ⟨m, hm, hfield⟩ | ⟨m, hm, hproperty⟩ |
    ⟨plan, hplan, rfl⟩
  · cases hname
  · rw [SynthesizedMember.names_fieldNode hfield, List.mem_singleton] at hname
    exact Or.inr (Or.inl ⟨m, hm, Or.inr hname⟩)
  · -- An explicit implementation has the name that its contract declares, which is the member's.
    have horigins : ∀ o ∈ m.resolved.origins, o.member.name = m.name :=
      fun o => (declared_of_synthesize h m hm).name_eq
    have hmem := SynthesizedMember.names_subset_of_mem_propertyNodes horigins hproperty hname
    simp only [List.mem_cons, List.not_mem_nil, or_false] at hmem
    rcases hmem with hmem | hmem | hmem
    · exact Or.inr (Or.inl ⟨m, hm, Or.inl hmem⟩)
    · exact Or.inr (Or.inl ⟨m, hm, Or.inr hmem⟩)
    · exact Or.inl hmem
  · rcases SynthesizedClass.of_mem_names_constructorNode hname with hparameter | ⟨m, hm, hmem⟩
    · exact Or.inr (Or.inr ⟨plan, hplan, hparameter⟩)
    · exact Or.inr (Or.inl ⟨m, hm, Or.inr hmem.symm⟩)

/-- The names of all members occur. -/
theorem name_mem_names (h : index.synthesize id className = .ok c) {m : SynthesizedMember}
    (hm : m ∈ c.members) : m.name ∈ (c.classNode className).names := by
  obtain ⟨node, hnode, hname⟩ := SynthesizedMember.name_mem_names c.context
    fun o => (declared_of_synthesize h m hm).name_eq
  exact SynthesizedClass.mem_names_classNode_iff.2
    ⟨node, c.propertyNodes_subset_body className hm hnode, hname⟩

/-- What a declaration uses is in scope. -/
theorem inScope_of_mem_body (h : index.synthesize id className = .ok c) {node : Node}
    (hnode : node ∈ c.body className) : node.InScope (Node.storageNames (c.body className)) := by
  have hstored : ∀ m ∈ c.members, m.storage ∈ Node.storageNames (c.body className) :=
    fun m hm => c.storage_mem_storageNames className hm
  rcases c.mem_body className hnode with rfl | ⟨m, -, hfield⟩ | ⟨m, hm, hproperty⟩ |
    ⟨plan, hplan, rfl⟩
  · trivial
  · exact SynthesizedMember.inScope_fieldNode hfield
  · exact SynthesizedMember.inScope_of_mem_propertyNodes (hstored m hm) hproperty
  · -- The parameters declared are those of the slots, as every slot is one of a member.
    refine SynthesizedClass.inScope_constructorNode ?_ hstored
    obtain ⟨contract, resolution, -, -, rfl⟩ := synthesize_eq_ok_iff.1 h
    exact SynthesizedClass.map_member_slots hplan

/-- The parameters of a declaration are those of a plan. -/
theorem exists_parameter_of_mem_parameters {node : Node} (hnode : node ∈ c.body className)
    {parameter : Parameter} (hparameter : parameter ∈ node.parameters) :
    ∃ plan ∈ c.constructors.toList, ∃ p ∈ plan.parameters, p.2 = parameter.name := by
  rcases c.mem_body className hnode with rfl | ⟨m, -, hfield⟩ | ⟨m, -, hproperty⟩ |
    ⟨plan, hplan, rfl⟩
  · cases hparameter
  · obtain ⟨field, -, rfl⟩ := Option.map_eq_some_iff.1 hfield
    cases hparameter
  · obtain ⟨_, _, _, _, _, _, rfl⟩ := m.exists_property_of_mem c.context hproperty
    cases hparameter
  · obtain ⟨p, hp, hsome⟩ := List.mem_filterMap.1 hparameter
    obtain ⟨m, -, rfl⟩ := Option.map_eq_some_iff.1 hsome
    exact ⟨plan, hplan, p, hp, rfl⟩

/-- A reserved word occurs in a synthesized class, as the name of a field, property or parameter
or in a body, exactly when it is the name of a member. No field and no parameter is named by one.
Whatever name a body uses is bound by the body or declared as a field or property of the class. -/
theorem reserved_word_occurs_iff (h : index.synthesize id className = .ok c) :
    (∀ word ∈ Identifier.reservedWords,
      word ∈ (c.classNode className).names ↔ ∃ m ∈ c.members, m.name = word) ∧
    (∀ f ∈ Node.fields (c.body className), f.name ∉ Identifier.reservedWords) ∧
    (∀ node ∈ c.body className, ∀ p ∈ node.parameters, p.name ∉ Identifier.reservedWords) ∧
    ∀ node ∈ c.body className, node.InScope (Node.storageNames (c.body className)) := by
  have hfields : ∀ field ∈ c.backingFields, field ∉ Identifier.reservedWords := by
    obtain ⟨contract, resolution, -, -, rfl⟩ := synthesize_eq_ok_iff.1 h
    exact fun field => SynthesizedClass.not_reserved_of_mem_backingFields
  have hparameters : ∀ plan ∈ c.constructors.toList, ∀ p ∈ plan.parameters,
      p.2 ∉ Identifier.reservedWords := by
    obtain ⟨contract, resolution, -, -, rfl⟩ := synthesize_eq_ok_iff.1 h
    exact fun plan hplan p => ConstructorPlans.not_reserved_of_mem_parameters hplan
  refine ⟨fun word hreserved => ⟨fun hmem => ?_, ?_⟩, ?_, ?_, fun node => inScope_of_mem_body h⟩
  · rcases eq_of_mem_names h hmem with rfl | ⟨m, hm, rfl | rfl⟩ | ⟨plan, hplan, p, hp, rfl⟩
    · exact absurd hreserved (by decide +kernel)
    · exact ⟨m, hm, rfl⟩
    · -- Storage that is named by a reserved word is no backing field.
      rcases m.storage_cases with hfield | ⟨-, hname⟩
      · exact absurd hreserved (hfields _ (List.mem_filterMap.2 ⟨m, hm, hfield⟩))
      · exact ⟨m, hm, hname.symm⟩
    · exact absurd hreserved (hparameters plan hplan p hp)
  · rintro ⟨m, hm, rfl⟩
    exact name_mem_names h hm
  · intro f hf
    rw [c.fields_body className] at hf
    obtain ⟨m, hm, hdeclared⟩ := List.mem_filterMap.1 hf
    obtain ⟨hfield, -, -⟩ := SynthesizedMember.of_fieldDeclaration? hdeclared
    exact hfields f.name (List.mem_filterMap.2 ⟨m, hm, hfield⟩)
  · intro node hnode parameter hparameter
    obtain ⟨plan, hplan, p, hp, hname⟩ := exists_parameter_of_mem_parameters hnode hparameter
    rw [← hname]
    exact hparameters plan hplan p hp

/-- Properties whose parameter and field would be named by reserved words. -/
def alarm : ContractIndex where
  entries := [
    { contract := { name := .global "IAlarm" },
      members := [
        { name := "Event", type := .value "int", accessors := ⟨true, false, false⟩ },
        { name := "Class", type := .value "int", accessors := ⟨true, true, false⟩ }] }]
  distinct := by decide

/-- No reserved word occurs in its class. -/
theorem reserved_word_occurs_iff_alarm :
    ∃ c, alarm.synthesize ⟨0⟩ "Class" = .ok c ∧
      c.members.map SynthesizedMember.name = ["Event", "Class"] ∧
      ∀ name ∈ (c.classNode "Class").names, name ∉ Identifier.reservedWords := by
  have hclosure : alarm.closure ⟨0⟩ = .ok [⟨0⟩] := by cbv
  have hresolve := resolve_eq_ok_iff.2 ⟨_, hclosure, by decide, rfl⟩
  obtain ⟨contract, hc⟩ := exists_synthesize hresolve "Class"
  obtain ⟨hoccurs, -⟩ := reserved_word_occurs_iff hc
  have hnames : (SynthesizedClass.ofResolution contract
      (.ofOrigins ⟨0⟩ ([⟨0⟩].flatMap alarm.eligibleOrigins)) "Class").members.map
        SynthesizedMember.name = ["Event", "Class"] := by
    rw [SynthesizedClass.map_name_ofResolution]
    decide
  have hfree : ∀ name ∈ ["Event", "Class"], name ∉ Identifier.reservedWords := by decide +kernel
  refine ⟨_, hc, hnames, fun name hname hreserved => ?_⟩
  obtain ⟨m, hm, rfl⟩ := (hoccurs name hreserved).1 hname
  refine hfree m.name ?_ hreserved
  rw [← hnames]
  exact List.mem_map_of_mem hm

/-- A property that is named by a reserved word. -/
def timer : ContractIndex where
  entries := [
    { contract := { name := .global "ITimer" },
      members := [
        { name := "event", type := .value "int", accessors := ⟨true, false, false⟩ }] }]
  distinct := by decide

/-- The reserved word is declared as a property and assigned by every constructor, whose parameter
is escaped. -/
theorem reserved_word_as_property :
    ∃ c m, timer.synthesize ⟨0⟩ "Class" = .ok c ∧ m ∈ c.members ∧
      "event" ∈ Identifier.reservedWords ∧ "event" ∈ (c.classNode "Class").names ∧
      (∃ p ∈ Node.propertiesIn (c.body "Class"), p.isPublic = true ∧ p.name = "event") ∧
      ∀ plan ∈ c.constructors.toList, (c.parameterNodes plan).map (·.name) = ["@event"] ∧
        SynthesizedClass.assignmentTarget m (c.parameterNodes plan) = .identifier "event" := by
  have hclosure : timer.closure ⟨0⟩ = .ok [⟨0⟩] := by cbv
  have hresolve := resolve_eq_ok_iff.2 ⟨_, hclosure, by decide, rfl⟩
  have hc : timer.synthesize ⟨0⟩ "Class" = .ok _ :=
    synthesize_eq_ok_iff.2 ⟨_, _, rfl, hresolve, rfl⟩
  exact ⟨_, _, hc, List.mem_cons_self, by decide +kernel, by decide +kernel, by decide +kernel,
    by decide +kernel⟩

end ContractIndex

end ClassSynthesis
