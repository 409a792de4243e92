import ClassSynthesis.Declaration.Lowering
import ClassSynthesis.Proofs.Synthesis.Origins

/-!
# The Properties of a Generated File

The property declarations in a tree, read off their nodes. In the file of a class they are
the properties of its members in order: fields, constructors and everything around the class
declare none (`properties_nodes`). A member has a public property when it has no backing
field, and an explicit implementation for each origin that the public property cannot stand
in for (`properties_propertyNodes`).
-/

namespace ClassSynthesis

/-- A declared property. -/
structure PropertyDeclaration where
  /-- The modifiers. -/
  modifiers : List String
  /-- The type as written. -/
  type : String
  /-- The contract implemented explicitly, if any. -/
  contract : Option String
  /-- The name. -/
  name : String
  /-- The accessors, in order. -/
  accessors : List Accessor
  /-- The initial value. -/
  value : Option Expression
  deriving DecidableEq, Repr

namespace PropertyDeclaration

/-- The property is public and implements no contract explicitly. -/
def isPublic (p : PropertyDeclaration) : Bool := p.modifiers == ["public"] && p.contract.isNone

/-- The property implements the contract of this qualified name explicitly. -/
def implementsContract (p : PropertyDeclaration) (qualified : String) : Bool :=
  p.contract == some qualified

/-- What the accessors do, in order. -/
def accessorKinds (p : PropertyDeclaration) : List AccessorKind := p.accessors.map (·.kind)

end PropertyDeclaration

namespace Node

mutual

/-- The property declarations in a node. -/
def properties : Node → List PropertyDeclaration
  | comment _ => []
  | directive _ => []
  | blank => []
  | scope _ body => propertiesIn body
  | type _ _ _ _ body => propertiesIn body
  | field _ _ _ _ => []
  | property modifiers declared contract name accessors value =>
    [⟨modifiers, declared, contract, name, accessors, value⟩]
  | constructor _ _ _ body => propertiesIn body
  | statement _ => []

/-- The property declarations in a sequence of nodes. -/
def propertiesIn : List Node → List PropertyDeclaration
  | [] => []
  | node :: rest => properties node ++ propertiesIn rest

end

theorem propertiesIn_eq_flatMap (nodes : List Node) :
    propertiesIn nodes = nodes.flatMap properties := by
  induction nodes with
  | nil => rw [propertiesIn, List.flatMap_nil]
  | cons node rest ih => rw [propertiesIn, List.flatMap_cons, ih]

@[simp]
theorem propertiesIn_append (first second : List Node) :
    propertiesIn (first ++ second) = propertiesIn first ++ propertiesIn second := by
  simp only [propertiesIn_eq_flatMap, List.flatMap_append]

/-- Nodes without properties have none together. -/
theorem propertiesIn_eq_nil {nodes : List Node} (h : ∀ node ∈ nodes, node.properties = []) :
    propertiesIn nodes = [] := by
  rw [propertiesIn_eq_flatMap, List.flatMap_eq_nil_iff]
  exact h

end Node

/-- The accessors that a property with this plan offers: it is read, and written in the
plan's way if there is one. -/
def AccessorPlan.accessorKinds (plan : AccessorPlan) : List AccessorKind :=
  .get :: plan.writeAccess?.toList.map WriteAccess.accessorKind

namespace SynthesizedMember

/-- The public property of a member, as declared. -/
def publicDeclaration (m : SynthesizedMember) (context : NullableContext) :
    PropertyDeclaration :=
  ⟨["public"], m.type.display context, none, m.name, m.plan.autoAccessors,
    m.declarationDefault⟩

/-- The explicit implementation for an origin, as declared. -/
def explicitDeclaration (context : NullableContext) (target : Expression) (o : MemberOrigin) :
    PropertyDeclaration :=
  ⟨[], o.member.type.display context, some o.contractName.qualified, o.member.name,
    o.plan.forwardingAccessors target, none⟩

/-- The explicit implementations read and write the backing field, or else the property. -/
def forwardingTarget (m : SynthesizedMember) : Expression :=
  match m.backingField with
  | some field => .identifier field
  | none => .thisMember m.name

/-- Whether an origin is implemented explicitly: always with a backing field, and otherwise
when it declares a write accessor other than that of the public property. -/
def isExplicit (m : SynthesizedMember) (o : MemberOrigin) : Bool :=
  m.backingField.isSome ||
    o.plan.writeAccess?.isSome && o.plan.writeAccess? != m.plan.writeAccess?

@[simp]
theorem accessorKinds_publicDeclaration (m : SynthesizedMember) (context : NullableContext) :
    (m.publicDeclaration context).accessorKinds = m.plan.accessorKinds := by
  simp [PropertyDeclaration.accessorKinds, publicDeclaration, AccessorPlan.autoAccessors,
    AccessorPlan.accessorKinds]

@[simp]
theorem accessorKinds_explicitDeclaration (context : NullableContext) (target : Expression)
    (o : MemberOrigin) :
    (explicitDeclaration context target o).accessorKinds = o.plan.accessorKinds := by
  simp [PropertyDeclaration.accessorKinds, explicitDeclaration,
    AccessorPlan.forwardingAccessors, AccessorPlan.accessorKinds]

/-- Explicit implementations for origins, as their nodes declare them. -/
private theorem propertiesIn_explicitProperty (context : NullableContext)
    (target : Expression) (origins : List MemberOrigin) :
    Node.propertiesIn ((origins.map fun o => (o, o.plan)).map
      (explicitProperty context target)) =
      origins.map (explicitDeclaration context target) := by
  rw [Node.propertiesIn_eq_flatMap, List.map_map, List.flatMap_map]
  exact List.map_eq_flatMap.symm

/-- The properties of a member: its public property unless it has a backing field, and the
explicit implementations of the origins that need one. -/
theorem properties_propertyNodes (m : SynthesizedMember) (context : NullableContext) :
    Node.propertiesIn (m.propertyNodes context) =
      (if m.backingField.isNone then [m.publicDeclaration context] else []) ++
        (m.resolved.origins.filter m.isExplicit).map
          (explicitDeclaration context m.forwardingTarget) := by
  cases hfield : m.backingField with
  | some field =>
    -- Every origin is implemented explicitly over the field.
    have hall : m.resolved.origins.filter m.isExplicit = m.resolved.origins := by
      refine List.filter_eq_self.2 fun o _ => ?_
      rw [isExplicit, hfield]
      rfl
    rw [hall, propertyNodes, hfield, forwardingTarget, hfield]
    exact propertiesIn_explicitProperty context _ _
  | none =>
    -- The explicit ones are those that are forwarded to the public property.
    have hforwarded : m.forwarded =
        (m.resolved.origins.filter m.isExplicit).map fun o => (o, o.plan) := by
      have hsame : m.resolved.origins.filter m.isExplicit = m.resolved.origins.filter fun o =>
          o.plan.writeAccess?.isSome && o.plan.writeAccess? != m.plan.writeAccess? := by
        refine List.filter_congr fun o _ => ?_
        rw [isExplicit, hfield]
        rfl
      rw [hsame, forwarded, hfield, originPlans, List.filter_map]
      rfl
    rw [propertyNodes, hfield, forwardingTarget, hfield]
    dsimp only
    rw [Node.propertiesIn, hforwarded, propertiesIn_explicitProperty]
    rfl

end SynthesizedMember

namespace SynthesizedClass

variable (c : SynthesizedClass)

theorem properties_constructorNode (className : String) (plan : ConstructorPlan) :
    (c.constructorNode className plan).properties = [] := by
  rw [constructorNode, Node.properties]
  -- The body of a constructor holds statements only.
  refine Node.propertiesIn_eq_nil fun node hnode => ?_
  obtain ⟨slot, -, hslot⟩ := List.mem_filterMap.1 hnode
  obtain ⟨m, -, rfl⟩ := Option.map_eq_some_iff.1 hslot
  rfl

/-- Declaring constructors adds no property. -/
theorem propertiesIn_appendConstructors (className : String) (body : List Node)
    (plans : List ConstructorPlan) :
    Node.propertiesIn (c.appendConstructors className body plans) =
      Node.propertiesIn body := by
  induction plans generalizing body with
  | nil => rfl
  | cons plan rest ih =>
    have hblank : Node.propertiesIn (if body.isEmpty then [] else [.blank]) = [] := by
      split <;> rfl
    have hconstructor : Node.propertiesIn [c.constructorNode className plan] = [] := by
      rw [Node.propertiesIn, c.properties_constructorNode]
      rfl
    rw [appendConstructors, ih, Node.propertiesIn_append, Node.propertiesIn_append, hblank,
      hconstructor, List.append_nil, List.append_nil]

theorem propertiesIn_memberNodes :
    Node.propertiesIn c.memberNodes =
      c.members.flatMap fun m => Node.propertiesIn (m.propertyNodes c.context) := by
  have hfields : Node.propertiesIn (c.members.filterMap (·.fieldNode? c.context)) = [] := by
    refine Node.propertiesIn_eq_nil fun node hnode => ?_
    obtain ⟨m, -, hm⟩ := List.mem_filterMap.1 hnode
    obtain ⟨field, -, rfl⟩ := Option.map_eq_some_iff.1 hm
    rfl
  rw [memberNodes, Node.propertiesIn_append, hfields, List.nil_append,
    Node.propertiesIn_eq_flatMap, List.flatMap_assoc]
  simp only [Node.propertiesIn_eq_flatMap]

/-- The properties of a file are those of the members of its class, in order. -/
theorem properties_nodes (options : RenderOptions) :
    Node.propertiesIn (c.nodes options) =
      c.members.flatMap fun m => Node.propertiesIn (m.propertyNodes c.context) := by
  have hclass : (c.classNode options.className).properties =
      c.members.flatMap fun m => Node.propertiesIn (m.propertyNodes c.context) := by
    rw [classNode, Node.properties, propertiesIn_appendConstructors, propertiesIn_memberNodes]
  have hheader : Node.propertiesIn
      (if options.header then [.comment "<auto-generated/>"] else []) = [] := by
    split <;> rfl
  have hdirective : Node.propertiesIn
      (if c.context = .enabled then [.directive "nullable enable"] else []) = [] := by
    split <;> rfl
  rw [nodes, Node.propertiesIn_append, Node.propertiesIn_append, hheader, hdirective,
    List.nil_append, List.nil_append, ← hclass]
  cases c.name.scope with
  | none => simp [Node.propertiesIn, Node.properties]
  | some scope => simp [Node.propertiesIn, Node.properties]

end SynthesizedClass

end ClassSynthesis
