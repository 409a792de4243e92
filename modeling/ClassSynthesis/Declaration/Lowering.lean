import ClassSynthesis.Declaration.Layout
import ClassSynthesis.Declaration.Node
import ClassSynthesis.Synthesis.SynthesizedClass

/-!
# Declarations of a Synthesized Class

The file for one contract: a header comment, a nullable directive, and the contract's
interface reopened around a sealed class that implements it. Inside the class stand the
backing fields, the properties and the constructors, in that order.
-/

namespace ClassSynthesis

/-- The choices for a generated file. -/
structure RenderOptions extends Layout where
  /-- The name of the class nested in the interface. -/
  className : String := defaultClassName
  /-- Whether the file starts with the auto-generated comment. -/
  header : Bool := true
  deriving DecidableEq, Repr

/-- The accessor that writes in the given way. -/
def WriteAccess.accessorKind : WriteAccess → AccessorKind
  | set => .set
  | init => .init

namespace AccessorPlan

/-- The accessors of an ordinary property, implemented automatically. -/
def autoAccessors (plan : AccessorPlan) : List Accessor :=
  { kind := .get } :: plan.writeAccess?.toList.map fun access =>
    { kind := access.accessorKind }

/-- The accessors of an explicit implementation, which read and write the target. -/
def forwardingAccessors (plan : AccessorPlan) (target : Expression) : List Accessor :=
  { kind := .get, body := some target } :: plan.writeAccess?.toList.map fun access =>
    { kind := access.accessorKind, body := some (.assign target (.identifier "value")) }

end AccessorPlan

namespace SynthesizedMember

/-- The empty instance that the declaration starts out with, where it does. -/
def declarationDefault (m : SynthesizedMember) : Option Expression :=
  if m.plan.hasDeclarationDefault then some (.newInstance m.type.name) else none

/-- The backing field of the member. -/
def fieldNode? (m : SynthesizedMember) (context : NullableContext) : Option Node :=
  m.backingField.map fun field =>
    .field (if m.plan.exposesSetter then ["private"] else ["private", "readonly"])
      (m.type.display context) field m.declarationDefault

/-- The public property of the member. -/
def publicProperty (m : SynthesizedMember) (context : NullableContext) : Node :=
  .property ["public"] (m.type.display context) none m.name m.plan.autoAccessors
    m.declarationDefault

/-- The explicit implementation for one origin. -/
def explicitProperty (context : NullableContext) (target : Expression)
    (implemented : MemberOrigin × AccessorPlan) : Node :=
  .property [] (implemented.1.member.type.display context)
    (some implemented.1.contractName.qualified) implemented.1.member.name
    (implemented.2.forwardingAccessors target) none

/-- The properties of the member. With a backing field, every origin is implemented
explicitly over it; otherwise there is a public property, and explicit ones for the origins
whose write accessor it cannot implement. -/
def propertyNodes (m : SynthesizedMember) (context : NullableContext) : List Node :=
  match m.backingField with
  | some field => m.originPlans.map (explicitProperty context (.identifier field))
  | none =>
    m.publicProperty context ::
      m.forwarded.map (explicitProperty context (.thisMember m.name))

end SynthesizedMember

namespace SynthesizedClass

/-- The parameters of a constructor. -/
def parameterNodes (c : SynthesizedClass) (plan : ConstructorPlan) : List Parameter :=
  plan.parameters.filterMap fun (position, name) =>
    c.members[position]?.map fun m => ⟨m.type.display c.context, name⟩

/-- The place a constructor assigns: a backing field, and a property hidden by a parameter
of its name, are reached through the object. -/
def assignmentTarget (m : SynthesizedMember) (parameters : List Parameter) : Expression :=
  match m.backingField with
  | some field => .thisMember field
  | none =>
    if parameters.any (·.name == m.name) then .thisMember m.name else .identifier m.name

/-- The value that a slot gives a member. -/
def slotValue (m : SynthesizedMember) : SlotSource → Expression
  | .parameter name => .identifier name
  | .emptyInstance => .newInstance m.type.name

/-- The assignment that fills a slot. -/
def slotNode? (c : SynthesizedClass) (parameters : List Parameter) (slot : ConstructorSlot) :
    Option Node :=
  c.members[slot.member]?.map fun m =>
    .statement (.assign (assignmentTarget m parameters) (slotValue m slot.source))

/-- The declaration of a constructor. -/
def constructorNode (c : SynthesizedClass) (className : String) (plan : ConstructorPlan) :
    Node :=
  .constructor ["public"] className (c.parameterNodes plan)
    (plan.slots.filterMap (c.slotNode? (c.parameterNodes plan)))

/-- The fields and properties of the class. -/
def memberNodes (c : SynthesizedClass) : List Node :=
  c.members.filterMap (·.fieldNode? c.context) ++
    c.members.flatMap (·.propertyNodes c.context)

/-- The declarations followed by those of the constructors. An empty line stands before
each constructor that is not the first declaration. -/
def appendConstructors (c : SynthesizedClass) (className : String) (body : List Node) :
    List ConstructorPlan → List Node
  | [] => body
  | plan :: rest =>
    appendConstructors c className
      (body ++ (if body.isEmpty then [] else [.blank]) ++ [c.constructorNode className plan])
      rest

/-- The class that implements the contract. -/
def classNode (c : SynthesizedClass) (className : String) : Node :=
  .type ["public", "sealed"] "class" className [c.name.name]
    (c.appendConstructors className c.memberNodes c.constructors.toList)

/-- The declarations of the file for the contract. -/
def nodes (c : SynthesizedClass) (options : RenderOptions) : List Node :=
  let interface : Node :=
    .type ["public", "partial"] "interface" c.name.name [] [c.classNode options.className]
  (if options.header then [.comment "<auto-generated/>"] else []) ++
    (if c.context = .enabled then [.directive "nullable enable"] else []) ++
    [match c.name.scope with
      | some scope => .scope scope [interface]
      | none => interface]

end SynthesizedClass

end ClassSynthesis
