import ClassSynthesis.Declaration.Lowering
import Mathlib.Data.List.Basic

/-!
# The Body of a Class

The declarations in a synthesized class, read off the body of its node: the fields and
properties that keep a value, which are the storage of its members (`storageNames_body`), and
its constructors, which are those planned (`constructors_body`).
-/

namespace ClassSynthesis

namespace Node

/-- The name under which a declaration keeps a value: that of a field, or of a property that
implements no contract explicitly. -/
def storageName? : Node → Option String
  | field _ _ name _ => some name
  | property _ _ none name _ _ => some name
  | _ => none

/-- The fields and properties that a body declares, in order. -/
def storageNames (body : List Node) : List String := body.filterMap storageName?

/-- The declarations in a type; none in any other node. -/
def declarations : Node → List Node
  | type _ _ _ _ body => body
  | _ => []

/-- Whether a declaration is a constructor. -/
def isConstructor : Node → Bool
  | constructor _ _ _ _ => true
  | _ => false

@[simp]
theorem storageNames_append (first second : List Node) :
    storageNames (first ++ second) = storageNames first ++ storageNames second :=
  List.filterMap_append

end Node

namespace SynthesizedMember

variable (m : SynthesizedMember) (context : NullableContext)

/-- The nodes for the properties of a member are property nodes. -/
theorem exists_property_of_mem {node : Node} (h : node ∈ m.propertyNodes context) :
    ∃ modifiers type contract name accessors value,
      node = .property modifiers type contract name accessors value := by
  rw [propertyNodes] at h
  split at h
  · obtain ⟨implemented, -, rfl⟩ := List.mem_map.1 h
    exact ⟨_, _, _, _, _, _, rfl⟩
  · rcases List.mem_cons.1 h with rfl | h
    · exact ⟨_, _, _, _, _, _, rfl⟩
    · obtain ⟨implemented, -, rfl⟩ := List.mem_map.1 h
      exact ⟨_, _, _, _, _, _, rfl⟩

/-- Explicit implementations keep no value of their own. -/
private theorem storageNames_explicitProperties (target : Expression)
    (implemented : List (MemberOrigin × AccessorPlan)) :
    Node.storageNames (implemented.map (explicitProperty context target)) = [] := by
  refine List.filterMap_eq_nil_iff.2 fun node hnode => ?_
  obtain ⟨_, -, rfl⟩ := List.mem_map.1 hnode
  rfl

/-- A member without a backing field keeps its value in its public property. -/
theorem storageNames_propertyNodes :
    Node.storageNames (m.propertyNodes context) =
      if m.backingField.isNone then [m.name] else [] := by
  rw [propertyNodes]
  cases m.backingField with
  | some field => exact storageNames_explicitProperties context _ _
  | none =>
    dsimp only
    rw [← List.singleton_append, Node.storageNames_append, storageNames_explicitProperties]
    rfl

end SynthesizedMember

namespace SynthesizedClass

variable (c : SynthesizedClass) (className : String)

/-- The declarations in the class. -/
def body : List Node := (c.classNode className).declarations

/-- The class declares its fields and properties, and then its constructors. -/
theorem body_eq :
    c.body className = c.appendConstructors className c.memberNodes c.constructors.toList := rfl

/-- Declaring constructors adds nothing that is neither an empty line nor a constructor. -/
theorem filterMap_appendConstructors {α : Type} {f : Node → Option α} (hblank : f .blank = none)
    (hconstructor : ∀ plan, f (c.constructorNode className plan) = none) (body : List Node)
    (plans : List ConstructorPlan) :
    (c.appendConstructors className body plans).filterMap f = body.filterMap f := by
  induction plans generalizing body with
  | nil => rfl
  | cons plan rest ih =>
    rw [appendConstructors, ih]
    split <;> simp [hblank, hconstructor plan]

/-- What is declared once constructors are is what was declared before, an empty line or one of
the constructors. -/
theorem mem_appendConstructors {node : Node} {body : List Node} {plans : List ConstructorPlan}
    (h : node ∈ c.appendConstructors className body plans) :
    node ∈ body ∨ node = .blank ∨ ∃ plan ∈ plans, node = c.constructorNode className plan := by
  induction plans generalizing body with
  | nil => exact Or.inl h
  | cons plan rest ih =>
    rcases ih h with h | h | ⟨other, hother, h⟩
    · rcases List.mem_append.1 h with h | h
      · rcases List.mem_append.1 h with h | h
        · exact Or.inl h
        · -- The empty line in front of the constructor.
          split at h
          · cases h
          · exact Or.inr (Or.inl (List.mem_singleton.1 h))
      · exact Or.inr (Or.inr ⟨plan, List.mem_cons_self, List.mem_singleton.1 h⟩)
    · exact Or.inr (Or.inl h)
    · exact Or.inr (Or.inr ⟨other, List.mem_cons_of_mem plan hother, h⟩)

/-- Declaring constructors keeps what was declared before. -/
theorem subset_appendConstructors (body : List Node) (plans : List ConstructorPlan) :
    body ⊆ c.appendConstructors className body plans := by
  induction plans generalizing body with
  | nil => exact List.Subset.refl body
  | cons plan rest ih =>
    intro node hnode
    exact ih _ (List.mem_append_left _ (List.mem_append_left _ hnode))

/-- The constructors are declared in the order given. -/
private theorem filter_isConstructor_appendConstructors (body : List Node)
    (plans : List ConstructorPlan) :
    (c.appendConstructors className body plans).filter Node.isConstructor =
      body.filter Node.isConstructor ++ plans.map (c.constructorNode className) := by
  induction plans generalizing body with
  | nil => simp [appendConstructors]
  | cons plan rest ih =>
    have hconstructor : (c.constructorNode className plan).isConstructor = true := rfl
    have hblank : Node.isConstructor .blank = false := rfl
    rw [appendConstructors, ih]
    split <;> simp [hconstructor, hblank]

/-- A class declares the fields and the properties of its members and its constructors, with empty
lines between them. -/
theorem mem_body {node : Node} (h : node ∈ c.body className) :
    node = .blank ∨ (∃ m ∈ c.members, m.fieldNode? c.context = some node) ∨
      (∃ m ∈ c.members, node ∈ m.propertyNodes c.context) ∨
        ∃ plan ∈ c.constructors.toList, node = c.constructorNode className plan := by
  rw [body_eq] at h
  rcases c.mem_appendConstructors className h with h | h | h
  · rcases List.mem_append.1 h with h | h
    · exact Or.inr (Or.inl (List.mem_filterMap.1 h))
    · exact Or.inr (Or.inr (Or.inl (List.mem_flatMap.1 h)))
  · exact Or.inl h
  · exact Or.inr (Or.inr (Or.inr h))

/-- The properties of every member are declared. -/
theorem propertyNodes_subset_body {m : SynthesizedMember} (hm : m ∈ c.members) :
    m.propertyNodes c.context ⊆ c.body className := by
  intro node hnode
  rw [body_eq]
  refine c.subset_appendConstructors className _ _ (List.mem_append_right _ ?_)
  exact List.mem_flatMap.2 ⟨m, hm, hnode⟩

/-- The constructors in the class are those planned, in order. -/
theorem constructors_body :
    (c.body className).filter Node.isConstructor =
      c.constructors.toList.map (c.constructorNode className) := by
  have hmembers : c.memberNodes.filter Node.isConstructor = [] := by
    refine List.filter_eq_nil_iff.2 fun node hnode => ?_
    rcases List.mem_append.1 hnode with hnode | hnode
    · obtain ⟨m, -, hm⟩ := List.mem_filterMap.1 hnode
      obtain ⟨field, -, rfl⟩ := Option.map_eq_some_iff.1 hm
      exact Bool.false_ne_true
    · obtain ⟨m, -, hm⟩ := List.mem_flatMap.1 hnode
      obtain ⟨_, _, _, _, _, _, rfl⟩ := m.exists_property_of_mem c.context hm
      exact Bool.false_ne_true
  rw [body_eq, filter_isConstructor_appendConstructors, hmembers, List.nil_append]

/-- The fields and properties that keep a value are the storage of the members, those with
a backing field first. -/
theorem storageNames_body :
    Node.storageNames (c.body className) =
      c.members.filterMap (·.backingField) ++
        (c.members.filter (·.backingField.isNone)).map (·.name) := by
  have hfields : Node.storageNames (c.members.filterMap (·.fieldNode? c.context)) =
      c.members.filterMap (·.backingField) := by
    rw [Node.storageNames, List.filterMap_filterMap]
    refine List.filterMap_congr fun m _ => ?_
    rw [SynthesizedMember.fieldNode?]
    cases m.backingField <;> rfl
  have hproperties : Node.storageNames (c.members.flatMap (·.propertyNodes c.context)) =
      (c.members.filter (·.backingField.isNone)).map (·.name) := by
    induction c.members with
    | nil => rfl
    | cons m rest ih =>
      rw [List.flatMap_cons, Node.storageNames_append, ih,
        SynthesizedMember.storageNames_propertyNodes, List.filter_cons]
      split <;> rfl
  have hbody : Node.storageNames (c.body className) = Node.storageNames c.memberNodes :=
    c.filterMap_appendConstructors className rfl (fun _ => rfl) _ _
  rw [hbody, memberNodes, Node.storageNames_append, hfields, hproperties]

/-- A class keeps one value for each member. -/
theorem storageNames_body_perm :
    (Node.storageNames (c.body className)).Perm (c.members.map (·.storage)) := by
  rw [storageNames_body]
  induction c.members with
  | nil => exact List.Perm.refl _
  | cons m rest ih =>
    rw [List.map_cons, SynthesizedMember.storage]
    cases hfield : m.backingField with
    | some field => simpa [hfield] using ih
    | none =>
      have hmiddle : (rest.filterMap (·.backingField) ++
            m.name :: (rest.filter (·.backingField.isNone)).map (·.name)).Perm
          (m.name :: (rest.filterMap (·.backingField) ++
            (rest.filter (·.backingField.isNone)).map (·.name))) := List.perm_middle
      simpa [hfield] using hmiddle.trans (ih.cons m.name)

theorem storage_mem_storageNames {m : SynthesizedMember} (h : m ∈ c.members) :
    m.storage ∈ Node.storageNames (c.body className) :=
  (c.storageNames_body_perm className).mem_iff.2 (List.mem_map_of_mem h)

/-! ## A class with a hidden and a stored member -/

/-- A property spelled like its parameter, which three contracts declare with different
accessors; one spelled like the class; and an ordinary one. -/
def shadowingOrigins : List MemberOrigin := [
  { contract := ⟨0⟩, contractName := .global "ILower", context := .enabled,
    member := { name := "name", type := .reference "string",
                accessors := ⟨true, false, false⟩ } },
  { contract := ⟨0⟩, contractName := .global "ILower", context := .enabled,
    member := { name := "Class", type := .collection "List<string>",
                accessors := ⟨true, false, false⟩ } },
  { contract := ⟨0⟩, contractName := .global "ILower", context := .enabled,
    member := { name := "Size", type := .value "int", accessors := ⟨true, true, false⟩ } },
  { contract := ⟨1⟩, contractName := .global "ISettable", context := .enabled,
    member := { name := "name", type := .reference "string",
                accessors := ⟨true, true, false⟩ } },
  { contract := ⟨2⟩, contractName := .global "IInitial", context := .enabled,
    member := { name := "name", type := .reference "string",
                accessors := ⟨true, false, true⟩ } }]

/-- The class `Class` for these declarations. -/
def shadowing : SynthesizedClass :=
  .ofResolution { name := .global "ILower", context := .enabled }
    (.ofOrigins ⟨0⟩ shadowingOrigins) "Class"

theorem members_shadowing :
    shadowing.members =
      (merge shadowingOrigins).map fun m =>
        ⟨{ m with isQualified := false }, if m.name = "Class" then some "@class" else none⟩ := by
  have hresolved : (Resolution.ofOrigins ⟨0⟩ shadowingOrigins).members =
      (merge shadowingOrigins).map fun m => { m with isQualified := false } := by decide
  have hscope : fieldScope ((merge shadowingOrigins).map fun m =>
      { m with isQualified := false }) "Class" = ⟨["Size", "name", "Class", "value"]⟩ := rfl
  have hfield : NameScope.pick ⟨["Size", "name", "Class", "value"]⟩ "class" = "class" := by
    decide
  have hlower : Identifier.lowerCamel "Class" = "class" := by decide
  have hescape : Identifier.escape "class" = "@class" := by cbv
  rw [shadowing, ofResolution]
  dsimp only
  rw [hresolved, hscope]
  simp [merge, shadowingOrigins, addOrigin, assignFields, ResolvedMember.needsField,
    MergedMember.name, MergedMember.ofOrigin, MergedMember.key, MergedMember.absorb,
    Member.key, NameScope.allocate, hlower, hfield, hescape]

end SynthesizedClass

end ClassSynthesis
