import ClassSynthesis.Proofs.Declaration.Body
import ClassSynthesis.Proofs.Declaration.Execution
import ClassSynthesis.Proofs.Declaration.Implementation
import ClassSynthesis.Proofs.Synthesis.FreshName

/-!
# Reading and Writing Members

All properties of a member, the public one and the explicit ones, read and write one place,
the storage of the member (`PropertyDeclaration.Reaches`). The accessors of an explicit
implementation name a backing field by its bare name; no field is called `value`, so that
name is not taken for the incoming value. Different members have different storage, and so
what is written through one contract is read through every other one that declares the
member, and is seen by no other member (`accessors_share_storage`).
-/

namespace ClassSynthesis

/-! ## The meaning of accessors -/

/-- The expression that an accessor evaluates. One that is implemented automatically reads or
writes the property itself. -/
def Accessor.expression (own : String) (a : Accessor) : Expression :=
  a.body.getD <| match a.kind with
    | .get => .thisMember own
    | .set => .assign (.thisMember own) (.identifier "value")
    | .init => .assign (.thisMember own) (.identifier "value")

/-- The frame in which the body of an accessor starts. -/
def Frame.access {α : Type} (bound : List (String × Value α)) (stored : String → Value α) :
    Frame α where
  bound
  stored
  created := 0
  writes := []

@[simp] theorem Frame.stored_access {α : Type} (bound : List (String × Value α))
    (stored : String → Value α) : (Frame.access bound stored).stored = stored := rfl

namespace PropertyDeclaration

variable {α : Type} (p : PropertyDeclaration)

/-- What reading the property evaluates. -/
def readExpression? : Option Expression :=
  (p.accessors.find? (·.kind == .get)).map (·.expression p.name)

/-- What writing the property evaluates, at any time or during initialization. -/
def writeExpression? : Option Expression :=
  (p.accessors.find? (·.kind != .get)).map (·.expression p.name)

/-- Whether the property can be written. -/
def isWritable : Bool := p.writeExpression?.isSome

/-- Read the property of an object. The body of the accessor binds no name. -/
def read (names : List String) (stored : String → Value α) : Option (Value α × Frame α) :=
  p.readExpression?.bind fun e => e.eval names (.access [] stored)

/-- Write the property of an object. The body of the accessor binds `value` to the incoming
value. -/
def write (names : List String) (v : Value α) (stored : String → Value α) :
    Option (Frame α) :=
  p.writeExpression?.bind fun e =>
    (e.eval names (.access [("value", v)] stored)).map Prod.snd

/-- The value found by reading the property. -/
def value? (names : List String) (stored : String → Value α) : Option (Value α) :=
  (p.read names stored).map Prod.fst

/-- Reading the property reads the place `storage` and changes nothing; writing it assigns
that place and no other. -/
structure Reaches (names : List String) (storage : String) : Prop where
  read : ∀ {α : Type} (stored : String → Value α),
    p.read names stored = some (stored storage, .access [] stored)
  write : ∀ {α : Type} (v : Value α) (stored : String → Value α),
    p.write names v stored =
      if p.isWritable then some ((Frame.access [("value", v)] stored).write (.stored storage) v)
      else none

variable {p} {names : List String} {storage : String}

/-- A property reaches the place that its accessors name, whether or not they bind the
incoming value. -/
theorem reaches_of_place? {target : Expression} {write : Option WriteAccess}
    (hread : p.readExpression? = some target)
    (hwrite : p.writeExpression? = write.map fun _ => .assign target (.identifier "value"))
    (hplace : ∀ bound ⊆ ["value"], target.place? names bound = some (.stored storage)) :
    p.Reaches names storage := by
  constructor
  · intro α stored
    let f : Frame α := .access [] stored
    have heval : target.eval names f = some (stored storage, f) :=
      Expression.eval_of_place?_stored (hplace [] (by simp))
    simp [PropertyDeclaration.read, hread, f, heval]
  · intro α v stored
    let f : Frame α := .access [("value", v)] stored
    have hvalue : (Expression.identifier "value").eval names f = some (v, f) :=
      Expression.eval_identifier_of_bound (by simp [f, Frame.access])
    have htarget : target.place? names f.boundNames = some (.stored storage) :=
      hplace ["value"] (by simp)
    cases write with
    | none => simp [PropertyDeclaration.write, isWritable, hwrite]
    | some access =>
      simp [PropertyDeclaration.write, isWritable, hwrite, f,
        Expression.eval_assign hvalue htarget]

namespace Reaches

variable {α : Type} {other : String} {q : PropertyDeclaration} {v : Value α}
  {stored : String → Value α} {f : Frame α}

theorem value?_eq (h : p.Reaches names storage) : p.value? names stored = some (stored storage) := by
  simp [value?, h.read]

/-- What is written is found by reading every property that reaches the same place. -/
theorem value?_of_write (hp : p.Reaches names storage) (hq : q.Reaches names storage)
    (hf : p.write names v stored = some f) : q.value? names f.stored = some v := by
  rw [hp.write] at hf
  split at hf
  · cases hf
    simp [hq.value?_eq]
  · cases hf

/-- Writing is not noticed by reading a property that reaches another place. -/
theorem value?_of_write_of_ne (hp : p.Reaches names storage) (hq : q.Reaches names other)
    (hne : other ≠ storage) (hf : p.write names v stored = some f) :
    q.value? names f.stored = q.value? names stored := by
  rw [hp.write] at hf
  split at hf
  · cases hf
    simp [hq.value?_eq, hne]
  · cases hf

end Reaches

end PropertyDeclaration

namespace SynthesizedMember

variable (m : SynthesizedMember) (context : NullableContext)

theorem readExpression?_publicDeclaration :
    (m.publicDeclaration context).readExpression? = some (.thisMember m.name) := rfl

theorem writeExpression?_publicDeclaration :
    (m.publicDeclaration context).writeExpression? =
      m.plan.writeAccess?.map fun _ =>
        .assign (.thisMember m.name) (.identifier "value") := by
  have haccessors : (m.publicDeclaration context).accessors = m.plan.autoAccessors := rfl
  rw [PropertyDeclaration.writeExpression?, haccessors, AccessorPlan.autoAccessors]
  cases m.plan.writeAccess? with
  | none => rfl
  | some access => cases access <;> rfl

theorem readExpression?_explicitDeclaration (target : Expression) (o : MemberOrigin) :
    (explicitDeclaration context target o).readExpression? = some target := rfl

theorem writeExpression?_explicitDeclaration (target : Expression) (o : MemberOrigin) :
    (explicitDeclaration context target o).writeExpression? =
      o.plan.writeAccess?.map fun _ => .assign target (.identifier "value") := by
  have haccessors : (explicitDeclaration context target o).accessors =
      o.plan.forwardingAccessors target := rfl
  rw [PropertyDeclaration.writeExpression?, haccessors, AccessorPlan.forwardingAccessors]
  cases o.plan.writeAccess? with
  | none => rfl
  | some access => cases access <;> rfl

/-! ## One member -/

/-- A property of the member implements it for an origin: explicitly for the contract, or as
the public property when none does so explicitly. -/
def Implements (o : MemberOrigin) (p : PropertyDeclaration) : Prop :=
  p ∈ Node.propertiesIn (m.propertyNodes context) ∧
    (p.implementsContract o.contractName.qualified = true ∨
      p.isPublic = true ∧ ∀ q ∈ Node.propertiesIn (m.propertyNodes context),
        q.implementsContract o.contractName.qualified = false)

variable {m context} {names : List String} {p : PropertyDeclaration} {o : MemberOrigin}

/-- Explicit implementations name the storage of the member, in getters and setters alike. -/
theorem place?_forwardingTarget (hfield : m.backingField ≠ some "value")
    (hnames : m.storage ∈ names) {bound : List String} (hbound : bound ⊆ ["value"]) :
    m.forwardingTarget.place? names bound = some (.stored m.storage) := by
  rw [storage] at hnames ⊢
  rw [forwardingTarget]
  cases hsome : m.backingField with
  | none =>
    rw [hsome] at hnames
    exact Expression.place?_thisMember hnames
  | some field =>
    rw [hsome] at hnames
    -- A field called `value` would be hidden by the incoming value.
    have hfree : field ∉ bound := by
      intro hmem
      apply hfield
      rw [hsome, List.mem_singleton.1 (hbound hmem)]
    exact Expression.place?_identifier_of_not_mem hfree hnames

/-- All properties of a member reach its storage. -/
theorem reaches_storage (hfield : m.backingField ≠ some "value") (hnames : m.storage ∈ names)
    (hp : p ∈ Node.propertiesIn (m.propertyNodes context)) : p.Reaches names m.storage := by
  rcases public_or_explicit hp with ⟨hnone, rfl⟩ | ⟨o, -, -, rfl⟩
  · -- Implemented automatically, the public property reads and writes itself.
    have htarget : m.forwardingTarget = .thisMember m.name := by simp [forwardingTarget, hnone]
    refine PropertyDeclaration.reaches_of_place? (m.readExpression?_publicDeclaration context)
      (m.writeExpression?_publicDeclaration context) fun bound hbound => ?_
    rw [← htarget]
    exact place?_forwardingTarget hfield hnames hbound
  · exact PropertyDeclaration.reaches_of_place? (readExpression?_explicitDeclaration ..)
      (writeExpression?_explicitDeclaration ..) fun bound hbound =>
        place?_forwardingTarget hfield hnames hbound

theorem isWritable_publicDeclaration :
    (m.publicDeclaration context).isWritable = m.plan.writeAccess?.isSome := by
  rw [PropertyDeclaration.isWritable, writeExpression?_publicDeclaration, Option.isSome_map]

theorem isWritable_explicitDeclaration {target : Expression} :
    (explicitDeclaration context target o).isWritable = o.plan.writeAccess?.isSome := by
  rw [PropertyDeclaration.isWritable, writeExpression?_explicitDeclaration, Option.isSome_map]

theorem publicDeclaration_mem (hnone : m.backingField = none) :
    m.publicDeclaration context ∈ Node.propertiesIn (m.propertyNodes context) := by
  simp [properties_propertyNodes, hnone]

theorem explicitDeclaration_mem (ho : o ∈ m.resolved.origins)
    (hexplicit : m.isExplicit o = true) :
    explicitDeclaration context m.forwardingTarget o ∈
      Node.propertiesIn (m.propertyNodes context) := by
  rw [properties_propertyNodes]
  exact List.mem_append_right _ (List.mem_map_of_mem (List.mem_filter.2 ⟨ho, hexplicit⟩))

/-- Next to a public property, an explicit one is there because it is written differently. -/
theorem isWritable_of_implementsContract (hnone : m.backingField = none)
    (hp : p ∈ Node.propertiesIn (m.propertyNodes context)) {qualified : String}
    (hcontract : p.implementsContract qualified = true) : p.isWritable = true := by
  rcases public_or_explicit hp with ⟨-, rfl⟩ | ⟨o, -, hexplicit, rfl⟩
  · simp [PropertyDeclaration.implementsContract, publicDeclaration] at hcontract
  · have hwrite : (o.plan.writeAccess?.isSome &&
        o.plan.writeAccess? != m.plan.writeAccess?) = true := by
      simpa [isExplicit, hnone] using hexplicit
    rw [isWritable_explicitDeclaration]
    exact (Bool.and_eq_true_iff.1 hwrite).1

/-- Each origin is implemented by some property, and one that declares a write accessor by
one that can be written. -/
theorem exists_implements (ho : o ∈ m.resolved.origins) :
    ∃ p, m.Implements context o p ∧
      (o.plan.writeAccess?.isSome = true → p.isWritable = true) := by
  -- It is implemented explicitly, or by another explicit property of its contract, or else
  -- by the public property.
  cases hexplicit : m.isExplicit o with
  | true =>
    refine ⟨_, ⟨explicitDeclaration_mem ho hexplicit, Or.inl ?_⟩, fun hwrite => ?_⟩
    · simp [PropertyDeclaration.implementsContract, explicitDeclaration]
    · rw [isWritable_explicitDeclaration, hwrite]
  | false =>
    obtain ⟨hfield, hwrite⟩ := Bool.or_eq_false_iff.1 hexplicit
    have hnone : m.backingField = none := by simpa using hfield
    by_cases hother : ∃ q ∈ Node.propertiesIn (m.propertyNodes context),
        q.implementsContract o.contractName.qualified = true
    · obtain ⟨q, hq, hcontract⟩ := hother
      exact ⟨q, ⟨hq, Or.inl hcontract⟩, fun _ =>
        isWritable_of_implementsContract hnone hq hcontract⟩
    · refine ⟨_, ⟨publicDeclaration_mem hnone, Or.inr ⟨rfl, by simpa using hother⟩⟩,
        fun hsome => ?_⟩
      -- The origin is written in the way of the public property.
      have hsame : o.plan.writeAccess? = m.plan.writeAccess? := by simpa [hsome] using hwrite
      rw [isWritable_publicDeclaration, ← hsame, hsome]

end SynthesizedMember

namespace SynthesizedClass

theorem propertiesIn_body (c : SynthesizedClass) (className : String) :
    Node.propertiesIn (c.body className) =
      c.members.flatMap fun m => Node.propertiesIn (m.propertyNodes c.context) := by
  rw [body_eq, propertiesIn_appendConstructors, propertiesIn_memberNodes]

/-- In a synthesized class whose members have storage of distinct names, every property
belongs to a member, and reading or writing it reads or writes exactly the storage of that
member. Each origin of a member is implemented by such a property, which can be written if
the origin declares a write accessor. A value written through one origin of a member is found
by reading the member through every origin and by its public property, and what is found by
reading the other members stays the same. -/
theorem accessors_share_storage (contract : Contract) (resolution : Resolution)
    (className : String) {c : SynthesizedClass}
    (hc : c = .ofResolution contract resolution className)
    (hstorage : (c.members.map (·.storage)).Nodup) :
    Node.propertiesIn (c.body className) =
      c.members.flatMap (fun m => Node.propertiesIn (m.propertyNodes c.context)) ∧
    ∀ m ∈ c.members,
      (∀ p ∈ Node.propertiesIn (m.propertyNodes c.context),
        p.Reaches (Node.storageNames (c.body className)) m.storage) ∧
      (∀ o ∈ m.resolved.origins, ∃ p, m.Implements c.context o p ∧
        (o.plan.writeAccess?.isSome = true → p.isWritable = true)) ∧
      ∀ o ∈ m.resolved.origins, ∀ p, m.Implements c.context o p →
        ∀ {α : Type} (v : Value α) (stored : String → Value α) (f : Frame α),
          p.write (Node.storageNames (c.body className)) v stored = some f →
          (∀ o' ∈ m.resolved.origins, ∀ q, m.Implements c.context o' q →
            q.value? (Node.storageNames (c.body className)) f.stored = some v) ∧
          (∀ q ∈ Node.propertiesIn (m.propertyNodes c.context), q.isPublic = true →
            q.value? (Node.storageNames (c.body className)) f.stored = some v) ∧
          ∀ m' ∈ c.members, m' ≠ m → ∀ o' ∈ m'.resolved.origins, ∀ q,
            m'.Implements c.context o' q →
            q.value? (Node.storageNames (c.body className)) f.stored =
              q.value? (Node.storageNames (c.body className)) stored := by
  have hreaches : ∀ m ∈ c.members, ∀ p ∈ Node.propertiesIn (m.propertyNodes c.context),
      p.Reaches (Node.storageNames (c.body className)) m.storage := by
    intro m hm p hp
    refine SynthesizedMember.reaches_storage ?_ (c.storage_mem_storageNames className hm) hp
    subst hc
    exact backingField_ne_value contract resolution className m hm
  refine ⟨c.propertiesIn_body className, fun m hm => ⟨hreaches m hm, ?_, ?_⟩⟩
  · intro o ho
    exact SynthesizedMember.exists_implements ho
  · intro o _ p hp α v stored f hf
    have hwritten := hreaches m hm p hp.1
    refine ⟨?_, ?_, ?_⟩
    · intro o' _ q hq
      exact hwritten.value?_of_write (hreaches m hm q hq.1) hf
    · intro q hq _
      exact hwritten.value?_of_write (hreaches m hm q hq) hf
    · intro m' hm' hne o' _ q hq
      have hplace : m'.storage ≠ m.storage := by
        intro heq
        exact hne (List.inj_on_of_nodup_map hstorage hm' hm heq)
      exact hwritten.value?_of_write_of_ne (hreaches m' hm' q hq.1) hplace hf

/-- A value written through `IInitial`, which has an explicit implementation, is found through
`ISettable`, which has none, and is not seen by the member with a backing field. -/
theorem accessors_share_storage_shadowing :
    ∃ m ∈ shadowing.members, ∃ m' ∈ shadowing.members, m.name = "name" ∧ m'.name = "Class" ∧
      ∃ p q r,
        (∃ o ∈ m.resolved.origins, o.contractName.qualified = "IInitial" ∧
          m.Implements .enabled o p) ∧
        (∃ o ∈ m.resolved.origins, o.contractName.qualified = "ISettable" ∧
          m.Implements .enabled o q) ∧
        (∃ o ∈ m'.resolved.origins, o.contractName.qualified = "ILower" ∧
          m'.Implements .enabled o r) ∧
        ∀ (v : Value String) (stored : String → Value String), ∃ f,
          p.write (Node.storageNames (shadowing.body "Class")) v stored = some f ∧
          q.value? (Node.storageNames (shadowing.body "Class")) f.stored = some v ∧
          r.value? (Node.storageNames (shadowing.body "Class")) f.stored =
            r.value? (Node.storageNames (shadowing.body "Class")) stored := by
  have hstorage : (shadowing.members.map (·.storage)).Nodup := by
    rw [members_shadowing]
    decide
  obtain ⟨-, hall⟩ := accessors_share_storage _ _ "Class" (c := shadowing) rfl hstorage
  obtain ⟨m, hm, hname, ⟨initial, hinitial, hinitialName, hwrite⟩, settable, hsettable,
      hsettableName⟩ : ∃ m ∈ shadowing.members, m.name = "name" ∧
        (∃ o ∈ m.resolved.origins, o.contractName.qualified = "IInitial" ∧
          o.plan.writeAccess?.isSome = true) ∧
        ∃ o ∈ m.resolved.origins, o.contractName.qualified = "ISettable" := by
    rw [members_shadowing]
    decide
  obtain ⟨m', hm', hname', lower, hlower, hlowerName⟩ : ∃ m ∈ shadowing.members,
      m.name = "Class" ∧ ∃ o ∈ m.resolved.origins, o.contractName.qualified = "ILower" := by
    rw [members_shadowing]
    decide
  have hne : m' ≠ m := by
    rintro rfl
    rw [hname'] at hname
    exact absurd hname (by decide)
  obtain ⟨hreaches, himplemented, hshared⟩ := hall m hm
  obtain ⟨p, hp, hwritable⟩ := himplemented initial hinitial
  obtain ⟨q, hq, -⟩ := himplemented settable hsettable
  obtain ⟨-, himplemented', -⟩ := hall m' hm'
  obtain ⟨r, hr, -⟩ := himplemented' lower hlower
  refine ⟨m, hm, m', hm', hname, hname', p, q, r, ⟨initial, hinitial, hinitialName, hp⟩,
    ⟨settable, hsettable, hsettableName, hq⟩, ⟨lower, hlower, hlowerName, hr⟩, ?_⟩
  intro v stored
  have hf := (hreaches p hp.1).write v stored
  rw [if_pos (hwritable hwrite)] at hf
  obtain ⟨hsame, -, hother⟩ := hshared initial hinitial p hp v stored _ hf
  exact ⟨_, hf, hsame settable hsettable q hq, hother m' hm' hne lower hlower r hr⟩

end SynthesizedClass

end ClassSynthesis
