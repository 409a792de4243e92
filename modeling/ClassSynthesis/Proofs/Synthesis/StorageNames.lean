import ClassSynthesis.Proofs.Contract.Registered
import ClassSynthesis.Proofs.Synthesis.FreshName
import ClassSynthesis.Proofs.Synthesis.Origins
import ClassSynthesis.Proofs.Synthesis.ReservedWord

/-!
# The Names of the Storage

A member keeps its value in its backing field or in its public property. The names of the public
properties are distinct and not that of the class. The names of the backing fields are made
unique, among themselves and against these names, before reserved words are escaped. So a field
can still end up with the name of something else, when escaping puts an `@` in front of it
(`ContractIndex.storage_names_apart_iff`); a member that is spelled like the class is enough for
that (`ContractIndex.field_named_like_property`).

- `SynthesizedClass.backingFields_ofResolution`: the fields are what a scope hands out, escaped.
- `SynthesizedClass.mem_allocatedFields_iff`: the names without digits that it hands out.
- `SynthesizedClass.apart_iff`: when the fields are apart from each other and from other names.
-/

namespace ClassSynthesis

/-- The names that the members with a backing field wish for, in order. -/
def wishedFields (className : String) (members : List ResolvedMember) : List String :=
  (members.filter (·.needsField className)).map fun m => Identifier.lowerCamel m.name

/-- The names that they are given before reserved words are escaped. -/
def allocatedFields (className : String) (members : List ResolvedMember) : List String :=
  (fieldScope members className).pickAll (wishedFields className members)

theorem nodup_allocatedFields (className : String) (members : List ResolvedMember) :
    (allocatedFields className members).Nodup :=
  NameScope.nodup_pickAll _ _

/-- Backing fields are named by what the scope hands out, escaped. -/
theorem filterMap_backingField_assignFields (className : String) (scope : NameScope)
    (members : List ResolvedMember) :
    (assignFields className scope members).filterMap (·.backingField) =
      (scope.pickAll (wishedFields className members)).map Identifier.escape := by
  induction members generalizing scope with
  | nil => rfl
  | cons m rest ih =>
    rw [assignFields, wishedFields, List.filter_cons]
    split
    · rw [List.filterMap_cons, ih]
      rfl
    · exact ih scope

namespace SynthesizedClass

/-- The backing fields, in the order of the members. -/
def backingFields (c : SynthesizedClass) : List String := c.members.filterMap (·.backingField)

/-- The names of the members that have no backing field, in order. -/
def plainNames (c : SynthesizedClass) : List String :=
  (c.members.filter (·.backingField.isNone)).map SynthesizedMember.name

/-- The names of the class and of all its members. -/
def ownNames (c : SynthesizedClass) (className : String) : List String :=
  className :: c.members.map SynthesizedMember.name

/-- The backing fields are distinct, and none of them has the name of the class or of a member
without a backing field. -/
def FieldsApart (c : SynthesizedClass) (className : String) : Prop :=
  c.backingFields.Nodup ∧ ∀ field ∈ c.backingFields, field ∉ className :: c.plainNames

variable {contract : Contract} {r : Resolution} {className name : String}

/-- The backing fields are what the scope hands out, escaped. -/
theorem backingFields_ofResolution (contract : Contract) (r : Resolution) (className : String) :
    (ofResolution contract r className).backingFields =
      (allocatedFields className r.members).map Identifier.escape :=
  filterMap_backingField_assignFields ..

theorem plainNames_ofResolution (contract : Contract) (r : Resolution) (className : String) :
    (ofResolution contract r className).plainNames =
      (r.members.filter (!·.needsField className)).map (·.name) := by
  rw [← map_resolved_ofResolution contract r className, List.filter_map, List.map_map]
  refine congrArg (List.map _) (List.filter_congr fun m hm => ?_)
  rw [Function.comp_apply, ← isSome_backingField_of_mem hm, Option.not_isSome]

theorem mem_wishedFields_iff (contract : Contract) :
    name ∈ wishedFields className r.members ↔
      ∃ m ∈ (ofResolution contract r className).members, m.backingField.isSome = true ∧
        Identifier.lowerCamel m.name = name := by
  rw [wishedFields, List.mem_map, ← map_resolved_ofResolution contract r className]
  constructor
  · rintro ⟨resolved, hresolved, rfl⟩
    obtain ⟨hmem, hneeds⟩ := List.mem_filter.1 hresolved
    obtain ⟨m, hm, rfl⟩ := List.mem_map.1 hmem
    exact ⟨m, hm, by rwa [isSome_backingField_of_mem hm], rfl⟩
  · rintro ⟨m, hm, hsome, rfl⟩
    rw [isSome_backingField_of_mem hm] at hsome
    exact ⟨m.resolved, List.mem_filter.2 ⟨List.mem_map_of_mem hm, hsome⟩, rfl⟩

/-- What is handed out is neither the name of the class nor that of a member without a field. -/
theorem not_mem_of_mem_allocatedFields (h : name ∈ allocatedFields className r.members) :
    name ∉ className :: (ofResolution contract r className).plainNames := by
  intro htaken
  rw [plainNames_ofResolution] at htaken
  have hfree := NameScope.isUsed_of_mem_pickAll h
  rw [isUsed_fieldScope_iff.2 (Or.inr htaken)] at hfree
  cases hfree

/-- A name without digits is handed out exactly when a member with a field wishes for it and it is
neither the name of the class nor that of a member without a field. -/
theorem mem_allocatedFields_iff (contract : Contract) (hvalue : name ≠ "value")
    (hdigit : ∀ c ∈ name.toList, c.isDigit = false) :
    name ∈ allocatedFields className r.members ↔
      name ∈ wishedFields className r.members ∧
        name ∉ className :: (ofResolution contract r className).plainNames := by
  by_cases htaken : name ∈ className :: (ofResolution contract r className).plainNames
  · refine iff_of_false (fun h => ?_) fun h => h.2 htaken
    exact not_mem_of_mem_allocatedFields h htaken
  · have hfree : (fieldScope r.members className).isUsed name = false := by
      rw [Bool.eq_false_iff, Ne, isUsed_fieldScope_iff, ← plainNames_ofResolution contract]
      exact not_or.2 ⟨hvalue, htaken⟩
    rw [allocatedFields, NameScope.mem_pickAll_iff hfree hdigit, and_iff_left htaken]

/-- Every member has a backing field, or its name is one of those without. -/
theorem mem_ownNames_iff {c : SynthesizedClass} :
    name ∈ c.ownNames className ↔ name ∈ className :: c.plainNames ∨
      ∃ m ∈ c.members, m.backingField.isSome = true ∧ m.name = name := by
  simp only [ownNames, plainNames, List.mem_cons, List.mem_map, List.mem_filter]
  constructor
  · rintro (hclass | ⟨m, hm, hname⟩)
    · exact Or.inl (Or.inl hclass)
    · cases hfield : m.backingField with
      | none => exact Or.inl (Or.inr ⟨m, ⟨hm, by rw [hfield]; rfl⟩, hname⟩)
      | some field => exact Or.inr ⟨m, hm, by rw [hfield]; rfl, hname⟩
  · rintro ((hclass | ⟨m, ⟨hm, -⟩, hname⟩) | ⟨m, hm, -, hname⟩)
    · exact Or.inl hclass
    · exact Or.inr ⟨m, hm, hname⟩
    · exact Or.inr ⟨m, hm, hname⟩

/-- A reserved word with an `@` is handed out or taken exactly when it is the name of the class or
of a member. -/
theorem at_append_mem_iff {word : String} (hreserved : word ∈ Identifier.reservedWords) :
    "@" ++ word ∈ allocatedFields className r.members ∨
        "@" ++ word ∈ className :: (ofResolution contract r className).plainNames ↔
      "@" ++ word ∈ (ofResolution contract r className).ownNames className := by
  have hvalue : "@" ++ word ≠ "value" := by
    intro heq
    simpa using congrArg String.toList heq
  have hdigit : ∀ c ∈ ("@" ++ word).toList, c.isDigit = false := by
    simpa using Identifier.isDigit_of_mem_reservedWords hreserved
  have hwish : "@" ++ word ∈ wishedFields className r.members ↔
      ∃ m ∈ (ofResolution contract r className).members, m.backingField.isSome = true ∧
        m.name = "@" ++ word := by
    rw [mem_wishedFields_iff contract]
    simp only [Identifier.lowerCamel_eq_at_append_iff]
  rw [mem_ownNames_iff, ← hwish, mem_allocatedFields_iff contract hvalue hdigit]
  tauto

/-- The fields are apart from each other, from the class and from the members without a field
exactly when no member with a field wishes for a reserved word that is, with an `@` in front, the
name of the class or of a member. The wish does no harm where it is taken. -/
theorem apart_iff (contract : Contract) (r : Resolution) (className : String) :
    (ofResolution contract r className).FieldsApart className ↔
      ∀ m ∈ (ofResolution contract r className).members, m.backingField.isSome = true →
        Identifier.lowerCamel m.name ∈ Identifier.reservedWords →
        Identifier.lowerCamel m.name ∉
          className :: (ofResolution contract r className).plainNames →
        "@" ++ Identifier.lowerCamel m.name ∉
          (ofResolution contract r className).ownNames className := by
  rw [FieldsApart, backingFields_ofResolution,
    Identifier.nodup_map_escape_iff (nodup_allocatedFields className r.members),
    Identifier.forall_map_escape_not_mem_iff fun _ => not_mem_of_mem_allocatedFields]
  -- In both parts it is a reserved word handed out that does harm.
  have hword : ∀ {word : String}, word ∈ Identifier.reservedWords →
      (word ∈ allocatedFields className r.members ↔
        word ∈ wishedFields className r.members ∧
          word ∉ className :: (ofResolution contract r className).plainNames) := by
    intro word hreserved
    refine mem_allocatedFields_iff contract ?_ (Identifier.isDigit_of_mem_reservedWords hreserved)
    rintro rfl
    revert hreserved
    decide +kernel
  constructor
  · rintro ⟨hfields, hnames⟩ m hm hsome hreserved htaken hat
    have hmem := (hword hreserved).2 ⟨(mem_wishedFields_iff contract).2 ⟨m, hm, hsome, rfl⟩, htaken⟩
    rcases (at_append_mem_iff hreserved).2 hat with hat | hat
    · exact hfields _ hmem hreserved hat
    · exact hnames _ hmem hreserved hat
  · intro h
    have hall : ∀ word ∈ allocatedFields className r.members,
        word ∈ Identifier.reservedWords →
          "@" ++ word ∉ (ofResolution contract r className).ownNames className := by
      intro word hmem hreserved
      obtain ⟨hwish, htaken⟩ := (hword hreserved).1 hmem
      obtain ⟨m, hm, hsome, rfl⟩ := (mem_wishedFields_iff contract).1 hwish
      exact h m hm hsome hreserved htaken
    refine ⟨fun word hmem hreserved hat => ?_, fun word hmem hreserved hat => ?_⟩
    · exact hall word hmem hreserved ((at_append_mem_iff hreserved).1 (Or.inl hat))
    · exact hall word hmem hreserved ((at_append_mem_iff hreserved).1 (Or.inr hat))

end SynthesizedClass

namespace ContractIndex

variable {index : ContractIndex} {id : ContractId} {r : Resolution}

/-- For a contract that resolves there is a class of any name. -/
theorem exists_synthesize (hr : index.resolve id = .ok r) (className : String) :
    ∃ contract, index.synthesize id className = .ok (.ofResolution contract r className) := by
  obtain ⟨closure, hclosure, -⟩ := resolve_eq_ok_iff.1 hr
  obtain ⟨contract, hcontract⟩ := exists_contract_of_closure hclosure
  exact ⟨contract, synthesize_eq_ok_iff.2 ⟨contract, r, hcontract, hr, rfl⟩⟩

/-- A contract that resolves has a class of any name, with a member for each resolved one. A
member has a backing field exactly when it is qualified or has the name of the class. The names of
the members without a field are distinct and not that of the class. No field is called `value`.
The fields are distinct and none of them has the name of the class or of a member without a field,
except where a member with a field wishes for a reserved word, neither the class nor a member
without a field is called so, and the class or a member is called by this word with an `@`. -/
theorem storage_names_apart_iff (hr : index.resolve id = .ok r) (className : String) :
    ∃ c, index.synthesize id className = .ok c ∧
      c.members.map SynthesizedMember.resolved = r.members ∧
      (∀ m ∈ c.members, m.backingField.isSome = true ↔
        m.resolved.isQualified = true ∨ m.name = className) ∧
      (className :: c.plainNames).Nodup ∧
      "value" ∉ c.backingFields ∧
      (c.FieldsApart className ↔
        ∀ m ∈ c.members, m.backingField.isSome = true →
          Identifier.lowerCamel m.name ∈ Identifier.reservedWords →
          Identifier.lowerCamel m.name ∉ className :: c.plainNames →
          "@" ++ Identifier.lowerCamel m.name ∉ c.ownNames className) := by
  obtain ⟨contract, hc⟩ := exists_synthesize hr className
  have hfield : ∀ m ∈ (SynthesizedClass.ofResolution contract r className).members,
      m.backingField.isSome = true ↔ m.resolved.isQualified = true ∨ m.name = className := by
    intro m hm
    rw [isSome_backingField_of_mem hm, ResolvedMember.needsField, Bool.or_eq_true, beq_iff_eq]
    rfl
  refine ⟨_, hc, SynthesizedClass.map_resolved_ofResolution .., hfield, ?_, ?_,
    SynthesizedClass.apart_iff contract r className⟩
  · refine List.nodup_cons.2 ⟨fun hclass => ?_, nodup_plain_names hc⟩
    -- A member with the name of the class has a field.
    obtain ⟨m, hm, hname⟩ := List.mem_map.1 hclass
    obtain ⟨hmem, hnone⟩ := List.mem_filter.1 hm
    rw [← Option.not_isSome, (hfield m hmem).2 (Or.inr hname)] at hnone
    cases hnone
  · intro hvalue
    obtain ⟨m, hm, hfield⟩ := List.mem_filterMap.1 hvalue
    exact SynthesizedClass.backingField_ne_value contract r className m hm hfield

/-- A contract whose parents declare a property of the same name with different types, next to
one that is spelled like the fields of these. -/
def shelf : ContractIndex where
  entries := [
    { contract := { name := .global "IShelf", parents := ["IWide", "ILong"] },
      members := [
        { name := "value", type := .value "int", accessors := ⟨true, true, false⟩ }] },
    { contract := { name := .global "IWide" },
      members := [
        { name := "Value", type := .value "long", accessors := ⟨true, true, false⟩ }] },
    { contract := { name := .global "ILong" },
      members := [
        { name := "Value", type := .value "short", accessors := ⟨true, true, false⟩ }] }]
  distinct := by decide

/-- The two fields are apart from each other and from the property. -/
theorem storage_names_apart_shelf :
    ∃ c, shelf.synthesize ⟨0⟩ "Class" = .ok c ∧ c.members.map SynthesizedMember.name =
      ["value", "Value", "Value"] ∧ c.FieldsApart "Class" := by
  have hclosure : shelf.closure ⟨0⟩ = .ok [⟨0⟩, ⟨1⟩, ⟨2⟩] := by cbv
  have hresolve := resolve_eq_ok_iff.2 ⟨_, hclosure, by decide, rfl⟩
  obtain ⟨c, hc, -, -, -, -, hiff⟩ := storage_names_apart_iff hresolve "Class"
  have hnames : c.members.map SynthesizedMember.name = ["value", "Value", "Value"] := by
    obtain ⟨contract, r, -, hr, rfl⟩ := synthesize_eq_ok_iff.1 hc
    rw [hresolve] at hr
    cases hr
    rw [SynthesizedClass.map_name_ofResolution]
    decide
  refine ⟨c, hc, hnames, hiff.2 fun m hm _ hreserved => ?_⟩
  -- No member wishes for a reserved word.
  have hwish : ∀ name ∈ c.members.map SynthesizedMember.name,
      Identifier.lowerCamel name ∉ Identifier.reservedWords := by
    rw [hnames]
    decide +kernel
  exact absurd hreserved (hwish m.name (List.mem_map_of_mem hm))

/-- A property spelled like the class, next to one whose name is a reserved word with an `@`. -/
def spelled : ContractIndex where
  entries := [
    { contract := { name := .global "IBox" },
      members := [
        { name := "Class", type := .value "int", accessors := ⟨true, true, false⟩ },
        { name := "@class", type := .value "int", accessors := ⟨true, true, false⟩ }] }]
  distinct := by decide

/-- The field of the first has the name of the second. -/
theorem field_named_like_property :
    ∃ c, spelled.synthesize ⟨0⟩ "Class" = .ok c ∧ c.backingFields = ["@class"] ∧
      c.plainNames = ["@class"] ∧ ¬ c.FieldsApart "Class" := by
  have hclosure : spelled.closure ⟨0⟩ = .ok [⟨0⟩] := by cbv
  have hresolve := resolve_eq_ok_iff.2 ⟨_, hclosure, by decide, rfl⟩
  obtain ⟨contract, hc⟩ := exists_synthesize hresolve "Class"
  refine ⟨_, hc, ?_⟩
  rw [SynthesizedClass.FieldsApart, SynthesizedClass.backingFields_ofResolution,
    SynthesizedClass.plainNames_ofResolution]
  decide +kernel

end ContractIndex

end ClassSynthesis
