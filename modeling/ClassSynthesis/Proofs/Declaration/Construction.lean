import ClassSynthesis.Proofs.Declaration.Body
import ClassSynthesis.Proofs.Declaration.Filling
import ClassSynthesis.Proofs.Synthesis.ConstructorPlan

/-!
# What a Constructor Does

A constructor of a synthesized class fills the storage of every required member and nothing
else: those that it takes with their arguments, the others with new instances of their types
(`SynthesizedClass.constructors_fill_required`). Each plan has one slot for each required
member, so the members that its slots fill are the required ones
(`SynthesizedClass.map_snd_filling`), and where parameters have distinct names, each name is
bound to the argument for its member (`SynthesizedClass.lookup_enter`).
-/

namespace ClassSynthesis

namespace SynthesizedClass

/-! ## The slots of a plan -/

/-- The slots of a plan with the members at their positions. -/
def filling (c : SynthesizedClass) (plan : ConstructorPlan) : Filling :=
  plan.slots.filterMap fun slot => c.members[slot.member]?.map fun m => (slot, m)

variable {c : SynthesizedClass} {plan : ConstructorPlan}

theorem statements_eq (c : SynthesizedClass) (parameters : List Parameter)
    (plan : ConstructorPlan) :
    plan.slots.filterMap (c.slotNode? parameters) =
      (c.filling plan).map (slotStatement parameters) := by
  rw [filling, List.map_filterMap]
  refine List.filterMap_congr fun slot _ => ?_
  rw [slotNode?, Option.map_map]
  rfl

/-- With a slot for each required member, the members to be filled are the required ones. -/
theorem map_snd_filling (h : plan.slots.map (·.member) = c.requiredPositions) :
    (c.filling plan).map Prod.snd = c.members.filter (·.plan.required) := by
  rw [← filterMap_requiredPositions, ← h, List.filterMap_map, filling, List.map_filterMap]
  refine List.filterMap_congr fun slot _ => ?_
  rw [Option.map_map]
  exact Option.map_id'

/-- What is filled is the storage of the required members. -/
theorem storage_filling (h : plan.slots.map (·.member) = c.requiredPositions) :
    Filling.storage (c.filling plan) =
      (c.members.filter (·.plan.required)).map (·.storage) := by
  rw [← map_snd_filling h, List.map_map]
  rfl

/-- The member at the position of a slot is filled from it. -/
theorem exists_mem_filling (h : plan.slots.map (·.member) = c.requiredPositions)
    {slot : ConstructorSlot} (hslot : slot ∈ plan.slots) :
    ∃ m, c.members[slot.member]? = some m ∧ (slot, m) ∈ c.filling plan := by
  have hposition : slot.member ∈ c.requiredPositions := by
    rw [← h]
    exact List.mem_map_of_mem hslot
  have hm := List.getElem?_eq_getElem (c.lt_of_mem_requiredPositions hposition)
  exact ⟨_, hm, List.mem_filterMap.2 ⟨slot, hslot, by rw [hm]; rfl⟩⟩

/-- A parameter of a plan stands in one of its slots. -/
theorem mem_parameters_iff {position : Nat} {name : String} :
    (position, name) ∈ plan.parameters ↔ ⟨position, .parameter name⟩ ∈ plan.slots := by
  rw [ConstructorPlan.parameters, List.mem_filterMap]
  constructor
  · rintro ⟨⟨member, source⟩, hslot, hparameter⟩
    cases source with
    | parameter other =>
      cases hparameter
      exact hslot
    | emptyInstance => cases hparameter
  · intro hslot
    exact ⟨_, hslot, rfl⟩

theorem lt_of_mem_parameters (h : plan.slots.map (·.member) = c.requiredPositions)
    {parameter : Nat × String} (hparameter : parameter ∈ plan.parameters) :
    parameter.1 < c.members.length := by
  refine c.lt_of_mem_requiredPositions ?_
  rw [← h]
  exact List.mem_map_of_mem (mem_parameters_iff.1 hparameter)

/-- The positions of the parameters are distinct. -/
theorem nodup_parameter_positions (h : plan.slots.map (·.member) = c.requiredPositions) :
    (plan.parameters.map Prod.fst).Nodup := by
  have hsub : (plan.parameters.map Prod.fst).Sublist (plan.slots.map (·.member)) := by
    rw [ConstructorPlan.parameters]
    induction plan.slots with
    | nil => exact List.Sublist.slnil
    | cons slot rest ih =>
      obtain ⟨member, source⟩ := slot
      cases source with
      | parameter name => exact ih.cons_cons member
      | emptyInstance => exact ih.cons member
  refine hsub.nodup ?_
  rw [h]
  exact c.nodup_requiredPositions

/-- The declared parameters have the names planned. -/
theorem map_name_parameterNodes (h : plan.slots.map (·.member) = c.requiredPositions) :
    (c.parameterNodes plan).map (·.name) = plan.parameters.map Prod.snd := by
  rw [parameterNodes, List.map_filterMap, ← List.filterMap_eq_map]
  refine List.filterMap_congr fun parameter hparameter => ?_
  have hm := List.getElem?_eq_getElem (lt_of_mem_parameters h hparameter)
  simp [hm]

end SynthesizedClass

/-! ## Whole constructors -/

/-- The argument handed in for the member at a position. -/
def ConstructorPlan.argument? {α : Type} (plan : ConstructorPlan) (arguments : List α)
    (position : Nat) : Option α :=
  ((plan.parameters.map Prod.fst).zip arguments).lookup position

/-- Where neither positions nor names repeat, the name of a parameter is bound to the argument
for its position. -/
private theorem lookup_bound {α : Type} {parameters : List (Nat × String)}
    {arguments : List α} (hlength : arguments.length = parameters.length)
    (hpositions : (parameters.map Prod.fst).Nodup) (hnames : (parameters.map Prod.snd).Nodup)
    {position : Nat} {name : String} (h : (position, name) ∈ parameters) :
    ∃ a, ((parameters.map Prod.fst).zip arguments).lookup position = some a ∧
      ((parameters.map Prod.snd).zip (arguments.map Value.given)).lookup name =
        some (.given a) := by
  induction parameters generalizing arguments with
  | nil => cases h
  | cons first rest ih =>
    cases arguments with
    | nil => cases hlength
    | cons a others =>
      obtain ⟨hposition, hpositions⟩ := List.nodup_cons.1 hpositions
      obtain ⟨hname, hnames⟩ := List.nodup_cons.1 hnames
      rcases List.mem_cons.1 h with rfl | h
      · exact ⟨a, by simp, by simp⟩
      · -- A later parameter differs from the first one in both.
        have hne : position ≠ first.1 := by
          rintro rfl
          exact hposition (List.mem_map.2 ⟨_, h, rfl⟩)
        have hne' : name ≠ first.2 := by
          rintro rfl
          exact hname (List.mem_map.2 ⟨_, h, rfl⟩)
        obtain ⟨b, hb, hb'⟩ := ih (Nat.succ.inj hlength) hpositions hnames h
        refine ⟨b, ?_, ?_⟩
        · rw [List.map_cons, List.zip_cons_cons, List.lookup_cons, beq_false_of_ne hne]
          exact hb
        · rw [List.map_cons, List.map_cons, List.zip_cons_cons, List.lookup_cons,
            beq_false_of_ne hne']
          exact hb'

namespace SynthesizedClass

/-- What running a constructor with arguments is to lead to, from initial values of the fields
and properties of the object. -/
structure Constructs {α : Type} (c : SynthesizedClass) (plan : ConstructorPlan)
    (arguments : List α) (stored : String → Value α) (created : Nat) (f : Frame α) : Prop where
  /-- The storage of each required member is assigned once, in the order of the members.
  Nothing else is assigned, and no parameter in particular. -/
  writes : f.writes.map Prod.fst =
    (c.members.filter (·.plan.required)).map fun m => .stored m.storage
  /-- A member that the constructor takes holds the argument for it; any other member that it
  fills holds a new instance of the declared type. -/
  values : ∀ slot ∈ plan.slots, ∃ m, c.members[slot.member]? = some m ∧
    match slot.source with
    | .parameter _ =>
      ∃ a, plan.argument? arguments slot.member = some a ∧ f.stored m.storage = .given a
    | .emptyInstance =>
      ∃ serial, created ≤ serial ∧ f.stored m.storage = .created serial m.type.name
  /-- No instance is shared. -/
  instances : (f.writes.filterMap (·.2.serial?)).Nodup
  /-- All other fields and properties are left as they were. -/
  untouched : ∀ name, name ∉ (c.members.filter (·.plan.required)).map (·.storage) →
    f.stored name = stored name

section Run

variable {α : Type} {c : SynthesizedClass} {plan : ConstructorPlan} {arguments : List α}
  (className : String) (stored : String → Value α) (created : Nat)

/-- A slot with a parameter finds the argument that is handed in for its member. -/
theorem lookup_enter (hslots : plan.slots.map (·.member) = c.requiredPositions)
    (hparameters : (plan.parameters.map Prod.snd).Nodup)
    (hlength : arguments.length = plan.parameterCount) {slot : ConstructorSlot}
    (hslot : slot ∈ plan.slots) {name : String} (hsource : slot.source = .parameter name) :
    ∃ a, plan.argument? arguments slot.member = some a ∧
      (Frame.enter (c.parameterNodes plan) arguments stored created).bound.lookup name =
        some (.given a) := by
  obtain ⟨position, source⟩ := slot
  subst hsource
  rw [Frame.enter, map_name_parameterNodes hslots]
  exact lookup_bound hlength (nodup_parameter_positions hslots) hparameters
    (mem_parameters_iff.2 hslot)

/-- The body of a constructor fills the required members. -/
theorem runAll_constructor (hslots : plan.slots.map (·.member) = c.requiredPositions)
    (hstorage : (c.members.map (·.storage)).Nodup)
    (hparameters : (plan.parameters.map Prod.snd).Nodup)
    (hlength : arguments.length = plan.parameterCount)
    (hcount : arguments.length = (c.parameterNodes plan).length) :
    ∃ f, Node.runAll (Node.storageNames (c.body className))
        (.enter (c.parameterNodes plan) arguments stored created)
        (plan.slots.filterMap (c.slotNode? (c.parameterNodes plan))) = some f ∧
      (Frame.enter (c.parameterNodes plan) arguments stored created).Fills f
        (c.filling plan) := by
  rw [statements_eq]
  refine runAll_slotStatements ?_ ?_ (Frame.boundNames_enter hcount)
    (fun b hb => Frame.serial?_of_mem_bound_enter hb) ?_
  · rw [storage_filling hslots]
    exact (List.filter_sublist.map _).nodup hstorage
  · rw [storage_filling hslots]
    intro name hname
    obtain ⟨m, hm, rfl⟩ := List.mem_map.1 hname
    exact c.storage_mem_storageNames className (List.mem_filter.1 hm).1
  · intro w hw name hname
    obtain ⟨slot, hslot, hsome⟩ := List.mem_filterMap.1 hw
    obtain ⟨m, -, rfl⟩ := Option.map_eq_some_iff.1 hsome
    obtain ⟨a, -, ha⟩ := lookup_enter stored created hslots hparameters hlength hslot hname
    exact ⟨_, ha⟩

/-- A constructor with a slot for each required member does what it is to do. -/
theorem exists_constructs (hslots : plan.slots.map (·.member) = c.requiredPositions)
    (hstorage : (c.members.map (·.storage)).Nodup)
    (hparameters : (plan.parameters.map Prod.snd).Nodup)
    (hlength : arguments.length = plan.parameterCount) :
    ∃ f, (c.constructorNode className plan).construct (Node.storageNames (c.body className))
        arguments stored created = some f ∧
      c.Constructs plan arguments stored created f := by
  have hcount : arguments.length = (c.parameterNodes plan).length := by
    rw [hlength, ConstructorPlan.parameterCount, ← List.length_map (f := Prod.snd),
      ← map_name_parameterNodes hslots, List.length_map]
  obtain ⟨f, hrun, hfills⟩ := runAll_constructor className stored created hslots hstorage
    hparameters hlength hcount
  obtain ⟨made, hwrites, hplaces, hserials⟩ := hfills.writes
  have hmade : f.writes = made := hwrites
  refine ⟨f, ?_, ?_, ?_, ?_, ?_⟩
  · rw [constructorNode, Node.construct, if_pos hcount]
    exact hrun
  · rw [hmade, hplaces, storage_filling hslots, List.map_map]
    rfl
  · intro slot hslot
    obtain ⟨m, hm, hmem⟩ := exists_mem_filling hslots hslot
    have hvalue := hfills.filled _ hmem
    refine ⟨m, hm, ?_⟩
    -- The storage holds what the source supplies: an argument, or an instance of its own.
    cases hsource : slot.source with
    | parameter name =>
      rw [hsource] at hvalue
      obtain ⟨a, ha, hbound⟩ := lookup_enter stored created hslots hparameters hlength hslot
        hsource
      exact ⟨a, ha, Option.some.inj (hvalue.symm.trans hbound)⟩
    | emptyInstance =>
      rw [hsource] at hvalue
      exact hvalue
  · rw [hmade, hserials]
    exact List.nodup_range'
  · rw [← storage_filling hslots]
    exact hfills.untouched

end Run

/-- The fields and properties of a synthesized class are the storage of its members, and its
constructors are those planned. Each has one slot for each required member, in the order of
the members, and refers to no position that is not one of a member. If the members have
storage of distinct names, and the parameters of each constructor have distinct names, then
running a constructor with an argument for each parameter assigns the storage of each required
member once, in order, and assigns nothing else: a member that the constructor takes gets its
argument, and any other one a new instance of its declared type. -/
theorem constructors_fill_required (contract : Contract) (resolution : Resolution)
    (className : String) {c : SynthesizedClass}
    (hc : c = .ofResolution contract resolution className)
    (hstorage : (c.members.map (·.storage)).Nodup)
    (hparameters : ∀ plan ∈ c.constructors.toList, (plan.parameters.map Prod.snd).Nodup) :
    (Node.storageNames (c.body className)).Perm (c.members.map (·.storage)) ∧
    (c.body className).filter Node.isConstructor =
      c.constructors.toList.map (c.constructorNode className) ∧
    ∀ plan ∈ c.constructors.toList,
      plan.slots.map (·.member) = c.requiredPositions ∧
      (∀ slot ∈ plan.slots, slot.member < c.members.length) ∧
      (∀ parameter ∈ plan.parameters, parameter.1 < c.members.length) ∧
      ∀ {α : Type} (arguments : List α) (stored : String → Value α) (created : Nat),
        arguments.length = plan.parameterCount →
        ∃ f, (c.constructorNode className plan).construct
            (Node.storageNames (c.body className)) arguments stored created = some f ∧
          c.Constructs plan arguments stored created f := by
  refine ⟨c.storageNames_body_perm className, c.constructors_body className, ?_⟩
  intro plan hplan
  have hslots : plan.slots.map (·.member) = c.requiredPositions := by
    subst hc
    exact map_member_slots hplan
  refine ⟨hslots, ?_, ?_, ?_⟩
  · intro slot hslot
    refine c.lt_of_mem_requiredPositions ?_
    rw [← hslots]
    exact List.mem_map_of_mem hslot
  · intro parameter hparameter
    exact lt_of_mem_parameters hslots hparameter
  · intro α arguments stored created hlength
    exact exists_constructs className stored created hslots hstorage (hparameters plan hplan)
      hlength

/-- The first constructor takes the two required members; the second one takes the property
hidden by its parameter and fills in the one spelled like the class. -/
theorem constructors_shadowing :
    shadowing.constructors =
      ⟨⟨[⟨0, .parameter "name"⟩, ⟨1, .parameter "@class"⟩]⟩,
        some ⟨[⟨0, .parameter "name"⟩, ⟨1, .emptyInstance⟩]⟩⟩ := by
  have hplanned : (shadowing.members.map fun m => (⟨m.name, m.plan⟩ : PlannedMember)) = [
      ⟨"name", ⟨true, false, true, false⟩⟩, ⟨"Class", ⟨false, false, true, true⟩⟩,
      ⟨"Size", ⟨true, false, false, false⟩⟩] := by
    rw [members_shadowing]
    decide
  have hlower : Identifier.lowerCamel "name" = "name" ∧
      Identifier.lowerCamel "Class" = "class" := by decide
  have hpick : NameScope.pick ⟨[]⟩ "name" = "name" ∧
      NameScope.pick ⟨["name"]⟩ "class" = "class" := by decide
  have hescape : Identifier.escape "name" = "name" ∧
      Identifier.escape "class" = "@class" := by constructor <;> cbv
  have hrequired : requiredMembers [
      ⟨"name", ⟨true, false, true, false⟩⟩, ⟨"Class", ⟨false, false, true, true⟩⟩,
      ⟨"Size", ⟨true, false, false, false⟩⟩] = [
      ⟨0, "name", ⟨true, false, true, false⟩⟩, ⟨1, "@class", ⟨false, false, true, true⟩⟩] := by
    simp [requiredMembers, requiredFrom, NameScope.allocate, NameScope.empty,
      NameScope.reserve, hlower, hpick, hescape]
  have hconstructors : shadowing.constructors =
      .ofMembers (shadowing.members.map fun m => ⟨m.name, m.plan⟩) := rfl
  rw [hconstructors, hplanned, ConstructorPlans.ofMembers, hrequired]
  decide

/-- The second constructor, given one argument, stores it in the property, creates an empty
list for the member spelled like the class and leaves the rest as it is. -/
theorem constructors_fill_required_shadowing :
    ∃ plan, shadowing.constructors.reduced = some plan ∧ ∀ stored : String → Value String,
      ∃ f, (shadowing.constructorNode "Class" plan).construct
          (Node.storageNames (shadowing.body "Class")) ["Ada"] stored 0 = some f ∧
        f.writes.map Prod.fst = [.stored "name", .stored "@class"] ∧
        f.stored "name" = .given "Ada" ∧
        (∃ serial, f.stored "@class" = .created serial "List<string>") ∧
        f.stored "Size" = stored "Size" := by
  have hmembers : (shadowing.members.map fun m => (m.storage, m.type.name)) =
      [("name", "string"), ("@class", "List<string>"), ("Size", "int")] := by
    rw [members_shadowing]
    decide
  have hstorage : shadowing.members.map (·.storage) = ["name", "@class", "Size"] := by
    rw [members_shadowing]
    decide
  have hrequired : (shadowing.members.filter (·.plan.required)).map (·.storage) =
      ["name", "@class"] := by
    rw [members_shadowing]
    decide
  have hparameters : ∀ plan ∈ shadowing.constructors.toList,
      (plan.parameters.map Prod.snd).Nodup := by
    rw [constructors_shadowing]
    decide
  obtain ⟨-, -, hplans⟩ := constructors_fill_required _ _ "Class" (c := shadowing) rfl
    (by rw [hstorage]; decide) hparameters
  let plan : ConstructorPlan := ⟨[⟨0, .parameter "name"⟩, ⟨1, .emptyInstance⟩]⟩
  have hplan : plan ∈ shadowing.constructors.toList := by
    rw [constructors_shadowing]
    decide
  obtain ⟨-, -, -, hrun⟩ := hplans plan hplan
  have hat : ∀ {position : Nat} {m : SynthesizedMember},
      shadowing.members[position]? = some m →
        [("name", "string"), ("@class", "List<string>"), ("Size", "int")][position]? =
          some (m.storage, m.type.name) := by
    intro position m hm
    rw [← hmembers, List.getElem?_map, hm]
    rfl
  refine ⟨plan, by rw [constructors_shadowing], fun stored => ?_⟩
  obtain ⟨f, hf, hconstructs⟩ := hrun ["Ada"] stored 0 rfl
  refine ⟨f, hf, ?_, ?_, ?_, ?_⟩
  · have hplaces : f.writes.map Prod.fst =
        ((shadowing.members.filter (·.plan.required)).map (·.storage)).map .stored := by
      rw [hconstructs.writes, List.map_map]
      rfl
    rw [hplaces, hrequired]
    rfl
  · obtain ⟨m, hm, a, ha, hstored⟩ := hconstructs.values ⟨0, .parameter "name"⟩ (by decide)
    have hargument : plan.argument? ["Ada"] 0 = some "Ada" := by decide
    obtain rfl : "Ada" = a := Option.some.inj (hargument.symm.trans ha)
    obtain ⟨hname, -⟩ := Prod.mk.inj (Option.some.inj (hat hm))
    rw [hname]
    exact hstored
  · obtain ⟨m, hm, serial, -, hstored⟩ := hconstructs.values ⟨1, .emptyInstance⟩ (by decide)
    obtain ⟨hname, htype⟩ := Prod.mk.inj (Option.some.inj (hat hm))
    rw [hname, htype]
    exact ⟨serial, hstored⟩
  · refine hconstructs.untouched "Size" ?_
    rw [hrequired]
    decide

end SynthesizedClass

end ClassSynthesis
