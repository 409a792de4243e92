import ClassSynthesis.Proofs.Synthesis.ConstructorPlan

/-!
# The Primary and the Reduced Constructor

The two constructors of a member list initialize the same members in the same order. The primary
one takes all of them as parameters. The reduced one, which is there when it makes a difference,
starts some of them out with an empty instance and takes the others under the same names
(`ConstructorPlan.Reduces`).
-/

namespace ClassSynthesis

variable {members : List PlannedMember}

/-- Whether the member at a position can start out with an empty instance. -/
def selfInitializableAt (members : List PlannedMember) (position : Nat) : Bool :=
  members[position]?.any (·.plan.selfInitializable)

theorem selfInitializableAt_position {r : RequiredMember} (h : r ∈ requiredMembers members) :
    selfInitializableAt members r.position = r.plan.selfInitializable := by
  obtain ⟨m, hm, hplan, -⟩ := exists_member_of_mem_requiredMembers h
  rw [selfInitializableAt, hm, Option.any_some, hplan]

/-- The constructor that starts required members out with an empty instance wherever it can. -/
def reducedPlan (members : List PlannedMember) : ConstructorPlan :=
  ⟨(requiredMembers members).map RequiredMember.reducedSlot⟩

/-- A constructor that does as another one except that the members that can start out with an
empty instance do so, for which reason it takes fewer parameters. -/
structure ConstructorPlan.Reduces (members : List PlannedMember)
    (primary reduced : ConstructorPlan) : Prop where
  slots : reduced.slots = primary.slots.map fun slot =>
    if selfInitializableAt members slot.member then ⟨slot.member, .emptyInstance⟩ else slot
  emptyInstance_iff : ∀ slot ∈ reduced.slots,
    slot.source = .emptyInstance ↔ selfInitializableAt members slot.member = true
  parameters : reduced.parameters =
    primary.parameters.filter fun p => !selfInitializableAt members p.1
  shorter : reduced.parameterCount < primary.parameterCount

namespace ConstructorPlans

/-- The primary constructor takes every required member. -/
theorem parameters_primary (members : List PlannedMember) :
    (ofMembers members).primary.parameters =
      (requiredMembers members).map fun r => (r.position, r.parameter) := by
  rw [ConstructorPlan.parameters, ofMembers, List.filterMap_map]
  exact congrFun List.filterMap_eq_map _

/-- The reduced constructor takes the parameters of the primary one whose members cannot start out
with an empty instance. -/
theorem parameters_reducedPlan (members : List PlannedMember) :
    (reducedPlan members).parameters =
      (ofMembers members).primary.parameters.filter fun p => !selfInitializableAt members p.1 := by
  -- Both sides go through the required members, so it is enough to compare them one by one.
  rw [parameters_primary, ConstructorPlan.parameters, reducedPlan, List.filterMap_map,
    List.filter_map, ← List.filterMap_eq_map, List.filterMap_filter]
  refine List.filterMap_congr fun r hr => ?_
  rw [Function.comp_apply, Function.comp_apply, selfInitializableAt_position hr,
    RequiredMember.reducedSlot]
  cases hself : r.plan.selfInitializable with
  | true => simp [ConstructorSlot.parameter?]
  | false => simp [ConstructorSlot.parameter?, RequiredMember.primarySlot]

/-- The reduced constructor reduces the primary one when some required member can start out with
an empty instance. -/
theorem reduces_primary (h : ∃ r ∈ requiredMembers members, r.plan.selfInitializable = true) :
    ConstructorPlan.Reduces members (ofMembers members).primary (reducedPlan members) := by
  -- What a slot becomes is told by the member at its position.
  have hslot : ∀ r ∈ requiredMembers members, r.reducedSlot =
      if selfInitializableAt members r.position then ⟨r.position, .emptyInstance⟩
      else r.primarySlot := by
    intro r hr
    rw [selfInitializableAt_position hr]
    rfl
  refine ⟨?_, ?_, parameters_reducedPlan members, ?_⟩
  · show _ = ((requiredMembers members).map RequiredMember.primarySlot).map _
    rw [List.map_map]
    exact List.map_congr_left hslot
  · intro slot hmem
    obtain ⟨r, hr, rfl⟩ := List.mem_map.1 hmem
    rw [hslot r hr]
    cases hself : selfInitializableAt members r.position with
    | true => simp [hself]
    | false => simp [hself, RequiredMember.primarySlot]
  · -- The parameter of the member that starts out with an empty instance is left out.
    obtain ⟨r, hr, hself⟩ := h
    rw [ConstructorPlan.parameterCount, parameters_reducedPlan, ConstructorPlan.parameterCount]
    apply List.length_filter_lt_length_iff_exists.2
    refine ⟨(r.position, r.parameter), ?_, ?_⟩
    · rw [parameters_primary]
      exact List.mem_map_of_mem hr
    · simp [selfInitializableAt_position hr, hself]

/-- Some required member can start out with an empty instance exactly when some member is
required and can. -/
theorem exists_selfInitializable_iff :
    (∃ r ∈ requiredMembers members, r.plan.selfInitializable = true) ↔
      ∃ m ∈ members, m.plan.required = true ∧ m.plan.selfInitializable = true := by
  constructor
  · rintro ⟨r, hr, hself⟩
    obtain ⟨m, hm, hplan, hrequired⟩ := exists_member_of_mem_requiredMembers hr
    exact ⟨m, List.mem_of_getElem? hm, hrequired, by rwa [hplan]⟩
  · rintro ⟨m, hm, hrequired, hself⟩
    obtain ⟨position, hposition⟩ := List.mem_iff_getElem?.1 hm
    have hpair : (m.plan, position) ∈
        (requiredMembers members).map fun r => (r.plan, r.position) := by
      rw [requiredMembers, map_plan_requiredFrom]
      refine List.mem_map.2 ⟨(m, position), List.mem_filter.2 ⟨?_, hrequired⟩, rfl⟩
      exact List.mem_zipIdx_iff_getElem?.2 hposition
    obtain ⟨r, hr, heq⟩ := List.mem_map.1 hpair
    exact ⟨r, hr, by rwa [(Prod.mk.inj heq).1]⟩

/-- The reduced constructor is there exactly when some member is required and can start out with
an empty instance. -/
theorem reduced_eq (members : List PlannedMember) :
    (ofMembers members).reduced =
      if ∃ m ∈ members, m.plan.required = true ∧ m.plan.selfInitializable = true then
        some (reducedPlan members)
      else none := by
  refine if_congr ?_ rfl rfl
  simp only [AccessorPlan.isDefaultable, List.any_eq_true, Bool.and_eq_true]

/-- The constructors are two exactly when some member is required and can start out with an empty
instance, and the second one is the reduced constructor then. -/
theorem toList_eq_pair_iff {reduced : ConstructorPlan} :
    (ofMembers members).toList = [(ofMembers members).primary, reduced] ↔
      (∃ m ∈ members, m.plan.required = true ∧ m.plan.selfInitializable = true) ∧
        reduced = reducedPlan members := by
  rw [toList, reduced_eq, List.cons.injEq]
  split
  next h =>
    rw [Option.toList_some, List.singleton_inj]
    exact ⟨fun hlist => ⟨h, hlist.2.symm⟩, fun hreduced => ⟨rfl, hreduced.2.symm⟩⟩
  next h =>
    simp [h]

/-- Without a member that is required and can start out with an empty instance, there is the
primary constructor alone. -/
theorem toList_eq_singleton
    (h : ¬ ∃ m ∈ members, m.plan.required = true ∧ m.plan.selfInitializable = true) :
    (ofMembers members).toList = [(ofMembers members).primary] := by
  rw [toList, reduced_eq, if_neg h, Option.toList_none]

/-- Without required members the primary constructor has no slots. -/
theorem slots_primary_eq_nil (h : ∀ m ∈ members, m.plan.required = false) :
    (ofMembers members).primary.slots = [] := by
  have hnone : ∀ r, r ∉ requiredMembers members := by
    intro r hr
    obtain ⟨m, hm, -, hrequired⟩ := exists_member_of_mem_requiredMembers hr
    rw [h m (List.mem_of_getElem? hm)] at hrequired
    cases hrequired
  show (requiredMembers members).map RequiredMember.primarySlot = []
  rw [List.eq_nil_iff_forall_not_mem.2 hnone, List.map_nil]

/-- The constructors of any member list are the primary one alone, or the primary one and a
reduced one after it; the latter exactly when some member is required and can start out with an
empty instance. Each of them has one slot for each required member, in the order of the members.
The primary one takes all of these as parameters, and a reduced one reduces it. Without required
members there is one constructor, and it has no slots. -/
theorem plan_law (members : List PlannedMember) :
    ((ofMembers members).toList = [(ofMembers members).primary] ∨
      ∃ reduced, (ofMembers members).toList = [(ofMembers members).primary, reduced]) ∧
    ((∃ reduced, (ofMembers members).toList = [(ofMembers members).primary, reduced]) ↔
      ∃ m ∈ members, m.plan.required = true ∧ m.plan.selfInitializable = true) ∧
    (∀ plan ∈ (ofMembers members).toList, plan.slots.map (·.member) =
      (List.range members.length).filter fun i => members[i]?.any (·.plan.required)) ∧
    (∀ slot ∈ (ofMembers members).primary.slots, ∃ name, slot.source = .parameter name) ∧
    (∀ reduced, (ofMembers members).toList = [(ofMembers members).primary, reduced] →
      ConstructorPlan.Reduces members (ofMembers members).primary reduced) ∧
    ((∀ m ∈ members, m.plan.required = false) → (ofMembers members).toList = [⟨[]⟩]) := by
  refine ⟨?_, ?_, ?_, ?_, ?_, ?_⟩
  · by_cases h : ∃ m ∈ members, m.plan.required = true ∧ m.plan.selfInitializable = true
    · exact Or.inr ⟨_, toList_eq_pair_iff.2 ⟨h, rfl⟩⟩
    · exact Or.inl (toList_eq_singleton h)
  · constructor
    · rintro ⟨reduced, hlist⟩
      exact (toList_eq_pair_iff.1 hlist).1
    · intro h
      exact ⟨_, toList_eq_pair_iff.2 ⟨h, rfl⟩⟩
  · intro plan hplan
    rw [map_member_slots hplan, requiredMembers, map_position_requiredFrom, filter_range_eq]
  · intro slot hslot
    obtain ⟨r, -, rfl⟩ := List.mem_map.1 hslot
    exact ⟨r.parameter, rfl⟩
  · intro reduced hlist
    obtain ⟨h, rfl⟩ := toList_eq_pair_iff.1 hlist
    exact reduces_primary (exists_selfInitializable_iff.2 h)
  · intro hnone
    have hsingle : (ofMembers members).toList = [(ofMembers members).primary] := by
      refine toList_eq_singleton ?_
      rintro ⟨m, hm, hrequired, -⟩
      rw [hnone m hm] at hrequired
      cases hrequired
    rw [hsingle, List.singleton_inj]
    exact congrArg ConstructorPlan.mk (slots_primary_eq_nil hnone)

end ConstructorPlans

end ClassSynthesis
