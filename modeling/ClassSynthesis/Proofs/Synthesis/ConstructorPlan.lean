import ClassSynthesis.Synthesis.SynthesizedClass
import Mathlib.Data.List.Nodup

/-!
# The Slots of a Constructor

Every constructor of a synthesized class, primary or reduced, has one slot for each required
member, in the order of the members (`map_member_slots`). So the positions in its slots are
those of members, and each of them stands there once.
-/

namespace ClassSynthesis

/-- The positions at which a list has an element of a kind, looked up or counted along. -/
theorem filter_range_eq {α : Type} (l : List α) (p : α → Bool) :
    (List.range l.length).filter (fun i => l[i]?.any p) =
      (l.zipIdx.filter (p ·.1)).map Prod.snd := by
  rw [List.range_eq_range', ← List.zipIdx_map_snd, List.filter_map]
  congr 1
  refine List.filter_congr fun q hq => ?_
  simp [List.mem_zipIdx_iff_getElem?.1 hq]

/-- The required members, each with its position, are those whose plans require them. -/
theorem map_plan_requiredFrom (position : Nat) (scope : NameScope)
    (members : List PlannedMember) :
    (requiredFrom position scope members).map (fun r => (r.plan, r.position)) =
      ((members.zipIdx position).filter (·.1.plan.required)).map fun p => (p.1.plan, p.2) := by
  induction members generalizing position scope with
  | nil => rfl
  | cons m rest ih =>
    rw [requiredFrom, List.zipIdx_cons, List.filter_cons]
    split
    · rw [List.map_cons, List.map_cons, ih]
    · exact ih (position + 1) scope

/-- Required members keep their positions. -/
theorem map_position_requiredFrom (position : Nat) (scope : NameScope)
    (members : List PlannedMember) :
    (requiredFrom position scope members).map (·.position) =
      ((members.zipIdx position).filter (·.1.plan.required)).map Prod.snd := by
  have hpairs := congrArg (List.map Prod.snd) (map_plan_requiredFrom position scope members)
  rwa [List.map_map, List.map_map] at hpairs

/-- At the position of a required member stands a member with its plan. -/
theorem exists_member_of_mem_requiredMembers {members : List PlannedMember} {r : RequiredMember}
    (h : r ∈ requiredMembers members) :
    ∃ m, members[r.position]? = some m ∧ m.plan = r.plan ∧ m.plan.required = true := by
  have hpair : (r.plan, r.position) ∈ (requiredMembers members).map fun r => (r.plan, r.position) :=
    List.mem_map_of_mem h
  rw [requiredMembers, map_plan_requiredFrom] at hpair
  obtain ⟨⟨m, position⟩, hm, heq⟩ := List.mem_map.1 hpair
  obtain ⟨hmem, hrequired⟩ := List.mem_filter.1 hm
  obtain ⟨hplan, hposition⟩ := Prod.mk.inj heq
  refine ⟨m, ?_, hplan, hrequired⟩
  rw [← hposition]
  exact List.mem_zipIdx_iff_getElem?.1 hmem

/-- Both constructors have a slot for each required member, in order. -/
theorem ConstructorPlans.map_member_slots {members : List PlannedMember} {plan : ConstructorPlan}
    (h : plan ∈ (ofMembers members).toList) :
    plan.slots.map (·.member) = (requiredMembers members).map (·.position) := by
  have hreduced : ∀ r : RequiredMember, r.reducedSlot.member = r.position := by
    intro r
    rw [RequiredMember.reducedSlot]
    split <;> rfl
  rw [toList, ofMembers] at h
  rcases List.mem_cons.1 h with rfl | h
  · simp [RequiredMember.primarySlot, Function.comp_def]
  · dsimp only at h
    split at h
    · rw [Option.toList_some, List.mem_singleton] at h
      subst h
      simp [hreduced, Function.comp_def]
    · cases h

namespace SynthesizedClass

variable (c : SynthesizedClass)

/-- The positions of the required members, read off the members with their positions. -/
theorem requiredPositions_eq :
    c.requiredPositions = (c.members.zipIdx.filter (·.1.plan.required)).map Prod.snd :=
  filter_range_eq c.members (·.plan.required)

theorem nodup_requiredPositions : c.requiredPositions.Nodup :=
  List.nodup_range.filter _

theorem lt_of_mem_requiredPositions {position : Nat} (h : position ∈ c.requiredPositions) :
    position < c.members.length :=
  List.mem_range.1 (List.mem_filter.1 h).1

/-- At the positions of the required members stand the required members, in order. -/
theorem filterMap_requiredPositions :
    c.requiredPositions.filterMap (c.members[·]?) = c.members.filter (·.plan.required) := by
  rw [requiredPositions_eq, List.filterMap_map]
  have hmembers : c.members = c.members.zipIdx.map Prod.fst := by simp
  have hat : ∀ p ∈ c.members.zipIdx.filter (·.1.plan.required),
      ((c.members[·]?) ∘ Prod.snd) p = some p.1 := by
    intro p hp
    exact List.mem_zipIdx_iff_getElem?.1 (List.mem_filter.1 hp).1
  rw [List.filterMap_congr hat]
  conv_rhs => rw [hmembers, List.filter_map]
  exact congrFun List.filterMap_eq_map _

/-- The constructors of a synthesized class have a slot for each required member, in order. -/
theorem map_member_slots {contract : Contract} {resolution : Resolution} {className : String}
    {plan : ConstructorPlan}
    (h : plan ∈ (ofResolution contract resolution className).constructors.toList) :
    plan.slots.map (·.member) =
      (ofResolution contract resolution className).requiredPositions := by
  rw [ConstructorPlans.map_member_slots h, requiredMembers, map_position_requiredFrom,
    requiredPositions_eq, List.zipIdx_map, List.filter_map, List.map_map]
  rfl

end SynthesizedClass

end ClassSynthesis
