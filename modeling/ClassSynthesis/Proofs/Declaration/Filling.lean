import ClassSynthesis.Declaration.Lowering
import ClassSynthesis.Proofs.Declaration.Execution

/-!
# Filling Storage

A slot of a constructor is one assignment. Whether its target is written `this.name` or bare,
it names the storage of the member, because a bare name is used only where no parameter hides
it (`SynthesizedClass.place?_assignmentTarget`). What a run of such assignments has done is
kept in an invariant (`Frame.Fills`), to which one more slot is added in front
(`Frame.Fills.cons`); so the assignments for any slots fill the members of these slots
(`SynthesizedClass.runAll_slotStatements`).
-/

namespace ClassSynthesis

/-- Slots with the members at their positions. -/
abbrev Filling := List (ConstructorSlot × SynthesizedMember)

/-- Where the members to be filled keep their values. -/
def Filling.storage (filling : Filling) : List String := filling.map fun w => w.2.storage

namespace Frame

variable {α : Type}

/-- The value that a slot supplies for a type, and the frame after it. -/
def supply? (f : Frame α) (type : String) : SlotSource → Option (Value α × Frame α)
  | .parameter name => (f.bound.lookup name).map fun v => (v, f)
  | .emptyInstance => some (f.create type)

/-- A value is one that a slot supplies for a type: what the parameter is bound to, or a new
instance of the type. -/
def Supplies (f : Frame α) (type : String) (source : SlotSource) (v : Value α) : Prop :=
  match source with
  | .parameter name => f.bound.lookup name = some v
  | .emptyInstance => ∃ serial, f.created ≤ serial ∧ v = .created serial type

/-- A run from one frame to another fills the members of `filling`, each once and in order,
and does nothing else. -/
structure Fills (f g : Frame α) (filling : Filling) : Prop where
  bound : g.bound = f.bound
  created : f.created ≤ g.created
  writes : ∃ made, g.writes = f.writes ++ made ∧
    made.map Prod.fst = filling.storage.map Place.stored ∧
      made.filterMap (·.2.serial?) = List.range' f.created (g.created - f.created)
  untouched : ∀ name, name ∉ filling.storage → g.stored name = f.stored name
  filled : ∀ w ∈ filling, f.Supplies w.2.type.name w.1.source (g.stored w.2.storage)

theorem Fills.refl (f : Frame α) : f.Fills f [] where
  bound := rfl
  created := Nat.le_refl _
  writes := ⟨[], by simp, rfl, by simp⟩
  untouched := fun _ _ => rfl
  filled := by simp

theorem Supplies.mono {f g : Frame α} {type : String} {source : SlotSource} {v : Value α}
    (hbound : g.bound = f.bound) (hcreated : f.created ≤ g.created)
    (h : g.Supplies type source v) : f.Supplies type source v := by
  cases source with
  | parameter name => exact (congrArg (List.lookup name) hbound).symm.trans h
  | emptyInstance =>
    obtain ⟨serial, hserial, hv⟩ := h
    exact ⟨serial, Nat.le_trans hcreated hserial, hv⟩

/-- Supplying a value changes no place and records nothing; it may create an instance. -/
theorem supply?_spec {f g : Frame α} {type : String} {source : SlotSource} {v : Value α}
    (h : f.supply? type source = some (v, g)) :
    g.bound = f.bound ∧ f.created ≤ g.created ∧ g.stored = f.stored ∧ g.writes = f.writes ∧
      f.Supplies type source v := by
  cases source with
  | parameter name =>
    obtain ⟨_, hlookup, hpair⟩ := Option.map_eq_some_iff.1 h
    cases hpair
    exact ⟨rfl, Nat.le_refl _, rfl, rfl, hlookup⟩
  | emptyInstance =>
    cases h
    exact ⟨rfl, Nat.le_succ _, rfl, rfl, f.created, Nat.le_refl _, rfl⟩

/-- Where the body binds only values from outside, the value supplied is an instance exactly
when one has been created for it. -/
theorem serial?_of_supply? {f g : Frame α} {type : String} {source : SlotSource} {v : Value α}
    (hgiven : ∀ b ∈ f.bound, b.2.serial? = none) (h : f.supply? type source = some (v, g)) :
    v.serial?.toList = List.range' f.created (g.created - f.created) := by
  cases source with
  | parameter name =>
    obtain ⟨_, hlookup, hpair⟩ := Option.map_eq_some_iff.1 h
    cases hpair
    obtain ⟨before, after, hsplit, -⟩ := List.lookup_eq_some_iff.1 hlookup
    have hnone : v.serial? = none := hgiven (name, v) (by simp [hsplit])
    simp [hnone]
  | emptyInstance =>
    cases h
    simp [Value.serial?]

/-- A slot filled first, before others that keep away from its storage. -/
theorem Fills.cons {f g h : Frame α} {slot : ConstructorSlot} {m : SynthesizedMember}
    {rest : Filling} {v : Value α} (hgiven : ∀ b ∈ f.bound, b.2.serial? = none)
    (hsupply : f.supply? m.type.name slot.source = some (v, g))
    (hrest : (g.write (.stored m.storage) v).Fills h rest)
    (hfresh : m.storage ∉ rest.storage) : f.Fills h ((slot, m) :: rest) := by
  obtain ⟨hbound, hcreated, hstored, hwritten, hsupplies⟩ := supply?_spec hsupply
  obtain ⟨made, hwrites, hplaces, hserials⟩ := hrest.writes
  have hlater : g.created ≤ h.created := hrest.created
  refine ⟨hrest.bound.trans hbound, Nat.le_trans hcreated hlater,
    ⟨(.stored m.storage, v) :: made, ?_, ?_, ?_⟩, ?_, ?_⟩
  · simp [hwrites, hwritten]
  · simpa [Filling.storage] using hplaces
  · -- The numbers given out go on where this slot has left off.
    have hsplit : h.created - f.created = (g.created - f.created) + (h.created - g.created) := by
      omega
    have hend : f.created + 1 * (g.created - f.created) = g.created := by omega
    have hfirst := serial?_of_supply? hgiven hsupply
    rw [created_write_stored] at hserials
    rw [hsplit, ← List.range'_append, hend, ← hserials, ← hfirst, List.filterMap_cons]
    cases v.serial? <;> rfl
  · intro name hname
    obtain ⟨hne, hname⟩ := not_or.1 (List.mem_cons.not.1 hname)
    rw [hrest.untouched name hname, stored_write_stored, Function.update_of_ne hne, hstored]
  · intro w hw
    rcases List.mem_cons.1 hw with rfl | hw
    · -- What follows leaves the storage of this slot alone.
      have hvalue : h.stored m.storage = v := by simp [hrest.untouched _ hfresh]
      rw [hvalue]
      exact hsupplies
    · exact (hrest.filled w hw).mono hbound hcreated

end Frame

namespace SynthesizedClass

variable {α : Type} {names : List String} {m : SynthesizedMember} {parameters : List Parameter}

/-- The assignment that fills a slot. -/
def slotStatement (parameters : List Parameter) (w : ConstructorSlot × SynthesizedMember) :
    Node :=
  .statement (.assign (assignmentTarget w.2 parameters) (slotValue w.2 w.1.source))

/-- The target of an assignment names the storage of the member, whatever the parameters. -/
theorem place?_assignmentTarget (h : m.storage ∈ names) :
    (assignmentTarget m parameters).place? names (parameters.map (·.name)) =
      some (.stored m.storage) := by
  rw [SynthesizedMember.storage] at h ⊢
  rw [assignmentTarget]
  cases hfield : m.backingField with
  | some field =>
    rw [hfield] at h
    exact Expression.place?_thisMember h
  | none =>
    rw [hfield] at h
    dsimp only [Option.getD_none] at h ⊢
    split
    · exact Expression.place?_thisMember h
    next hfree =>
      -- No parameter has the name of the member, so the bare name is not bound.
      have hname : m.name ∉ parameters.map (·.name) := by
        intro hmem
        obtain ⟨parameter, hparameter, heq⟩ := List.mem_map.1 hmem
        exact hfree (List.any_eq_true.2 ⟨parameter, hparameter, by simpa using heq⟩)
      exact Expression.place?_identifier_of_not_mem hname h

/-- The value of a slot is what the slot supplies. -/
theorem eval_slotValue {f g : Frame α} {source : SlotSource} {v : Value α}
    (h : f.supply? m.type.name source = some (v, g)) :
    (slotValue m source).eval names f = some (v, g) := by
  cases source with
  | parameter name =>
    obtain ⟨_, hlookup, hpair⟩ := Option.map_eq_some_iff.1 h
    cases hpair
    exact Expression.eval_identifier_of_bound hlookup
  | emptyInstance => exact h

/-- Running the assignment of a slot puts what it supplies in the storage of the member. -/
theorem run_slotStatement {f g : Frame α} {slot : ConstructorSlot} {v : Value α}
    (hbound : f.boundNames = parameters.map (·.name)) (hm : m.storage ∈ names)
    (h : f.supply? m.type.name slot.source = some (v, g)) :
    (slotStatement parameters (slot, m)).run names f =
      some (g.write (.stored m.storage) v) := by
  have hg : g.boundNames = parameters.map (·.name) := by
    rw [← hbound, Frame.boundNames, (Frame.supply?_spec h).1, Frame.boundNames]
  have htarget : (assignmentTarget m parameters).place? names g.boundNames =
      some (.stored m.storage) := by
    rw [hg]
    exact place?_assignmentTarget hm
  rw [slotStatement, Node.run, Expression.eval_assign (eval_slotValue h) htarget]
  rfl

/-- The assignments for slots fill the members of the slots. -/
theorem runAll_slotStatements {filling : Filling} (hstorage : filling.storage.Nodup)
    (hnames : ∀ name ∈ filling.storage, name ∈ names) {f : Frame α}
    (hbound : f.boundNames = parameters.map (·.name))
    (hgiven : ∀ b ∈ f.bound, b.2.serial? = none)
    (hsources : ∀ w ∈ filling, ∀ name, w.1.source = .parameter name →
      ∃ v, f.bound.lookup name = some v) :
    ∃ g, Node.runAll names f (filling.map (slotStatement parameters)) = some g ∧
      f.Fills g filling := by
  induction filling generalizing f with
  | nil => exact ⟨f, rfl, .refl f⟩
  | cons w rest ih =>
    obtain ⟨slot, m⟩ := w
    obtain ⟨hfresh, hrest⟩ := List.nodup_cons.1 hstorage
    obtain ⟨v, g, hsupply⟩ : ∃ v g, f.supply? m.type.name slot.source = some (v, g) := by
      cases hsource : slot.source with
      | parameter name =>
        obtain ⟨v, hv⟩ := hsources _ List.mem_cons_self name hsource
        exact ⟨v, f, by rw [Frame.supply?, hv]; rfl⟩
      | emptyInstance => exact ⟨_, _, rfl⟩
    -- The frame after the first slot binds the same names, so the rest runs from there.
    have hnext : (g.write (.stored m.storage) v).bound = f.bound := (Frame.supply?_spec hsupply).1
    obtain ⟨h, hrun, hfills⟩ := ih (f := g.write (.stored m.storage) v) hrest
      (fun name hname => hnames name (List.mem_cons_of_mem _ hname))
      (by rw [Frame.boundNames, hnext]; exact hbound)
      (by rw [hnext]; exact hgiven)
      (by rw [hnext]; exact fun w hw => hsources w (List.mem_cons_of_mem _ hw))
    refine ⟨h, ?_, hfills.cons hgiven hsupply hfresh⟩
    rw [List.map_cons, Node.runAll_cons,
      run_slotStatement hbound (hnames _ List.mem_cons_self) hsupply]
    exact hrun

end SynthesizedClass

end ClassSynthesis
