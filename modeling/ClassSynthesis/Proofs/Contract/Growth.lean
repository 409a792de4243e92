import ClassSynthesis.Proofs.Contract.Registered
import ClassSynthesis.Proofs.Contract.Registration

/-!
# Growing an Index

An index grows by contracts and by members, one at a time. Whatever is added, the contracts it
has keep their places, and a name that is found stays with the contract it was found at; a
contract keeps its members unless one is declared on it, and a name that is not found is found
later only if a contract of that name has been added. `ContractIndex.GrowsTo` says this of one
step and of any number of steps.

A walk asks for nothing else. So a walk over the larger index takes the same course, except
where the smaller one lacks a parent that has been added since (`GrowsTo.run`).
-/

namespace ClassSynthesis

/-- A change that adds to an index. -/
inductive Growth
  /-- Register a contract. -/
  | contract (r : Registration)
  /-- Declare one more member on a registered contract. -/
  | member (owner : ContractId) (member : Member)
  deriving DecidableEq, Repr

namespace Growth

/-- The contract on which a member is declared. -/
def owner? : Growth → Option ContractId
  | contract _ => none
  | member owner _ => some owner

/-- The qualified name of the contract that is registered. -/
def name? : Growth → Option String
  | contract r => some r.qualified
  | member _ _ => none

/-- The contracts on which members are declared. -/
def owners (steps : List Growth) : List ContractId := steps.filterMap owner?

/-- The qualified names of the contracts that are registered. -/
def names (steps : List Growth) : List String := steps.filterMap name?

theorem owners_cons (step : Growth) (rest : List Growth) :
    owners (step :: rest) = step.owner?.toList ++ owners rest := by
  cases step <;> rfl

theorem names_cons (step : Growth) (rest : List Growth) :
    names (step :: rest) = step.name?.toList ++ names rest := by
  cases step <;> rfl

theorem mem_owners {steps : List Growth} {owner : ContractId} :
    owner ∈ owners steps ↔ ∃ m, member owner m ∈ steps := by
  rw [owners, List.mem_filterMap]
  constructor
  · rintro ⟨_ | ⟨_, m⟩, hstep, howner⟩
    · cases howner
    · cases howner
      exact ⟨m, hstep⟩
  · rintro ⟨m, hstep⟩
    exact ⟨_, hstep, rfl⟩

theorem mem_names {steps : List Growth} {name : String} :
    name ∈ names steps ↔ ∃ r, contract r ∈ steps ∧ r.qualified = name := by
  rw [names, List.mem_filterMap]
  constructor
  · rintro ⟨r | _, hstep, hname⟩
    · exact ⟨r, hstep, Option.some.inj hname⟩
    · cases hname
  · rintro ⟨r, hstep, rfl⟩
    exact ⟨_, hstep, rfl⟩

end Growth

namespace ContractIndex

/-- The index after a change; nothing when the change is refused. -/
def grow? (index : ContractIndex) : Growth → Option ContractIndex
  | .contract r => (index.register r).toOption.map Prod.snd
  | .member owner member => index.declare? owner member

/-- The index after a sequence of changes, none of which is refused. -/
def growAll? (index : ContractIndex) (steps : List Growth) : Option ContractIndex :=
  steps.foldlM grow? index

/-- What stays as it is when members are declared on the contracts `owners` and contracts of
the names `names` are registered. -/
structure GrowsTo (index other : ContractIndex) (owners : List ContractId)
    (names : List String) : Prop where
  contract? : ∀ {id c}, index.contract? id = some c → other.contract? id = some c
  membersOf : ∀ {id c}, index.contract? id = some c → id ∉ owners →
    other.membersOf id = index.membersOf id
  lookup_none : ∀ {name}, index.lookup name = none → name ∉ names → other.lookup name = none

/-- Declaring a member changes one registration. -/
theorem registration?_of_declare? {index other : ContractIndex} {owner : ContractId}
    {member : Member} (h : index.declare? owner member = some other) (id : ContractId) :
    other.registration? id =
      (index.registration? id).map fun r =>
        if id = owner then { r with members := r.members ++ [member] } else r := by
  have hentries : other.entries = index.entries.modify owner.index fun r =>
      { r with members := r.members ++ [member] } := by
    rw [declare?] at h
    split at h
    · cases h
      rfl
    · cases h
  have hsame : owner.index = id.index ↔ id = owner := by
    cases owner
    cases id
    simp [eq_comm]
  rw [registration?, registration?, hentries, List.getElem?_modify]
  simp only [hsame]
  split <;> simp

/-- Declaring a member changes no contract. -/
theorem contract?_of_declare? {index other : ContractIndex} {owner : ContractId}
    {member : Member} (h : index.declare? owner member = some other) (id : ContractId) :
    other.contract? id = index.contract? id := by
  rw [contract?_eq, contract?_eq, registration?_of_declare? h, Option.map_map]
  congr 1
  ext1 r
  show (if _ then _ else _ : Registration).contract = r.contract
  split <;> rfl

namespace GrowsTo

variable {index other next : ContractIndex} {owners owners' : List ContractId}
  {names names' : List String}

theorem refl (index : ContractIndex) : index.GrowsTo index [] [] :=
  ⟨id, fun _ _ => rfl, fun h _ => h⟩

theorem trans (h : index.GrowsTo other owners names) (h' : other.GrowsTo next owners' names') :
    index.GrowsTo next (owners ++ owners') (names ++ names') := by
  refine ⟨fun hc => h'.contract? (h.contract? hc), ?_, ?_⟩
  · intro id c hc hid
    simp only [List.mem_append, not_or] at hid
    rw [h'.membersOf (h.contract? hc) hid.2, h.membersOf hc hid.1]
  · intro name hlookup hname
    simp only [List.mem_append, not_or] at hname
    exact h'.lookup_none (h.lookup_none hlookup hname.1) hname.2

/-- A name that is found is not redirected. -/
theorem lookup (h : index.GrowsTo other owners names) {name : String} {id : ContractId}
    (hlookup : index.lookup name = some id) : other.lookup name = some id := by
  obtain ⟨c, hc, hname⟩ := lookup_eq_some_iff_contract?.1 hlookup
  exact lookup_eq_some_iff_contract?.2 ⟨c, h.contract? hc, hname⟩

/-- Registering a contract puts it behind those that the index has. -/
theorem of_register {r : Registration} {id : ContractId}
    (h : index.register r = .ok (id, other)) : index.GrowsTo other [] [r.qualified] := by
  obtain ⟨-, hentries⟩ := register_eq_ok_iff.1 h
  have hregistration : ∀ {id s}, index.registration? id = some s →
      other.registration? id = some s := by
    intro id s hs
    rw [registration?] at hs ⊢
    rw [hentries, List.getElem?_append_left (List.getElem?_eq_some_iff.1 hs).1, hs]
  -- A registration is found at its place, with its contract and its members.
  refine ⟨?_, ?_, ?_⟩
  · intro id c hc
    obtain ⟨s, hs, rfl⟩ := contract?_eq_some_iff.1 hc
    exact contract?_eq_some_iff.2 ⟨s, hregistration hs, rfl⟩
  · intro id c hc _
    obtain ⟨s, hs, -⟩ := contract?_eq_some_iff.1 hc
    rw [membersOf_eq, membersOf_eq, hregistration hs, hs]
  · intro name hlookup hname
    rw [lookup_eq_none_iff] at hlookup ⊢
    simp_all

/-- Declaring a member changes the members of its owner only, and no contract. -/
theorem of_declare? {owner : ContractId} {member : Member}
    (h : index.declare? owner member = some other) : index.GrowsTo other [owner] [] := by
  have hregistration := registration?_of_declare? h
  have hcontract := contract?_of_declare? h
  refine ⟨?_, ?_, ?_⟩
  · intro id c hc
    rw [hcontract, hc]
  · intro id c _ hid
    have hne : id ≠ owner := by simpa using hid
    simp [membersOf_eq, hregistration, hne]
  · intro name hlookup _
    -- A contract found in the larger index is there, under the same name, in the smaller one.
    refine Option.eq_none_iff_forall_ne_some.2 fun id hid => ?_
    obtain ⟨c, hc, hname⟩ := lookup_eq_some_iff_contract?.1 hid
    rw [hcontract] at hc
    rw [lookup_eq_some_iff_contract?.2 ⟨c, hc, hname⟩] at hlookup
    cases hlookup

/-- A change that is not refused lets the index grow. -/
theorem of_grow? {step : Growth} (h : index.grow? step = some other) :
    index.GrowsTo other step.owner?.toList step.name?.toList := by
  cases step with
  | contract r =>
    obtain ⟨⟨id, next⟩, hregister, rfl⟩ := Option.map_eq_some_iff.1 h
    cases hresult : index.register r with
    | error e =>
      rw [hresult] at hregister
      cases hregister
    | ok result =>
      rw [hresult] at hregister
      cases hregister
      exact of_register hresult
  | member owner member => exact of_declare? h

/-- So does a sequence of changes. -/
theorem of_growAll? {steps : List Growth} (h : index.growAll? steps = some other) :
    index.GrowsTo other (Growth.owners steps) (Growth.names steps) := by
  induction steps generalizing index with
  | nil =>
    cases h
    exact refl _
  | cons step rest ih =>
    obtain ⟨mid, hmid, hrest⟩ := Option.bind_eq_some_iff.1 h
    rw [Growth.owners_cons, Growth.names_cons]
    exact (of_grow? hmid).trans (ih hrest)

/-! ## Walks -/

variable (h : index.GrowsTo other owners names)
include h

/-- A name that is found, is found at the same contract. -/
theorem lookup_eq {name : String} (hname : index.lookup name ≠ none) :
    other.lookup name = index.lookup name := by
  obtain ⟨id, hid⟩ := Option.ne_none_iff_exists'.1 hname
  rw [hid, h.lookup hid]

/-- A contract whose parents are all there keeps them. -/
theorem parents_eq {c : Contract} (hc : index.unresolvedParent? c = none) :
    other.unresolvedParent? c = none ∧ other.parentIds c = index.parentIds c := by
  have hlookup : ∀ name ∈ c.parents, other.lookup name = index.lookup name := by
    intro name hname
    exact h.lookup_eq (unresolvedParent?_eq_none_iff.1 hc name hname)
  constructor
  · rw [unresolvedParent?_eq_none_iff] at hc ⊢
    intro name hname
    rw [hlookup name hname]
    exact hc name hname
  · exact List.filterMap_congr hlookup

/-- The parent that is missing is still the last one listed that is, unless it has been
added. -/
theorem unresolvedParent?_eq {c : Contract} {name : String}
    (hc : index.unresolvedParent? c = some name) (hname : name ∉ names) :
    other.unresolvedParent? c = some name := by
  obtain ⟨hnone, later, earlier, hparents, hlater⟩ := List.find?_eq_some_iff_append.1 hc
  refine List.find?_eq_some_iff_append.2 ⟨?_, later, earlier, hparents, ?_⟩
  · rw [h.lookup_none (by simpa using hnone) hname]
    rfl
  · -- The parents listed after it were all there.
    intro found hfound
    have hsome := hlater found hfound
    rw [h.lookup_eq (Option.ne_none_iff_isSome.2 (by simpa using hsome))]
    exact hsome

/-- A visit of a registered contract takes the same course, unless the parent that it lacks
has been added. -/
theorem visit_eq {root : String} {v : Visit} {c : Contract}
    (hc : index.contract? v.id = some c)
    (hmissing : ∀ child name, index.visit root v = .error (.unknownParent child name) →
      name ∉ names) :
    other.visit root v = index.visit root v := by
  rw [visit, visit, h.contract? hc, hc]
  by_cases hdepth : v.depth > maxInheritanceDepth
  · rw [if_pos hdepth, if_pos hdepth]
  rw [if_neg hdepth, if_neg hdepth]
  cases hkind : c.isInterface with
  | false => simp [hkind]
  | true =>
    -- Only here do the two indexes matter, in what they answer about the parents.
    cases hparent : index.unresolvedParent? c with
    | none =>
      obtain ⟨hnone, hparents⟩ := h.parents_eq hparent
      simp [hkind, hparent, hnone, hparents]
    | some name =>
      have hname : name ∉ names := by
        apply hmissing c.name.qualified
        simp [visit, hdepth, hc, hkind, hparent]
      simp [hkind, hparent, h.unresolvedParent?_eq hparent hname]

/-- A walk takes the same course, unless the parent that it lacks has been added. -/
theorem run_eq {root : String} {walk : Walk}
    (hpending : ∀ v ∈ walk.pending, ∃ c, index.contract? v.id = some c)
    (hmissing : ∀ child name, walk.run index root = .error (.unknownParent child name) →
      name ∉ names) :
    walk.run other root = walk.run index root := by
  -- Along the run over the smaller index: what is pending stays registered there.
  induction walk using Walk.induct index root with
  | nil order => rw [Walk.run_nil, Walk.run_nil]
  | seen order v rest hseen ih =>
    rw [Walk.run_seen hseen] at hmissing ⊢
    rw [Walk.run_seen hseen]
    exact ih (fun w hw => hpending w (List.mem_cons_of_mem _ hw)) hmissing
  | visit order v rest hnew ih =>
    obtain ⟨c, hc⟩ := hpending v List.mem_cons_self
    rw [Walk.run_visit hnew] at hmissing ⊢
    have hvisit : other.visit root v = index.visit root v := by
      refine h.visit_eq hc fun child name herror => hmissing child name ?_
      rw [herror]
      rfl
    rw [Walk.run_visit hnew, hvisit]
    cases hresult : index.visit root v with
    | error e => rfl
    | ok parents =>
      rw [hresult] at hmissing
      refine ih parents hresult (Walk.registered_afterVisit hresult fun w hw => ?_) hmissing
      exact hpending w (List.mem_cons_of_mem _ hw)

/-- A registered contract has the same closure, unless the parent that it lacks has been
added. -/
theorem closure_eq {id : ContractId} {c : Contract} (hc : index.contract? id = some c)
    (hmissing : ∀ child name, index.closure id = .error (.unknownParent child name) →
      name ∉ names) :
    other.closure id = index.closure id := by
  rw [closure_eq_run hc] at hmissing ⊢
  rw [closure_eq_run (h.contract? hc)]
  exact h.run_eq (registered_start hc) hmissing

end GrowsTo

end ContractIndex

end ClassSynthesis
