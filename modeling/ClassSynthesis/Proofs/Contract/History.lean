import ClassSynthesis.Proofs.Contract.Growth

/-!
# The History of an Index

An index is filled by calls that register a contract, declare a member, or register a model
file; some of them are refused. The history of the calls is what an observer writes down: the
contracts that were registered, in order, and every member declared with its owner, in order.
It knows nothing of how an index is laid out.

Whatever the calls are, the index shows their history (`ContractIndex.calls_recorded`): a
contract is identified by its place among those registered and is stored as it was handed over,
it has the members declared on it in the order of the calls, and names lead back to contracts.

## Main definitions

- `Call`, `ContractIndex.callAll?`: calls on an index, with their answers.
- `History.of`: the history of a sequence of calls.
- `ContractIndex.Records`: an index that shows a history.
-/

namespace ClassSynthesis

/-- A call on an index. -/
inductive Call
  /-- Register a contract that has no members yet. -/
  | contract (c : Contract)
  /-- Declare one more member on a contract. -/
  | member (owner : ContractId) (m : Member)
  /-- Register the contracts of a model file with their members. -/
  | file (model : ModelFile) (sourceFile : String)

/-- The contract on which a call declares a member. -/
def Call.owner? : Call → Option ContractId
  | member owner _ => some owner
  | contract _ | file _ _ => none

/-- What a call is answered: the contracts registered, or why one was refused. -/
abbrev Answer := Except ModelError (List ContractId)

namespace ContractIndex

/-- Carry out a call. There is no answer to the declaration of a member on an identity that the
index does not have. -/
def call? (index : ContractIndex) : Call → Option (Answer × ContractIndex)
  | .contract c =>
    match index.register { contract := c } with
    | .ok (id, next) => some (.ok [id], next)
    | .error e => some (.error e, index)
  | .member owner m => (index.declare? owner m).map fun next => (.ok [], next)
  | .file model sourceFile => some (model.register sourceFile index)

/-- Carry out calls in order, whether they are refused or not. -/
def callAll? (index : ContractIndex) : List Call → Option (List Answer × ContractIndex)
  | [] => some ([], index)
  | call :: rest => do
    let (answer, next) ← index.call? call
    let (answers, last) ← next.callAll? rest
    return (answer :: answers, last)

end ContractIndex

/-! ## Histories -/

/-- What calls have added so far. -/
structure History where
  /-- The contracts registered, in order. -/
  contracts : List Contract
  /-- The members declared, each with its owner, in order. -/
  declarations : List (ContractId × Member)
  deriving DecidableEq, Repr

namespace History

/-- Nothing has been added. -/
def start : History := ⟨[], []⟩

/-- The qualified names that are taken. -/
def names (h : History) : List String := h.contracts.map (·.name.qualified)

/-- The members declared on a contract. -/
def membersOf (h : History) (id : ContractId) : List Member :=
  (h.declarations.filter (·.1 == id)).map (·.2)

/-- A contract is registered with the members that come with it. It is identified by its place. -/
def grant (h : History) (r : Registration) : History where
  contracts := h.contracts ++ [r.contract]
  declarations := h.declarations ++ r.members.map fun m => (⟨h.contracts.length⟩, m)

/-- Contracts are registered up to the first one whose name is taken. -/
def request (h : History) : List Registration → History
  | [] => h
  | r :: rest => if r.qualified ∈ h.names then h else (h.grant r).request rest

/-- The history after one more call. -/
def after (h : History) : Call → History
  | .contract c => h.request [{ contract := c }]
  | .member owner m => { h with declarations := h.declarations ++ [(owner, m)] }
  | .file model sourceFile => h.request (model.contracts.map (·.toRegistration sourceFile))

/-- The history of calls from the beginning. -/
def of (calls : List Call) : History := calls.foldl after start

/-- Members are declared on contracts only that have been registered before. -/
def allows (h : History) : List Call → Bool
  | [] => true
  | call :: rest =>
    call.owner?.all (·.index < h.contracts.length) && (h.after call).allows rest

/-- A contract that is granted has the members that come with it. -/
theorem membersOf_grant (h : History) (r : Registration) (id : ContractId) :
    (h.grant r).membersOf id =
      h.membersOf id ++ if id.index = h.contracts.length then r.members else [] := by
  rw [membersOf, grant, List.filter_append, List.map_append]
  congr 1
  obtain ⟨position⟩ := id
  by_cases hposition : position = h.contracts.length
  · simp [hposition, List.filter_map, Function.comp_def]
  · simp [hposition, Ne.symm hposition, List.filter_map, Function.comp_def]

/-- A member that is declared stands last among those of its owner. -/
theorem membersOf_after_member (h : History) (owner : ContractId) (m : Member)
    (id : ContractId) :
    (h.after (.member owner m)).membersOf id =
      if id = owner then h.membersOf id ++ [m] else h.membersOf id := by
  rw [membersOf, after, List.filter_append, List.map_append]
  split
  next hid => simp [membersOf, hid]
  next hid => simp [membersOf, Ne.symm hid]

/-- A history goes on from another one: nothing is taken back. -/
structure Continues (h later : History) : Prop where
  contracts : h.contracts <+: later.contracts
  declarations : h.declarations <+: later.declarations

theorem Continues.refl (h : History) : h.Continues h := ⟨List.prefix_rfl, List.prefix_rfl⟩

theorem Continues.trans {h mid later : History} (first : h.Continues mid)
    (second : mid.Continues later) : h.Continues later :=
  ⟨first.contracts.trans second.contracts, first.declarations.trans second.declarations⟩

/-- What a contract had before, it has first. -/
theorem Continues.membersOf {h later : History} (hcontinues : h.Continues later)
    (id : ContractId) : h.membersOf id <+: later.membersOf id :=
  (hcontinues.declarations.filter _).map _

theorem continues_grant (h : History) (r : Registration) : h.Continues (h.grant r) :=
  ⟨List.prefix_append .., List.prefix_append ..⟩

theorem continues_request (h : History) (registrations : List Registration) :
    h.Continues (h.request registrations) := by
  induction registrations generalizing h with
  | nil => exact .refl h
  | cons r rest ih =>
    rw [request]
    split
    · exact .refl h
    · exact (h.continues_grant r).trans (ih _)

theorem continues_after (h : History) (call : Call) : h.Continues (h.after call) := by
  cases call with
  | contract c => exact h.continues_request _
  | member owner m => exact ⟨List.prefix_rfl, List.prefix_append ..⟩
  | file model sourceFile => exact h.continues_request _

theorem continues_foldl_after (h : History) (calls : List Call) :
    h.Continues (calls.foldl after h) := by
  induction calls generalizing h with
  | nil => exact .refl h
  | cons call rest ih => exact (h.continues_after call).trans (ih _)

end History

/-! ## Indexes that show a history -/

namespace ContractIndex

variable {index next : ContractIndex} {history : History}

theorem contract?_eq_getElem? (index : ContractIndex) (id : ContractId) :
    index.contract? id = index.contracts[id.index]? := by
  rw [contract?, contracts, List.getElem?_map]

theorem length_contracts (index : ContractIndex) : index.contracts.length = index.size :=
  List.length_map _

theorem names_eq (index : ContractIndex) :
    index.entries.map Registration.qualified = index.contracts.map (·.name.qualified) := by
  rw [contracts, List.map_map]
  rfl

/-- Names that are found stay where they are when contracts come behind the others. -/
theorem lookup_of_isPrefix {later : ContractIndex} (h : index.contracts <+: later.contracts)
    {name : String} {id : ContractId} (hid : index.lookup name = some id) :
    later.lookup name = some id := by
  rw [lookup_eq_some_iff_contract?] at hid ⊢
  obtain ⟨c, hc, hname⟩ := hid
  refine ⟨c, ?_, hname⟩
  rw [contract?_eq_getElem?] at hc ⊢
  obtain ⟨rest, hrest⟩ := h
  rw [← hrest, List.getElem?_append_left (List.getElem?_eq_some_iff.1 hc).1, hc]

/-- A contract is refused exactly when its name is taken, and it is told so. -/
theorem register_eq_error_iff {r : Registration} {e : ModelError} :
    index.register r = .error e ↔
      r.qualified ∈ index.contracts.map (·.name.qualified) ∧
        e = .duplicateContract r.qualified := by
  rw [← names_eq, register]
  split
  next hfresh =>
    refine iff_of_false (by simp) fun h => ?_
    obtain ⟨entry, hentry, hname⟩ := List.mem_map.1 h.1
    exact bne_iff_ne.1 (List.all_eq_true.1 hfresh entry hentry) hname
  next htaken =>
    have hmem : r.qualified ∈ index.entries.map Registration.qualified := by
      simpa using htaken
    rw [and_iff_right hmem, Except.error.injEq]
    exact eq_comm

/-- A member is declared exactly on the contracts that there are. -/
theorem declare?_isSome_iff {owner : ContractId} {m : Member} :
    (index.declare? owner m).isSome ↔ owner.index < index.size := by
  rw [declare?]
  split <;> simp [*]

theorem contracts_of_declare? {owner : ContractId} {m : Member}
    (h : index.declare? owner m = some next) : next.contracts = index.contracts := by
  refine List.ext_getElem? fun i => ?_
  have hcontract := contract?_of_declare? h ⟨i⟩
  rwa [contract?_eq_getElem?, contract?_eq_getElem?] at hcontract

/-- A contract without members is registered as a model file with nothing else would be. -/
theorem call?_contract (c : Contract) :
    index.call? (.contract c) = some (index.registerAll [{ contract := c }]) := by
  rw [call?, registerAll]
  cases index.register { contract := c } with
  | error e => rfl
  | ok result => rfl

theorem callAll?_cons_eq_some_iff {call : Call} {rest : List Call} {answers : List Answer} :
    index.callAll? (call :: rest) = some (answers, next) ↔
      ∃ answer mid others, index.call? call = some (answer, mid) ∧
        mid.callAll? rest = some (others, next) ∧ answers = answer :: others := by
  rw [callAll?]
  constructor
  · intro h
    obtain ⟨⟨answer, mid⟩, hcall, h⟩ := Option.bind_eq_some_iff.1 h
    obtain ⟨⟨others, last⟩, hrest, h⟩ := Option.bind_eq_some_iff.1 h
    cases h
    exact ⟨answer, mid, others, hcall, hrest, rfl⟩
  · rintro ⟨answer, mid, others, hcall, hrest, rfl⟩
    rw [hcall]
    show (mid.callAll? rest).bind _ = _
    rw [hrest]
    rfl

/-- An index that shows a history. -/
structure Records (index : ContractIndex) (history : History) : Prop where
  contracts : index.contracts = history.contracts
  membersOf : ∀ id, index.membersOf id = history.membersOf id

theorem records_empty : empty.Records .start := ⟨rfl, fun _ => rfl⟩

/-- Nothing is declared at a place that no contract has. -/
theorem membersOf_eq_nil {id : ContractId} (h : index.size ≤ id.index) :
    index.membersOf id = [] := by
  rw [membersOf_eq, registration?, List.getElem?_eq_none h]
  rfl

/-- A contract that is registered has the members that come with it; the others keep theirs. -/
theorem membersOf_of_register {r : Registration} {id : ContractId}
    (h : index.register r = .ok (id, next)) (other : ContractId) :
    next.membersOf other =
      if other.index = index.size then r.members else index.membersOf other := by
  obtain ⟨-, hentries⟩ := register_eq_ok_iff.1 h
  rw [membersOf_eq, membersOf_eq, registration?, registration?, hentries, size]
  rcases Nat.lt_trichotomy other.index index.entries.length with hlt | heq | hgt
  · rw [List.getElem?_append_left hlt, if_neg (Nat.ne_of_lt hlt)]
  · simp [heq]
  · rw [List.getElem?_eq_none (by simp; omega), List.getElem?_eq_none (Nat.le_of_lt hgt),
      if_neg (Nat.ne_of_gt hgt)]

namespace Records

theorem length_contracts (h : index.Records history) :
    history.contracts.length = index.size := by
  rw [← h.contracts, ContractIndex.length_contracts]

/-- The names of the history are those taken in the index. -/
theorem names (h : index.Records history) :
    history.names = index.contracts.map (·.name.qualified) := by
  rw [History.names, h.contracts]

/-- A contract that is registered is granted. -/
theorem register (h : index.Records history) {r : Registration} {id : ContractId}
    (hregister : index.register r = .ok (id, next)) : next.Records (history.grant r) := by
  constructor
  · obtain ⟨-, hentries⟩ := register_eq_ok_iff.1 hregister
    show next.contracts = history.contracts ++ [r.contract]
    rw [← h.contracts, ContractIndex.contracts, ContractIndex.contracts, hentries,
      List.map_append, List.map_singleton]
  · intro other
    rw [History.membersOf_grant, ← h.membersOf, h.length_contracts,
      membersOf_of_register hregister]
    split
    next heq => rw [membersOf_eq_nil (Nat.le_of_eq heq.symm), List.nil_append]
    next => rw [List.append_nil]

/-- Contracts that are to be registered are, up to the first whose name is taken. -/
theorem registerAll (h : index.Records history) (registrations : List Registration) :
    (index.registerAll registrations).2.Records (history.request registrations) := by
  induction registrations generalizing index history with
  | nil => exact h
  | cons r rest ih =>
    rw [ContractIndex.registerAll, History.request, h.names]
    cases hregister : index.register r with
    | error e =>
      rw [if_pos (register_eq_error_iff.1 hregister).1]
      exact h
    | ok result =>
      obtain ⟨id, next⟩ := result
      have hfresh : r.qualified ∉ index.contracts.map (·.name.qualified) := by
        intro htaken
        rw [register_eq_error_iff.2 ⟨htaken, rfl⟩] at hregister
        cases hregister
      rw [if_neg hfresh]
      exact ih (h.register hregister)

/-- A member that is declared stands last among those of its owner. -/
theorem declare? (h : index.Records history) {owner : ContractId} {m : Member}
    (hdeclare : index.declare? owner m = some next) :
    next.Records (history.after (.member owner m)) := by
  constructor
  · show next.contracts = history.contracts
    rw [← h.contracts, contracts_of_declare? hdeclare]
  · intro id
    rw [History.membersOf_after_member, ← h.membersOf, membersOf_eq, membersOf_eq,
      registration?_of_declare? hdeclare]
    by_cases hid : id = owner
    · have howner := declare?_isSome_iff.1 (Option.isSome_of_eq_some hdeclare)
      obtain ⟨r, hr⟩ : ∃ r, index.registration? owner = some r :=
        ⟨_, List.getElem?_eq_getElem howner⟩
      simp [hid, hr]
    · simp [hid]

/-- Every call that is answered is recorded. -/
theorem call? (h : index.Records history) {call : Call} {answer : Answer}
    (hcall : index.call? call = some (answer, next)) : next.Records (history.after call) := by
  cases call with
  | contract c =>
    have hlast := h.registerAll [{ contract := c }]
    rw [call?_contract] at hcall
    rwa [Option.some.inj hcall] at hlast
  | member owner m =>
    obtain ⟨declared, hdeclare, heq⟩ := Option.map_eq_some_iff.1 hcall
    cases heq
    exact h.declare? hdeclare
  | file model sourceFile =>
    have hlast := h.registerAll (model.contracts.map (·.toRegistration sourceFile))
    have hregister : index.registerAll _ = _ := Option.some.inj hcall
    rwa [hregister] at hlast

/-- So is every sequence of calls. -/
theorem callAll? (h : index.Records history) {calls : List Call} {answers : List Answer}
    (hcalls : index.callAll? calls = some (answers, next)) :
    next.Records (calls.foldl History.after history) := by
  induction calls generalizing index history answers with
  | nil =>
    cases hcalls
    exact h
  | cons call rest ih =>
    obtain ⟨answer, mid, others, hcall, hrest, -⟩ := callAll?_cons_eq_some_iff.1 hcalls
    exact ih (h.call? hcall) hrest

/-- Calls that declare members on registered contracts only are all answered. -/
theorem exists_callAll? (h : index.Records history) {calls : List Call}
    (hallows : history.allows calls = true) :
    ∃ answers next, index.callAll? calls = some (answers, next) := by
  induction calls generalizing index history with
  | nil => exact ⟨[], index, rfl⟩
  | cons call rest ih =>
    obtain ⟨howner, hrest⟩ := Bool.and_eq_true_iff.1 hallows
    obtain ⟨⟨answer, mid⟩, hcall⟩ : ∃ result, index.call? call = some result := by
      cases call with
      | contract c => exact ⟨_, call?_contract c⟩
      | member owner m =>
        have hlt : owner.index < index.size := by
          rw [← h.length_contracts]
          exact of_decide_eq_true howner
        obtain ⟨next, hnext⟩ := Option.isSome_iff_exists.1 (declare?_isSome_iff.2 hlt)
        exact ⟨(.ok [], next), by rw [ContractIndex.call?, hnext]; rfl⟩
      | file model sourceFile => exact ⟨_, rfl⟩
    obtain ⟨answers, next, hnext⟩ := ih (h.call? hcall) hrest
    exact ⟨answer :: answers, next, callAll?_cons_eq_some_iff.2 ⟨_, _, _, hcall, hnext, rfl⟩⟩

/-- An index that goes on from another one keeps its contracts, their members and their names. -/
theorem keeps {later : ContractIndex} {more : History} (h : index.Records history)
    (hlater : later.Records more) (hcontinues : history.Continues more) :
    index.contracts <+: later.contracts ∧
      (∀ id, index.membersOf id <+: later.membersOf id) ∧
      ∀ name id, index.lookup name = some id → later.lookup name = some id := by
  have hcontracts : index.contracts <+: later.contracts := by
    rw [h.contracts, hlater.contracts]
    exact hcontinues.contracts
  refine ⟨hcontracts, fun id => ?_, fun name id hid => lookup_of_isPrefix hcontracts hid⟩
  rw [h.membersOf, hlater.membersOf]
  exact hcontinues.membersOf id

end Records

/-! ## Answers -/

theorem ids_of_register {r : Registration} {id : ContractId}
    (h : index.register r = .ok (id, next)) : next.ids = index.ids ++ [id] := by
  obtain ⟨rfl, hentries⟩ := register_eq_ok_iff.1 h
  have hsize : next.size = index.size + 1 := by simp [size, hentries]
  rw [ids, ids, hsize, List.range_succ, List.map_append, List.map_singleton]

/-- Contracts that are registered follow those that there are, in order. -/
theorem ids_of_registerAll {registrations : List Registration} {ids : List ContractId}
    (h : index.registerAll registrations = (.ok ids, next)) : next.ids = index.ids ++ ids := by
  induction registrations generalizing index ids with
  | nil =>
    cases h
    rw [List.append_nil]
  | cons r rest ih =>
    rw [registerAll] at h
    cases hregister : index.register r with
    | error e => simp [hregister] at h
    | ok result =>
      obtain ⟨id, mid⟩ := result
      simp only [hregister, Prod.mk.injEq] at h
      obtain ⟨hids, rfl⟩ := h
      cases hrest : (mid.registerAll rest).1 with
      | error e => simp [hrest, Except.map] at hids
      | ok others =>
        rw [hrest] at hids
        cases hids
        rw [ih (Prod.ext hrest rfl), ids_of_register hregister, List.append_assoc]
        rfl

/-- The identities answered follow those that there are, in order. -/
theorem ids_of_call? {call : Call} {ids : List ContractId}
    (h : index.call? call = some (.ok ids, next)) : next.ids = index.ids ++ ids := by
  cases call with
  | contract c =>
    rw [call?_contract] at h
    exact ids_of_registerAll (Option.some.inj h)
  | member owner m =>
    obtain ⟨declared, hdeclare, heq⟩ := Option.map_eq_some_iff.1 h
    cases heq
    have hsize : next.size = index.size := by
      rw [← length_contracts, contracts_of_declare? hdeclare, length_contracts]
    rw [ContractIndex.ids, ContractIndex.ids, hsize, List.append_nil]
  | file model sourceFile => exact ids_of_registerAll (Option.some.inj h)

/-- A contract whose name is taken is refused, and nothing changes. -/
theorem call?_contract_of_taken {c : Contract}
    (h : c.name.qualified ∈ index.contracts.map (·.name.qualified)) :
    index.call? (.contract c) = some (.error (.duplicateContract c.name.qualified), index) := by
  have hregister := (register_eq_error_iff (r := { contract := c })).2 ⟨h, rfl⟩
  rw [call?, hregister]
  rfl

/-- A contract of a new name is registered at the next place. -/
theorem exists_call?_contract {c : Contract}
    (h : c.name.qualified ∉ index.contracts.map (·.name.qualified)) :
    ∃ next, index.call? (.contract c) = some (.ok [⟨index.size⟩], next) := by
  cases hregister : index.register { contract := c } with
  | error e => exact absurd (register_eq_error_iff.1 hregister).1 h
  | ok result =>
    obtain ⟨id, next⟩ := result
    rw [call?, hregister, (register_eq_ok_iff.1 hregister).1]
    exact ⟨next, rfl⟩

/-- Whatever calls have been carried out, and whether they were refused or not, an index shows
their history: it has the contracts registered, as they were handed over, in order, and for each
of them the members declared on it, in order. A name is found at an identity exactly when the
contract there bears it. The identities are the places of the contracts, and the answer to
a further call is those that come next. A further contract is refused exactly when its name is
taken, and then nothing changes. Further calls change nothing of what there is. -/
theorem calls_recorded {calls : List Call} (h : History.start.allows calls = true) :
    ∃ answers index, empty.callAll? calls = some (answers, index) ∧
      index.contracts = (History.of calls).contracts ∧
      (∀ id, index.membersOf id = (History.of calls).membersOf id) ∧
      (∀ name id, index.lookup name = some id ↔
        ∃ c, index.contract? id = some c ∧ c.name.qualified = name) ∧
      (∀ id, index.contract? id = index.contracts[id.index]?) ∧
      (∀ call ids next, index.call? call = some (.ok ids, next) → next.ids = index.ids ++ ids) ∧
      (∀ c, c.name.qualified ∉ index.contracts.map (·.name.qualified) →
        ∃ next, index.call? (.contract c) = some (.ok [⟨index.size⟩], next)) ∧
      (∀ c, c.name.qualified ∈ index.contracts.map (·.name.qualified) →
        index.call? (.contract c) = some (.error (.duplicateContract c.name.qualified), index)) ∧
      ∀ more further later, index.callAll? more = some (further, later) →
        index.contracts <+: later.contracts ∧
        (∀ id, index.membersOf id <+: later.membersOf id) ∧
        ∀ name id, index.lookup name = some id → later.lookup name = some id := by
  obtain ⟨answers, index, hcalls⟩ := records_empty.exists_callAll? h
  have hrecords : index.Records (.of calls) := records_empty.callAll? hcalls
  refine ⟨answers, index, hcalls, hrecords.contracts, hrecords.membersOf,
    fun _ _ => lookup_eq_some_iff_contract?, contract?_eq_getElem? index,
    fun _ _ _ => ids_of_call?, fun _ => exists_call?_contract,
    fun _ => call?_contract_of_taken, fun more further later hmore => ?_⟩
  exact hrecords.keeps (hrecords.callAll? hmore) (History.continues_foldl_after _ more)

/-- An order, a file in which an item comes first and then an order whose name is split in another
way, so that the rest of the file is not registered, and one more member for each of them. -/
def shopCalls : List Call := [
  .contract { name := ⟨some "Shop.Orders", "IOrder"⟩ },
  .file ⟨[
    { scope := some " Shop ", name := "IItem",
      members := [{ name := "Price", accessors := [.get], type := { name := "int" } }] },
    { scope := some "Shop", name := "Orders.IOrder" },
    { name := "INever" }]⟩ "shop.json",
  .member ⟨0⟩ { name := "Total", type := .value "int", accessors := ⟨true, false, false⟩ },
  .member ⟨1⟩ { name := "Name", type := .reference "string", accessors := ⟨true, true, false⟩ }]

theorem calls_recorded_shop :
    ∃ answers index, empty.callAll? shopCalls = some (answers, index) ∧
      index.contracts.map (·.name) =
        [⟨some "Shop.Orders", "IOrder"⟩, ⟨some "Shop", "IItem"⟩] ∧
      (index.membersOf ⟨0⟩).map (·.name) = ["Total"] ∧
      (index.membersOf ⟨1⟩).map (·.name) = ["Price", "Name"] := by
  have hallows : History.start.allows shopCalls = true := by decide
  obtain ⟨answers, index, hcalls, hcontracts, hmembers, -⟩ := calls_recorded hallows
  refine ⟨answers, index, hcalls, ?_, ?_, ?_⟩
  · rw [hcontracts]
    decide
  · rw [hmembers]
    decide
  · rw [hmembers]
    decide

end ContractIndex

end ClassSynthesis
