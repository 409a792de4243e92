import ClassSynthesis.Proofs.Contract.History

/-!
# Registering Model Files

A model file is registered entry by entry up to the first one whose qualified name is taken, by
a contract of the index or by an earlier entry. What comes before that entry is stored and stays;
nothing of the entry itself, or of a later one, is. So two files of one path are registered like
a single file with the entries of both.

## Main definitions

- `ContractEntry.StoredAs`: what is stored of an entry, field by field.
- `ModelFile.Repeats`: the entries whose name is taken.
- `ModelFile.registerThen`: one file after another.
-/

namespace ClassSynthesis

/-! ## What is stored of an entry -/

/-- What is stored of a member. -/
structure MemberEntry.StoredAs (e : MemberEntry) (m : Member) : Prop where
  name : m.name = e.name
  kind : m.kind = e.kind
  typeName : m.type.name = Text.trim e.type.name
  nullable : m.type.nullable = e.type.nullable
  isValue : m.type.isValue = e.type.valueType
  isCollection : m.type.isCollection = e.type.collection
  isConstructible : m.type.isConstructible = e.type.defaultConstructible
  get : m.accessors.get = true ↔ .get ∈ e.accessors
  set : m.accessors.set = true ↔ .set ∈ e.accessors
  init : m.accessors.init = true ↔ .init ∈ e.accessors

/-- What is stored of a contract that comes from a source file. -/
structure ContractEntry.StoredAs (e : ContractEntry) (sourceFile : String) (r : Registration) :
    Prop where
  scope : r.contract.name.scope =
    match e.scope with
    | some scope => if Text.trim scope = "" then none else some (Text.trim scope)
    | none => none
  name : r.contract.name.name = e.name
  kind : r.contract.kind = e.kind
  parents : r.contract.parents = e.parents
  context : r.contract.context = e.nullableContext
  partialMarkers : r.contract.partialMarkers = (e.modifiers.filter (· = "partial")).length
  sourceFile : r.contract.sourceFile = some sourceFile
  members : List.Forall₂ MemberEntry.StoredAs e.members r.members

/-- The accessors added one by one are those there were and those listed. -/
theorem AccessorSet.foldl_with (a : AccessorSet) (words : List AccessorWord) :
    words.foldl AccessorSet.with a =
      ⟨a.get || words.contains .get, a.set || words.contains .set,
        a.init || words.contains .init⟩ := by
  induction words generalizing a with
  | nil => simp
  | cons word rest ih =>
    rw [List.foldl_cons, ih]
    cases word <;> simp [AccessorSet.with]

theorem MemberEntry.storedAs_toMember (e : MemberEntry) : e.StoredAs e.toMember := by
  have haccessors : AccessorSet.ofWords e.accessors = _ := AccessorSet.foldl_with .empty _
  constructor <;> simp [toMember, TypeEntry.toTypeRef, haccessors, AccessorSet.empty]

theorem ContractEntry.storedAs_toRegistration (e : ContractEntry) (sourceFile : String) :
    e.StoredAs sourceFile (e.toRegistration sourceFile) where
  scope := by
    cases h : e.scope with
    | none => simp [toRegistration, ContractName.inScope, h]
    | some scope => simp [toRegistration, ContractName.inScope, h, Option.filter]
  name := rfl
  kind := rfl
  parents := rfl
  context := rfl
  partialMarkers := by
    rw [toRegistration, List.count, List.countP_eq_length_filter]
    rfl
  sourceFile := rfl
  members := by
    rw [toRegistration, List.forall₂_map_right_iff]
    exact List.forall₂_same.2 fun m _ => m.storedAs_toMember

/-- The name an entry is registered under: the namespace is trimmed, and a blank one is none. -/
def ContractEntry.qualifiedName (e : ContractEntry) : String :=
  match e.scope with
  | some scope => if Text.trim scope = "" then e.name else Text.trim scope ++ "." ++ e.name
  | none => e.name

theorem ContractEntry.qualified_toRegistration (e : ContractEntry) (sourceFile : String) :
    (e.toRegistration sourceFile).qualified = e.qualifiedName := by
  cases h : e.scope with
  | none => simp [Registration.qualified, toRegistration, ContractName.inScope,
      ContractName.qualified, qualifiedName, h]
  | some scope =>
    by_cases hblank : Text.trim scope = "" <;>
      simp [Registration.qualified, toRegistration, ContractName.inScope,
        ContractName.qualified, qualifiedName, Option.filter, h, hblank]

/-! ## Registrations one after another -/

namespace ContractIndex

variable {index next : ContractIndex}

/-- The registrations behind others go into the index that the others lead to, unless one of the
others is refused. -/
theorem registerAll_append (index : ContractIndex) (first second : List Registration) :
    index.registerAll (first ++ second) =
      match index.registerAll first with
      | (.error e, next) => (.error e, next)
      | (.ok ids, next) =>
        ((next.registerAll second).1.map (ids ++ ·), (next.registerAll second).2) := by
  induction first generalizing index with
  | nil =>
    -- No identities stand in front of those of the second registrations.
    show _ = ((index.registerAll second).1.map id, (index.registerAll second).2)
    rw [Except.map_id]
    rfl
  | cons r rest ih =>
    rw [List.cons_append, registerAll, registerAll]
    cases index.register r with
    | error e => rfl
    | ok result =>
      obtain ⟨id, mid⟩ := result
      dsimp only
      rw [ih mid]
      cases mid.registerAll rest with
      | mk answer next =>
        cases answer with
        | error e => rfl
        | ok ids => cases h : (next.registerAll second).1 <;> simp [h, Except.map]

/-- A contract of a new name gets the next identity and stands behind the others. -/
theorem exists_register_eq_ok {r : Registration}
    (h : r.qualified ∉ index.contracts.map (·.name.qualified)) :
    ∃ next, index.register r = .ok (⟨index.size⟩, next) ∧ next.entries = index.entries ++ [r] := by
  cases hregister : index.register r with
  | error e => exact absurd (register_eq_error_iff.1 hregister).1 h
  | ok result =>
    obtain ⟨id, next⟩ := result
    obtain ⟨rfl, hentries⟩ := register_eq_ok_iff.1 hregister
    exact ⟨next, rfl, hentries⟩

/-- What is registered stays as it is, in front of what is added. -/
theorem entries_isPrefix_registerAll (index : ContractIndex) (registrations : List Registration) :
    index.entries <+: (index.registerAll registrations).2.entries := by
  induction registrations generalizing index with
  | nil => exact List.prefix_rfl
  | cons r rest ih =>
    rw [registerAll]
    cases hregister : index.register r with
    | error e => exact List.prefix_rfl
    | ok result =>
      refine List.IsPrefix.trans ?_ (ih result.2)
      rw [(register_eq_ok_iff.1 hregister).2]
      exact List.prefix_append ..

/-- Registrations end at the first one whose name is taken. -/
theorem registerAll_of_taken {r : Registration} {rest : List Registration}
    (h : r.qualified ∈ index.contracts.map (·.name.qualified)) :
    index.registerAll (r :: rest) = (.error (.duplicateContract r.qualified), index) := by
  rw [registerAll, register_eq_error_iff.2 ⟨h, rfl⟩]

end ContractIndex

/-! ## Model files -/

namespace ModelFile

variable {file : ModelFile} {sourceFile : String} {index : ContractIndex}

/-- The entry at a place bears the name of a contract in the index, or of an earlier entry. -/
def Repeats (file : ModelFile) (index : ContractIndex) (place : Nat) : Prop :=
  ∃ e, file.contracts[place]? = some e ∧
    (e.qualifiedName ∈ index.contracts.map (·.name.qualified) ∨
      e.qualifiedName ∈ (file.contracts.take place).map (·.qualifiedName))

/-- The first entry whose name is taken, with its place. -/
structure FirstRepeat (file : ModelFile) (index : ContractIndex) (place : Nat)
    (e : ContractEntry) : Prop where
  entry : file.contracts[place]? = some e
  repeats : file.Repeats index place
  first : ∀ earlier < place, ¬ file.Repeats index earlier

/-- The file that ends before the entry at a place. -/
def before (file : ModelFile) (place : Nat) : ModelFile := ⟨file.contracts.take place⟩

/-- Register one file and then another; the second one only if the first one is registered. -/
def registerThen (first second : ModelFile) (sourceFile : String) (index : ContractIndex) :
    Except ModelError (List ContractId) × ContractIndex :=
  match first.register sourceFile index with
  | (.error e, next) => (.error e, next)
  | (.ok ids, next) =>
    ((second.register sourceFile next).1.map (ids ++ ·), (second.register sourceFile next).2)

/-- Every entry of the file is stored behind what the index has. -/
def Fills (file : ModelFile) (sourceFile : String) (index next : ContractIndex) : Prop :=
  ∃ added, next.entries = index.entries ++ added ∧
    List.Forall₂ (ContractEntry.StoredAs · sourceFile) file.contracts added

/-- The identities that follow those of the index, one for each entry. -/
def nextIds (file : ModelFile) (index : ContractIndex) : List ContractId :=
  (List.range' index.size file.contracts.length).map ContractId.mk

/-- The names of an index behind which entries are registered. -/
theorem names_of_entries_eq {next : ContractIndex} {entries : List ContractEntry}
    (h : next.entries = index.entries ++ entries.map (·.toRegistration sourceFile)) :
    next.contracts.map (·.name.qualified) =
      index.contracts.map (·.name.qualified) ++ entries.map (·.qualifiedName) := by
  rw [← ContractIndex.names_eq, h, List.map_append, ContractIndex.names_eq, List.map_map]
  congr 2
  exact funext fun e => e.qualified_toRegistration sourceFile

/-- As long as no name is taken, all entries are registered. The induction is on the number of
entries; one more entry is put behind those that are in the index already. -/
theorem register_before (sourceFile : String) {k : Nat} (hfresh : ∀ j < k, ¬ file.Repeats index j)
    (hk : k ≤ file.contracts.length) :
    ∃ next, (file.before k).register sourceFile index =
        (.ok ((file.before k).nextIds index), next) ∧
      next.entries =
        index.entries ++ (file.contracts.take k).map (·.toRegistration sourceFile) := by
  induction k with
  | zero =>
    refine ⟨index, ?_, ?_⟩
    · simp [before, register, nextIds, ContractIndex.registerAll]
    · simp
  | succ k ih =>
    obtain ⟨mid, hmid, hentries⟩ := ih (fun j hj => hfresh j (by omega)) (by omega)
    have htake : file.contracts.take (k + 1) =
        file.contracts.take k ++ [file.contracts[k]] := (List.take_append_getElem hk).symm
    -- The names taken are those of the index and of the entries before.
    have hnew : (file.contracts[k].toRegistration sourceFile).qualified ∉
        mid.contracts.map (·.name.qualified) := by
      rw [names_of_entries_eq hentries, ContractEntry.qualified_toRegistration]
      intro hmem
      exact hfresh k (by omega) ⟨_, List.getElem?_eq_getElem hk, List.mem_append.1 hmem⟩
    obtain ⟨next, hnext, hlast⟩ := ContractIndex.exists_register_eq_ok hnew
    have hsize : mid.size = index.size + k := by
      simp [ContractIndex.size, hentries, Nat.le_of_lt hk]
    have hids : (file.before (k + 1)).nextIds index =
        (file.before k).nextIds index ++ [⟨mid.size⟩] := by
      simp [nextIds, before, hsize, Nat.le_of_lt hk, Nat.succ_le_of_lt hk, List.range'_1_concat]
    have hstep : mid.registerAll [file.contracts[k].toRegistration sourceFile] =
        (.ok [⟨mid.size⟩], next) := by
      rw [ContractIndex.registerAll, hnext]
      rfl
    refine ⟨next, ?_, ?_⟩
    · rw [register, before] at hmid
      rw [register, hids, before, htake, List.map_append, ContractIndex.registerAll_append, hmid,
        List.map_singleton]
      dsimp only
      rw [hstep]
      rfl
    · rw [hlast, hentries, htake, List.map_append, List.append_assoc, List.map_singleton]

theorem before_length (file : ModelFile) : file.before file.contracts.length = file := by
  rw [before, List.take_length]

/-- The entries of a registered file are stored. -/
theorem fills_of_entries_eq {next : ContractIndex}
    (h : next.entries = index.entries ++ file.contracts.map (·.toRegistration sourceFile)) :
    file.Fills sourceFile index next := by
  refine ⟨_, h, List.forall₂_map_right_iff.2 ?_⟩
  exact List.forall₂_same.2 fun e _ => e.storedAs_toRegistration sourceFile

/-- A file is registered up to the first entry whose name is taken. -/
theorem register_of_firstRepeat {k : Nat} {e : ContractEntry} (h : file.FirstRepeat index k e) :
    ∃ next, file.register sourceFile index = (.error (.duplicateContract e.qualifiedName), next) ∧
      (file.before k).register sourceFile index =
        (.ok ((file.before k).nextIds index), next) ∧
      (file.before k).Fills sourceFile index next := by
  obtain ⟨he, hrepeats, hfirst⟩ := h
  obtain ⟨hk, hek⟩ := List.getElem?_eq_some_iff.1 he
  obtain ⟨next, hregister, hentries⟩ :=
    register_before sourceFile hfirst (Nat.le_of_lt hk)
  refine ⟨next, ?_, hregister, fills_of_entries_eq hentries⟩
  -- The entry meets the names of the index and of the entries before it, and its own is among them.
  have htaken : (e.toRegistration sourceFile).qualified ∈
      next.contracts.map (·.name.qualified) := by
    obtain ⟨e', he', hmem⟩ := hrepeats
    cases he.symm.trans he'
    rw [names_of_entries_eq hentries, ContractEntry.qualified_toRegistration]
    exact List.mem_append.2 hmem
  -- What comes behind the entry is not looked at.
  have hsplit : file.contracts =
      file.contracts.take k ++ e :: file.contracts.drop (k + 1) := by
    rw [← hek, List.getElem_cons_drop, List.take_append_drop]
  rw [register, before] at hregister
  rw [register, hsplit, List.map_append, ContractIndex.registerAll_append, hregister,
    List.map_cons]
  dsimp only
  rw [ContractIndex.registerAll_of_taken htaken, ContractEntry.qualified_toRegistration]
  rfl

/-- Files of one path that are registered in turn are registered like one file with the entries
of both. -/
theorem register_append (first second : ModelFile) (sourceFile : String) (index : ContractIndex) :
    (ModelFile.mk (first.contracts ++ second.contracts)).register sourceFile index =
      first.registerThen second sourceFile index := by
  rw [register, List.map_append, ContractIndex.registerAll_append]
  rfl

/-- Registering a file of which no name is taken answers the identities that come next and stores
every entry. Otherwise the first entry whose name is taken is reported, and the index is left as
if the file had ended before it. Either way everything registered before stays as it is, and files
of one path that are registered in turn are registered like one file with the entries of both. -/
theorem registration_law (file : ModelFile) (sourceFile : String) (index : ContractIndex) :
    ((∀ k, ¬ file.Repeats index k) →
      ∃ next, file.register sourceFile index = (.ok (file.nextIds index), next) ∧
        file.Fills sourceFile index next) ∧
    (∀ k e, file.FirstRepeat index k e →
      ∃ next, file.register sourceFile index =
          (.error (.duplicateContract e.qualifiedName), next) ∧
        (file.before k).register sourceFile index =
          (.ok ((file.before k).nextIds index), next) ∧
        (file.before k).Fills sourceFile index next) ∧
    (index.entries <+: (file.register sourceFile index).2.entries ∧
      ∀ name id, index.lookup name = some id →
        (file.register sourceFile index).2.lookup name = some id) ∧
    ∀ second : ModelFile,
      (ModelFile.mk (file.contracts ++ second.contracts)).register sourceFile index =
        file.registerThen second sourceFile index := by
  have hkeeps := index.entries_isPrefix_registerAll
    (file.contracts.map (·.toRegistration sourceFile))
  refine ⟨fun hfresh => ?_, fun k e => register_of_firstRepeat,
    ⟨hkeeps, fun name id => ContractIndex.lookup_of_isPrefix (hkeeps.map _)⟩,
    fun second => file.register_append second sourceFile index⟩
  obtain ⟨next, hregister, hentries⟩ :=
    register_before sourceFile (fun j _ => hfresh j) (Nat.le_refl _)
  rw [before_length] at hregister
  rw [List.take_length] at hentries
  exact ⟨next, hregister, fills_of_entries_eq hentries⟩

/-- An index with one order. -/
def orders : ContractIndex where
  entries := [{ contract := { name := ⟨some "Shop.Orders", "IOrder"⟩ } }]
  distinct := by simp

/-- An item, then an order of the same qualified name whose namespace ends earlier, then one more
contract. -/
def goods : ModelFile := ⟨[
  { scope := some " Shop ", name := "IItem" },
  { scope := some "Shop", name := "Orders.IOrder" },
  { name := "INever" }]⟩

theorem registration_law_goods :
    ∃ next, goods.register "shop.json" orders =
        (.error (.duplicateContract "Shop.Orders.IOrder"), next) ∧
      (goods.before 1).register "shop.json" orders = (.ok [⟨1⟩], next) ∧
      (goods.before 1).Fills "shop.json" orders next := by
  have hfirst : goods.FirstRepeat orders 1 { scope := some "Shop", name := "Orders.IOrder" } := by
    refine ⟨rfl, ⟨_, rfl, .inl (by decide)⟩, fun earlier hearlier => ?_⟩
    obtain rfl : earlier = 0 := by omega
    rintro ⟨e, he, hname⟩
    cases he
    revert hname
    decide
  exact (registration_law goods "shop.json" orders).2.1 _ _ hfirst

end ModelFile

end ClassSynthesis
