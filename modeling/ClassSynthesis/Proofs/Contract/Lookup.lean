import ClassSynthesis.Contract.Index
import Mathlib.Data.List.Nodup

/-!
# Looking Up Contracts

What an index knows about one contract is its registration. Qualified names are distinct, so
looking a name up and reading the name of a registration are inverse to each other.

- `lookup_eq_some_iff`: a name is found at an identity exactly when the registration there
  bears it.
- `mem_ids`: the identities of an index are those with a registration.
-/

namespace ClassSynthesis.ContractIndex

/-- The registration with an identity. -/
def registration? (index : ContractIndex) (id : ContractId) : Option Registration :=
  index.entries[id.index]?

theorem contract?_eq (index : ContractIndex) (id : ContractId) :
    index.contract? id = (index.registration? id).map (·.contract) := rfl

theorem membersOf_eq (index : ContractIndex) (id : ContractId) :
    index.membersOf id = ((index.registration? id).map (·.members)).getD [] := by
  rw [membersOf, registration?]
  cases index.entries[id.index]? with
  | none => rfl
  | some entry => rfl

theorem contract?_eq_some_iff {index : ContractIndex} {id : ContractId} {c : Contract} :
    index.contract? id = some c ↔ ∃ r, index.registration? id = some r ∧ r.contract = c := by
  rw [contract?_eq, Option.map_eq_some_iff]

/-- A registered contract is reported under its qualified name. -/
theorem displayName_of_contract? {index : ContractIndex} {id : ContractId} {c : Contract}
    (h : index.contract? id = some c) : index.displayName id = c.name.qualified := by
  rw [displayName, h]

theorem mem_ids {index : ContractIndex} {id : ContractId} :
    id ∈ index.ids ↔ ∃ r, index.registration? id = some r := by
  have hids : id ∈ index.ids ↔ id.index < index.entries.length := by
    rw [ids, List.mem_map]
    constructor
    · rintro ⟨position, hposition, rfl⟩
      exact List.mem_range.1 hposition
    · intro h
      exact ⟨id.index, List.mem_range.2 h, rfl⟩
  rw [hids, registration?]
  constructor
  · intro h
    exact ⟨index.entries[id.index], List.getElem?_eq_getElem h⟩
  · rintro ⟨r, hr⟩
    exact (List.getElem?_eq_some_iff.1 hr).1

theorem nodup_ids (index : ContractIndex) : index.ids.Nodup :=
  List.nodup_range.map fun _ _ h => congrArg ContractId.index h

/-- Registrations of one name have one identity. -/
theorem eq_of_qualified_eq {index : ContractIndex} {id other : ContractId}
    {r s : Registration} (hr : index.registration? id = some r)
    (hs : index.registration? other = some s) (h : r.qualified = s.qualified) :
    id = other := by
  have hname : ∀ {i : ContractId} {t : Registration}, index.registration? i = some t →
      (index.entries.map Registration.qualified)[i.index]? = some t.qualified := by
    intro i t ht
    rw [registration?] at ht
    rw [List.getElem?_map, ht]
    rfl
  have hlt : id.index < (index.entries.map Registration.qualified).length :=
    (List.getElem?_eq_some_iff.1 (hname hr)).1
  have hindex : id.index = other.index := by
    refine (List.getElem?_inj hlt index.distinct).1 ?_
    rw [hname hr, hname hs, h]
  cases id
  cases other
  exact congrArg ContractId.mk hindex

/-- A name is found at an identity exactly when the registration there bears it. -/
theorem lookup_eq_some_iff {index : ContractIndex} {name : String} {id : ContractId} :
    index.lookup name = some id ↔
      ∃ r, index.registration? id = some r ∧ r.qualified = name := by
  -- Any registration that bears the name is the one found, because names are distinct.
  have found : ∀ {i : ContractId}, index.lookup name = some i →
      ∃ r, index.registration? i = some r ∧ r.qualified = name := by
    intro i h
    rw [lookup, Option.map_eq_some_iff] at h
    obtain ⟨position, hposition, rfl⟩ := h
    obtain ⟨hlt, hname, -⟩ := List.findIdx?_eq_some_iff_getElem.1 hposition
    exact ⟨index.entries[position], List.getElem?_eq_getElem hlt, by simpa using hname⟩
  constructor
  · exact found
  · rintro ⟨r, hr, hname⟩
    have hmem : r ∈ index.entries := List.mem_of_getElem? hr
    have hsome : (index.lookup name).isSome := by
      rw [lookup, Option.isSome_map, List.findIdx?_isSome, List.any_eq_true]
      exact ⟨r, hmem, by simpa using hname⟩
    obtain ⟨i, hi⟩ := Option.isSome_iff_exists.1 hsome
    obtain ⟨s, hs, hsname⟩ := found hi
    rw [hi, eq_of_qualified_eq hs hr (hsname.trans hname.symm)]

/-- A name is not found when no registration bears it. -/
theorem lookup_eq_none_iff {index : ContractIndex} {name : String} :
    index.lookup name = none ↔ name ∉ index.entries.map Registration.qualified := by
  simp [lookup, List.findIdx?_eq_none_iff]

/-- A name is found at an identity exactly when the contract there bears it. -/
theorem lookup_eq_some_iff_contract? {index : ContractIndex} {name : String}
    {id : ContractId} :
    index.lookup name = some id ↔
      ∃ c, index.contract? id = some c ∧ c.name.qualified = name := by
  rw [lookup_eq_some_iff]
  constructor
  · rintro ⟨r, hr, hname⟩
    exact ⟨r.contract, contract?_eq_some_iff.2 ⟨r, hr, rfl⟩, hname⟩
  · rintro ⟨c, hc, hname⟩
    obtain ⟨r, hr, rfl⟩ := contract?_eq_some_iff.1 hc
    exact ⟨r, hr, hname⟩

/-- What a look-up finds is registered. -/
theorem registered_of_lookup {index : ContractIndex} {name : String} {id : ContractId}
    (h : index.lookup name = some id) : ∃ c, index.contract? id = some c := by
  obtain ⟨r, hr, -⟩ := lookup_eq_some_iff.1 h
  exact ⟨r.contract, contract?_eq_some_iff.2 ⟨r, hr, rfl⟩⟩

end ClassSynthesis.ContractIndex
