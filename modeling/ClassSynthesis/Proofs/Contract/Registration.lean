import ClassSynthesis.Host.Inputs
import Mathlib.Data.List.Nodup

/-!
# Registering Contracts

Registration adds contracts behind those that an index has. It succeeds when some index has
exactly these registrations, because an index cannot have two contracts of one name. So what
a sequence of model files makes, and whether it makes anything, depends on the list of all
their registrations only (`registerFiles_eq_ok_iff`).
-/

namespace ClassSynthesis

namespace ContractIndex

variable {index next : ContractIndex}

/-- An index is the list of its registrations. -/
theorem eq_of_entries_eq {other : ContractIndex} (h : index.entries = other.entries) :
    index = other := by
  cases index
  cases other
  cases h
  rfl

/-- Registrations in front of others make an index of their own. -/
theorem exists_of_entries_eq_append {front back : List Registration}
    (h : index.entries = front ++ back) : ∃ first : ContractIndex, first.entries = front := by
  have hdistinct := index.distinct
  rw [h, List.map_append] at hdistinct
  exact ⟨⟨front, hdistinct.of_append_left⟩, rfl⟩

/-- One more contract gets the next position and stands behind the others. -/
theorem register_eq_ok_iff {r : Registration} {id : ContractId} :
    index.register r = .ok (id, next) ↔
      id = ⟨index.size⟩ ∧ next.entries = index.entries ++ [r] := by
  rw [register]
  constructor
  · intro h
    split at h
    · cases h
      exact ⟨rfl, rfl⟩
    · cases h
  · rintro ⟨rfl, hentries⟩
    -- The name is not taken, because the index with this entry has distinct names.
    have hfresh : index.entries.all (·.qualified != r.qualified) := by
      have hdistinct := next.distinct
      rw [hentries, List.map_append, List.nodup_append] at hdistinct
      refine List.all_eq_true.2 fun entry hentry => bne_iff_ne.2 ?_
      exact hdistinct.2.2 _ (List.mem_map_of_mem hentry) _ (List.mem_singleton.2 rfl)
    rw [dif_pos hfresh]
    congr 2
    exact eq_of_entries_eq hentries.symm

/-- Contracts are registered when there is an index with them behind those it has. -/
theorem registerAll_eq_ok_iff {registrations : List Registration} :
    (∃ ids, index.registerAll registrations = (.ok ids, next)) ↔
      next.entries = index.entries ++ registrations := by
  induction registrations generalizing index with
  | nil =>
    rw [List.append_nil]
    constructor
    · rintro ⟨ids, h⟩
      cases h
      rfl
    · intro h
      rw [eq_of_entries_eq h]
      exact ⟨[], rfl⟩
  | cons r rest ih =>
    rw [List.append_cons]
    constructor
    · rintro ⟨ids, h⟩
      rw [registerAll] at h
      cases hregister : index.register r with
      | error e =>
        rw [hregister] at h
        cases h
      | ok registered =>
        obtain ⟨id, mid⟩ := registered
        obtain ⟨-, hmid⟩ := register_eq_ok_iff.1 hregister
        rw [hregister] at h
        dsimp only at h
        cases hresult : mid.registerAll rest with
        | mk result last =>
          rw [hresult, Prod.mk.injEq] at h
          obtain ⟨hids, rfl⟩ := h
          cases result with
          | error e => cases hids
          | ok others =>
            rw [← hmid]
            exact ih.1 ⟨others, hresult⟩
    · intro h
      -- The index on the way consists of the first registrations of the one to be reached.
      obtain ⟨mid, hmid⟩ := exists_of_entries_eq_append h
      have hregister := register_eq_ok_iff.2 ⟨rfl, hmid⟩
      rw [← hmid] at h
      obtain ⟨ids, hids⟩ := ih.2 h
      refine ⟨⟨index.size⟩ :: ids, ?_⟩
      rw [registerAll, hregister]
      dsimp only
      rw [hids]
      rfl

end ContractIndex

/-- The registrations that model files ask for, in order. Each contract remembers the path
of its file. -/
def registrationsOf (files : List (String × ModelFile)) : List Registration :=
  files.flatMap fun (path, model) => model.contracts.map (·.toRegistration path)

@[simp]
theorem registrationsOf_nil : registrationsOf [] = [] := rfl

@[simp]
theorem registrationsOf_cons (path : String) (model : ModelFile)
    (rest : List (String × ModelFile)) :
    registrationsOf ((path, model) :: rest) =
      model.contracts.map (·.toRegistration path) ++ registrationsOf rest := rfl

/-- Model files are registered when there is an index with all their registrations behind
those it has. -/
theorem ContractIndex.registerFiles_eq_ok_iff {index next : ContractIndex}
    {files : List (String × ModelFile)} :
    index.registerFiles files = .ok next ↔
      next.entries = index.entries ++ registrationsOf files := by
  induction files generalizing index with
  | nil =>
    rw [registrationsOf_nil, List.append_nil]
    constructor
    · intro h
      cases h
      rfl
    · intro h
      rw [eq_of_entries_eq h]
      rfl
  | cons file rest ih =>
    obtain ⟨path, model⟩ := file
    rw [registrationsOf_cons, ← List.append_assoc, registerFiles]
    constructor
    · intro h
      cases hresult : model.register path index with
      | mk result mid =>
        rw [hresult] at h
        cases result with
        | error e => cases h
        | ok ids =>
          rw [← registerAll_eq_ok_iff.1 ⟨ids, hresult⟩]
          exact ih.1 h
    · intro h
      -- The entries up to the end of the first file are those of the index in between.
      obtain ⟨mid, hmid⟩ := exists_of_entries_eq_append h
      obtain ⟨ids, hids⟩ := registerAll_eq_ok_iff.2 hmid
      rw [← hmid] at h
      rw [ModelFile.register, hids]
      exact ih.2 h

end ClassSynthesis
