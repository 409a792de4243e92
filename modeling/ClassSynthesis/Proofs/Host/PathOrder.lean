import ClassSynthesis.Host.Inputs

/-!
# The Order of Paths

Components are ordered by kind first and names then by their text (`Component.compare_eq_lex`),
which is a total order; so the order of paths, component by component, is one too, and two paths
are equal in it when they are the same (`compare_eq_eq_iff`). Sorting the paths found in a
directory puts them in that order, and where no two are the same, strictly (`sortPaths_strict`).
-/

namespace ClassSynthesis

namespace Path

namespace Component

/-- The text of a name; the other components have none. -/
def text : Component → String
  | name text => text
  | _ => ""

/-- Kinds are compared first, and then texts, which decide between names only. -/
theorem compare_eq_lex :
    (Ord.compare : Component → Component → Ordering) =
      compareLex (compareOn rank) (compareOn text) := by
  funext a b
  cases a with
  | name s =>
    cases b with
    | name t =>
      show Ord.compare s t = (Ord.compare 3 3).then (Ord.compare s t)
      rfl
    | _ => rfl
  | _ => cases b <;> rfl

instance : Std.TransOrd Component :=
  (compare_eq_lex ▸ inferInstance :
    Std.TransCmp (Ord.compare : Component → Component → Ordering))

theorem eq_of_rank_text {a b : Component} (hrank : a.rank = b.rank) (htext : a.text = b.text) :
    a = b := by
  cases a with
  | name s =>
    cases b with
    | name t => exact congrArg name htext
    | _ => cases hrank
  | _ => cases b <;> first | rfl | cases hrank

instance : Std.LawfulEqOrd Component where
  compare_self := Std.ReflCmp.compare_self
  eq_of_compare {a b} h := by
    rw [compare_eq_lex, compareLex_eq_eq] at h
    exact eq_of_rank_text (Std.LawfulEqCmp.eq_of_compare h.1) (Std.LawfulEqCmp.eq_of_compare h.2)

end Component

instance : Std.TransCmp compare :=
  inferInstanceAs (Std.TransCmp (compareOn components))

variable {a b : String}

theorem same_eq_true_iff : same a b = true ↔ components a = components b := beq_iff_eq

theorem same_eq_false_iff : same a b = false ↔ components a ≠ components b := beq_eq_false_iff_ne

theorem same_comm (a b : String) : same a b = same b a := Bool.beq_comm

/-- Paths are equal in the order when they are the same. -/
theorem compare_eq_eq_iff : compare a b = .eq ↔ same a b = true := by
  rw [same_eq_true_iff, compare, Std.LawfulEqOrd.compare_eq_iff_eq]

/-- Paths that are not the same and come in order come strictly in order. -/
theorem compare_eq_lt_of_isLE (h : (compare a b).isLE = true) (hne : same a b = false) :
    compare a b = .lt := by
  cases hcompare : compare a b with
  | lt => rfl
  | eq => rw [compare_eq_eq_iff.1 hcompare] at hne; cases hne
  | gt => rw [hcompare] at h; cases h

/-- A path that comes strictly after another is not the same. -/
theorem same_eq_false_of_lt (h : compare a b = .lt) : same a b = false := by
  rw [Bool.eq_false_iff]
  intro hsame
  rw [compare_eq_eq_iff.2 hsame] at h
  cases h

end Path

/-- Sorting only changes the order. -/
theorem mem_sortPaths {paths : List String} {path : String} :
    path ∈ sortPaths paths ↔ path ∈ paths :=
  (List.mergeSort_perm paths _).mem_iff

/-- Paths no two of which are the same are sorted strictly. -/
theorem sortPaths_strict {paths : List String}
    (h : paths.Pairwise fun a b => Path.same a b = false) :
    (sortPaths paths).Pairwise fun a b => Path.compare a b = .lt := by
  have hsorted : (sortPaths paths).Pairwise fun a b => (Path.compare a b).isLE = true := by
    apply List.pairwise_mergeSort
    · intro a b c hab hbc
      exact Std.TransCmp.isLE_trans hab hbc
    · intro a b
      have hswap : Path.compare b a = (Path.compare a b).swap := Std.OrientedCmp.eq_swap
      rw [hswap]
      cases Path.compare a b <;> rfl
  have hdistinct : (sortPaths paths).Pairwise fun a b => Path.same a b = false := by
    apply (List.mergeSort_perm paths _).symm.pairwise h
    intro a b hab
    rwa [Path.same_comm]
  exact hsorted.imp₂ (fun a b => Path.compare_eq_lt_of_isLE) hdistinct

end ClassSynthesis
