import ClassSynthesis.Text.Replace
import Mathlib.Data.List.Infix

/-!
# Replacing a Pattern

A text is read along a pattern: it begins with an occurrence, which is replaced, or with a
character that stays (`Text.pattern_induction`). A character that the pattern does not have cuts a
text in two that are read on their own (`Text.replaceAll_append_cons`). A text stays as it is
exactly when the pattern does not occur in it or is replaced by itself
(`Text.replaceAll_eq_self_iff`).
-/

namespace ClassSynthesis.Text

variable {first c : Char} {others replacement cs ds : List Char}

/-- Characters that belong to an occurrence already replaced are dropped. -/
theorem replaceAfter_eq (skip : Nat) (cs : List Char) :
    replaceAfter first others replacement skip cs =
      replaceAll first others replacement (cs.drop skip) := by
  induction cs generalizing skip with
  | nil => simp [replaceAll, replaceAfter]
  | cons c cs ih =>
    cases skip with
    | zero => rfl
    | succ skip => rw [replaceAfter, ih, List.drop_succ_cons]

@[simp] theorem replaceAll_nil : replaceAll first others replacement [] = [] := rfl

/-- An occurrence at the beginning is replaced. -/
theorem replaceAll_append (rest : List Char) :
    replaceAll first others replacement (first :: (others ++ rest)) =
      replacement ++ replaceAll first others replacement rest := by
  have hbegin : (first :: others).isPrefixOf (first :: (others ++ rest)) = true := by
    rw [List.isPrefixOf_iff_prefix]
    exact List.prefix_append (first :: others) rest
  rw [replaceAll, replaceAfter, if_pos hbegin, replaceAfter_eq, List.drop_left]

theorem replaceAll_pattern :
    replaceAll first others replacement (first :: others) = replacement := by
  have h : replaceAll first others replacement (first :: (others ++ [])) = replacement ++ [] :=
    replaceAll_append []
  rwa [List.append_nil, List.append_nil] at h

/-- A character stays where no occurrence begins. -/
theorem replaceAll_cons (h : ¬ first :: others <+: c :: cs) :
    replaceAll first others replacement (c :: cs) =
      c :: replaceAll first others replacement cs := by
  rw [← List.isPrefixOf_iff_prefix] at h
  rw [replaceAll, replaceAfter, if_neg h]
  rfl

theorem replaceAll_cons_of_ne (h : c ≠ first) :
    replaceAll first others replacement (c :: cs) =
      c :: replaceAll first others replacement cs := by
  apply replaceAll_cons
  intro hbegin
  exact h (List.cons_prefix_cons.1 hbegin).1.symm

/-- To prove something of all texts, read them along a pattern. -/
theorem pattern_induction (first : Char) (others : List Char) {motive : List Char → Prop}
    (nil : motive [])
    (occurrence : ∀ rest, motive rest → motive (first :: (others ++ rest)))
    (other : ∀ c cs, ¬ first :: others <+: c :: cs → motive cs → motive (c :: cs))
    (cs : List Char) : motive cs := by
  -- What is read next can be longer than a character, so the induction is on the length.
  induction hlength : cs.length using Nat.strongRecOn generalizing cs with
  | _ length ih =>
    cases cs with
    | nil => exact nil
    | cons c cs =>
      subst hlength
      by_cases hbegin : first :: others <+: c :: cs
      · obtain ⟨rest, hrest⟩ := hbegin
        rw [List.cons_append] at hrest
        rw [← hrest]
        refine occurrence rest (ih rest.length ?_ rest rfl)
        rw [← hrest, List.length_cons, List.length_append]
        omega
      · exact other c cs hbegin (ih cs.length (Nat.lt_succ_self _) cs rfl)

/-- Nothing is replaced where the pattern does not occur. -/
theorem replaceAll_of_not_occurs (h : ¬ first :: others <:+: cs) :
    replaceAll first others replacement cs = cs := by
  induction cs with
  | nil => rfl
  | cons c cs ih =>
    rw [List.infix_cons_iff, not_or] at h
    rw [replaceAll_cons h.1, ih h.2]

/-- Nothing is replaced where the pattern cannot begin. -/
theorem replaceAll_of_not_mem (h : first ∉ cs) :
    replaceAll first others replacement cs = cs := by
  apply replaceAll_of_not_occurs
  intro hoccur
  exact h (hoccur.subset List.mem_cons_self)

/-- A character that the pattern does not have separates a text. -/
theorem replaceAll_append_cons (h : c ∉ first :: others) :
    replaceAll first others replacement (cs ++ c :: ds) =
      replaceAll first others replacement cs ++ c :: replaceAll first others replacement ds := by
  induction cs using pattern_induction first others with
  | nil =>
    have hne : c ≠ first := fun heq => h (heq ▸ List.mem_cons_self)
    rw [List.nil_append, replaceAll_cons_of_ne hne]
    rfl
  | occurrence rest ih =>
    rw [List.cons_append, List.append_assoc, replaceAll_append, ih, replaceAll_append,
      List.append_assoc]
  | other d cs hbegin ih =>
    have hlong : ¬ first :: others <+: d :: (cs ++ c :: ds) := by
      intro hlong
      have hupTo : d :: cs ++ [c] <+: d :: (cs ++ c :: ds) := ⟨ds, by simp⟩
      -- An occurrence that begins before the character ends before it too.
      rcases List.prefix_or_prefix_of_prefix hlong hupTo with hshort | hbeyond
      · rcases List.prefix_concat_iff.1 hshort with heq | hbefore
        · rw [heq] at h
          simp at h
        · exact hbegin hbefore
      · exact h (hbeyond.subset (by simp))
    rw [List.cons_append, replaceAll_cons hlong, ih, replaceAll_cons hbegin, List.cons_append]

/-- A pattern that is replaced by itself stays. -/
theorem replaceAll_self (cs : List Char) : replaceAll first others (first :: others) cs = cs := by
  induction cs using pattern_induction first others with
  | nil => rfl
  | occurrence rest ih => rw [replaceAll_append, ih, List.cons_append]
  | other c cs hbegin ih => rw [replaceAll_cons hbegin, ih]

/-- Every occurrence that is replaced changes the length by the same amount. -/
theorem exists_length_replaceAll (first : Char) (others replacement cs : List Char) :
    ∃ count, (replaceAll first others replacement cs).length + count * (others.length + 1) =
      cs.length + count * replacement.length := by
  induction cs using pattern_induction first others with
  | nil => exact ⟨0, by simp⟩
  | occurrence rest ih =>
    obtain ⟨count, hcount⟩ := ih
    refine ⟨count + 1, ?_⟩
    rw [replaceAll_append, List.length_cons, List.length_append, List.length_append,
      Nat.succ_mul, Nat.succ_mul]
    omega
  | other c cs hbegin ih =>
    obtain ⟨count, hcount⟩ := ih
    refine ⟨count, ?_⟩
    rw [replaceAll_cons hbegin, List.length_cons, List.length_cons]
    omega

/-- If a text stays as it is although the pattern occurs in it, the pattern is replaced by
itself. -/
theorem replacement_eq_of_replaceAll_eq_self
    (h : replaceAll first others replacement cs = cs) (hoccur : first :: others <:+: cs) :
    replacement = first :: others := by
  induction cs using pattern_induction first others with
  | nil => simp at hoccur
  | occurrence rest ih =>
    rw [replaceAll_append] at h
    have hlength := congrArg List.length h
    rw [List.length_append, List.length_cons, List.length_append] at hlength
    -- The rest cannot make up for a replacement of another length.
    have hsame : replacement.length = (first :: others).length := by
      obtain ⟨count, hcount⟩ := exists_length_replaceAll first others replacement rest
      apply Nat.eq_of_mul_eq_mul_left (Nat.succ_pos count)
      rw [Nat.succ_mul, Nat.succ_mul, List.length_cons]
      omega
    exact (List.append_inj h hsame).1
  | other c cs hbegin ih =>
    rw [replaceAll_cons hbegin] at h
    exact ih (List.cons.inj h).2 ((List.infix_cons_iff.1 hoccur).resolve_left hbegin)

/-- A text stays as it is exactly when the pattern does not occur in it or is replaced by
itself. -/
theorem replaceAll_eq_self_iff :
    replaceAll first others replacement cs = cs ↔
      (first :: others <:+: cs → replacement = first :: others) := by
  constructor
  · exact replacement_eq_of_replaceAll_eq_self
  · intro h
    by_cases hoccur : first :: others <:+: cs
    · rw [h hoccur]
      exact replaceAll_self cs
    · exact replaceAll_of_not_occurs hoccur

end ClassSynthesis.Text
