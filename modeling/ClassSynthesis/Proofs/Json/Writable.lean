import ClassSynthesis.Proofs.Json.Grammar
import Mathlib.Data.List.Nodup

/-!
# What Can Be Written

The grammar leaves out no value: there is a text for every string, and for a sequence or a record
if there is one for each of its parts. The texts given here are the plainest, without blanks and
with escapes only where a character needs one.
-/

namespace ClassSynthesis.Json

/-! ## Strings -/

theorem exists_hexDigits {n : Nat} (h : n < 0x10000) : ∃ digits, HexDigits n digits := by
  refine ⟨[n / 4096, n / 256 % 16, n / 16 % 16, n % 16].map Nat.digitChar, ?_⟩
  rw [HexDigits, List.forall₂_map_right_iff, List.forall₂_same]
  intro value hvalue
  simp only [List.mem_cons, List.not_mem_nil, or_false] at hvalue
  exact ⟨by omega, .inl rfl⟩

theorem exists_charText (c : Char) : ∃ text, CharText c text := by
  by_cases hquote : c = '"'
  · have hshort : ('"', c) ∈ shortEscapes := by simp [hquote, shortEscapes]
    exact ⟨_, .short hshort⟩
  by_cases hbackslash : c = '\\'
  · have hshort : ('\\', c) ∈ shortEscapes := by simp [hbackslash, shortEscapes]
    exact ⟨_, .short hshort⟩
  by_cases hvisible : ' ' ≤ c
  · exact ⟨_, .plain ⟨hquote, hbackslash, hvisible⟩⟩
  · have hcode : c.toNat < 0x20 := by
      rw [Char.not_le, Char.lt_def, UInt32.lt_iff_toNat_lt] at hvisible
      exact hvisible
    obtain ⟨digits, hdigits⟩ := exists_hexDigits (Nat.lt_trans hcode (by decide))
    exact ⟨_, .code hdigits⟩

theorem exists_stringText (s : String) : ∃ text, StringText s text := by
  choose part hpart using exists_charText
  refine ⟨_, s.toList.map part, ?_, rfl⟩
  rw [List.forall₂_map_right_iff, List.forall₂_same]
  exact fun c _ => hpart c

/-! ## Sequences and records -/

section

variable {α : Type} {item : α → List Char → Prop} {as : List α}

theorem exists_moreItems (h : ∀ a ∈ as, ∃ text, item a text) : ∃ more, MoreItems item as more := by
  induction as with
  | nil => exact ⟨_, .nil blank_nil⟩
  | cons a as ih =>
    obtain ⟨text, htext⟩ := h a List.mem_cons_self
    obtain ⟨more, hmore⟩ := ih fun a ha => h a (List.mem_cons_of_mem _ ha)
    exact ⟨_, .cons blank_nil blank_nil htext hmore⟩

theorem exists_items (h : ∀ a ∈ as, ∃ text, item a text) : ∃ body, Items item as body := by
  cases as with
  | nil => exact ⟨_, .nil blank_nil⟩
  | cons a as =>
    obtain ⟨text, htext⟩ := h a List.mem_cons_self
    obtain ⟨more, hmore⟩ := exists_moreItems fun a ha => h a (List.mem_cons_of_mem _ ha)
    exact ⟨_, .cons blank_nil htext hmore⟩

theorem exists_sequenceText (h : ∀ a ∈ as, ∃ text, item a text) :
    ∃ text, SequenceText item as text := by
  obtain ⟨body, hbody⟩ := exists_items h
  exact ⟨_, body, hbody, rfl⟩

end

/-- All fields of a record are written, in the order of their forms. -/
theorem exists_recordText {ρ : Type} {forms : List (FieldForm ρ)} {r : ρ}
    (hdistinct : (forms.map FieldForm.name).Nodup)
    (h : ∀ form ∈ forms, ∃ text, form.text (form.get r) text) :
    ∃ text, RecordText forms r text := by
  choose text htext using h
  let entries := forms.attach.map fun form => (form.1.name, text form.1 form.2)
  have hnames : entries.map Prod.fst = forms.map FieldForm.name := by
    simp [entries, Function.comp_def]
  have hwrites : WritesRecord forms r entries := {
    written := by
      intro e he form hform hname
      obtain ⟨⟨other, hother⟩, -, rfl⟩ := List.mem_map.1 he
      obtain rfl := List.inj_on_of_nodup_map hdistinct hform hother hname
      exact htext form hform
    once := by
      rw [hnames]
      exact hdistinct.filter _
    complete := by
      intro form hform
      rw [hnames]
      exact .inl (List.mem_map_of_mem hform)
    other := by
      intro e he hother
      rw [← hnames] at hother
      exact absurd (List.mem_map_of_mem he) hother }
  obtain ⟨body, hbody⟩ : ∃ body, Items (fun e entry =>
      ∃ key, StringText e.1 key ∧ EntryText key e.2 entry) entries body := by
    refine exists_items fun e _ => ?_
    obtain ⟨key, hkey⟩ := exists_stringText e.1
    exact ⟨_, key, hkey, [], [], blank_nil, blank_nil, rfl⟩
  exact ⟨_, entries, hwrites, body, hbody, rfl⟩

end ClassSynthesis.Json
