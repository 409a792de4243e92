import ClassSynthesis.Json.Record
import ClassSynthesis.Proofs.Json.Decoding
import Mathlib.Data.List.Nodup

/-!
# Decoding Records

A record is read from every map that writes it (`RecordShape.reads_record`) if the decoder has
the fields of the forms, each read as its form says and into no other field
(`RecordShape.Fits`). While a map is read, the fields already there are those of the record and
the entries to come write the others (`RecordShape.Pending`); nothing depends on the order of
the entries.
-/

namespace ClassSynthesis.Json

variable {ρ : Type} {forms : List (FieldForm ρ)}

/-- A field is read as its form says, into this field only, and it has its default value before
it is read. -/
structure FieldForm.Fits (forms : List (FieldForm ρ)) (blank : ρ) (form : FieldForm ρ)
    (field : Field ρ) : Prop where
  name : field.name = form.name
  required : field.required = form.default?.isNone
  blank : ∀ value, form.default? = some value → form.get blank = value
  read : ∀ (draft : ρ) value text, form.text value text →
    ∃ next, Reads (field.read draft) text next ∧ form.get next = value ∧
      ∀ other ∈ forms, other.name ≠ form.name → other.get next = other.get draft

/-- A field whose value is put into the record fits a form if the value is read as the form says
and putting it there changes nothing else. -/
theorem FieldForm.Fits.ofDecoder {form : FieldForm ρ} {blank : ρ} {decoder : Decoder form.Value}
    {put : ρ → form.Value → ρ} {required : Bool}
    (hread : ∀ value text, form.text value text → Reads decoder text value)
    (hrequired : required = form.default?.isNone)
    (hblank : ∀ value, form.default? = some value → form.get blank = value)
    (hput : ∀ draft value, form.get (put draft value) = value)
    (hothers : ∀ draft value, ∀ other ∈ forms, other.name ≠ form.name →
      other.get (put draft value) = other.get draft) :
    form.Fits forms blank (.ofDecoder form.name required decoder put) where
  name := rfl
  required := hrequired
  blank := hblank
  read := fun draft value text h =>
    ⟨put draft value, (hread value text h).map (put draft), hput draft value, hothers draft value⟩

/-- A kind of record is read as its forms say, which together make out a record. -/
structure RecordShape.Fits (shape : RecordShape ρ) (forms : List (FieldForm ρ)) : Prop where
  fields : List.Forall₂ (FieldForm.Fits forms shape.blank) forms shape.fields
  distinct : (forms.map FieldForm.name).Nodup
  ext : ∀ r s, (∀ form ∈ forms, form.get r = form.get s) → r = s

private theorem exists_form_of_mem {P : FieldForm ρ → Field ρ → Prop} {fields : List (Field ρ)}
    (h : List.Forall₂ P forms fields) {field : Field ρ} (hfield : field ∈ fields) :
    ∃ form ∈ forms, P form field := by
  induction h with
  | nil => cases hfield
  | cons hfirst _ ih =>
    rcases List.mem_cons.1 hfield with rfl | hfield
    · exact ⟨_, List.mem_cons_self, hfirst⟩
    · obtain ⟨form, hform, hfits⟩ := ih hfield
      exact ⟨form, List.mem_cons_of_mem _ hform, hfits⟩

private theorem find?_of_forall₂ {P : FieldForm ρ → Field ρ → Prop} {fields : List (Field ρ)}
    (h : List.Forall₂ P forms fields) (hname : ∀ form field, P form field → field.name = form.name)
    (hdistinct : (forms.map FieldForm.name).Nodup) {form : FieldForm ρ} (hform : form ∈ forms) :
    ∃ field, fields.find? (·.name == form.name) = some field ∧ P form field := by
  induction h with
  | nil => cases hform
  | cons hfirst _ ih =>
    rename_i first field forms fields _
    rw [List.map_cons, List.nodup_cons] at hdistinct
    rcases List.mem_cons.1 hform with rfl | hform
    · exact ⟨field, List.find?_cons_of_pos (by simp [hname _ _ hfirst]), hfirst⟩
    · have hne : field.name ≠ form.name := by
        rw [hname _ _ hfirst]
        exact fun heq => hdistinct.1 (heq ▸ List.mem_map_of_mem hform)
      rw [List.find?_cons_of_neg (by simpa using hne)]
      exact ih hdistinct.2 hform

namespace RecordShape

variable {shape : RecordShape ρ} {r : ρ}

/-- What has been read of a record, and the entries still to be read. The fields read are those
of the record, the others are as before; the entries write the fields that are missing. -/
structure Pending (shape : RecordShape ρ) (forms : List (FieldForm ρ)) (r : ρ) (draft : Draft ρ)
    (entries : List (String × List Char)) : Prop where
  read : ∀ form ∈ forms,
    form.get draft.record = form.get (if form.name ∈ draft.seen then r else shape.blank)
  written : ∀ e ∈ entries, ∀ form ∈ forms, form.name = e.1 → form.text (form.get r) e.2
  once : (draft.seen ++ (entries.map Prod.fst).filter (· ∈ forms.map FieldForm.name)).Nodup
  complete : ∀ form ∈ forms, form.name ∈ draft.seen ++ entries.map Prod.fst ∨
    form.default? = some (form.get r)
  other : ∀ e ∈ entries, e.1 ∉ forms.map FieldForm.name → IsJson e.2

namespace Pending

variable {draft : Draft ρ} {e : String × List Char} {entries : List (String × List Char)}

/-- A field that has been read is no longer missing. -/
theorem of_field (fits : shape.Fits forms) (h : shape.Pending forms r draft (e :: entries))
    {form : FieldForm ρ} (hform : form ∈ forms) (hname : form.name = e.1) {record : ρ}
    (hget : form.get record = form.get r)
    (hothers : ∀ other ∈ forms, other.name ≠ form.name →
      other.get record = other.get draft.record) :
    shape.Pending forms r ⟨record, e.1 :: draft.seen⟩ entries where
  read := by
    intro other hother
    by_cases hsame : other.name = form.name
    · -- Names are distinct, so this is the field that has just been read.
      obtain rfl := List.inj_on_of_nodup_map fits.distinct hother hform hsame
      rw [hget, if_pos (by simp [hname])]
    · have hseen : other.name ∈ e.1 :: draft.seen ↔ other.name ∈ draft.seen := by
        simp [← hname, hsame]
      rw [hothers other hother hsame, h.read other hother]
      simp only [hseen]
  written := fun e' he' => h.written e' (List.mem_cons_of_mem _ he')
  once := by
    have hknown : e.1 ∈ forms.map FieldForm.name := hname ▸ List.mem_map_of_mem hform
    have honce := h.once
    rw [List.map_cons, List.filter_cons_of_pos (by simpa using hknown)] at honce
    -- The name goes from the entries left to those seen.
    exact List.perm_middle.nodup_iff.1 honce
  complete := by
    intro other hother
    refine (h.complete other hother).imp_left fun hmem => ?_
    rw [List.map_cons] at hmem
    exact List.perm_middle.mem_iff.1 hmem
  other := fun e' he' => h.other e' (List.mem_cons_of_mem _ he')

/-- An entry of another name is passed over. -/
theorem of_other (h : shape.Pending forms r draft (e :: entries))
    (hother : e.1 ∉ forms.map FieldForm.name) : shape.Pending forms r draft entries where
  read := h.read
  written := fun e' he' => h.written e' (List.mem_cons_of_mem _ he')
  once := by
    have honce := h.once
    rwa [List.map_cons, List.filter_cons_of_neg (by simpa using hother)] at honce
  complete := by
    intro form hform
    refine (h.complete form hform).imp_left fun hmem => ?_
    rw [List.map_cons, List.mem_append, List.mem_cons] at hmem
    have hne : form.name ≠ e.1 := fun heq => hother (heq ▸ List.mem_map_of_mem hform)
    simpa [hne] using hmem
  other := fun e' he' => h.other e' (List.mem_cons_of_mem _ he')

/-- An entry is read in front of the others. -/
theorem advance (fits : shape.Fits forms) {text : List Char}
    (h : shape.Pending forms r draft (e :: entries))
    (htext : ∃ key, StringText e.1 key ∧ EntryText key e.2 text) :
    ∃ next, Advances shape.entry draft text next ∧ shape.Pending forms r next entries := by
  obtain ⟨key, hkey, before, after, hbefore, hafter, rfl⟩ := htext
  obtain ⟨key, rfl⟩ : ∃ behind, key = '"' :: behind := by
    obtain ⟨parts, -, rfl⟩ := hkey
    exact ⟨_, rfl⟩
  have hnameRead : ∀ rest, Leaves (string (key ++ (before ++ ':' :: (after ++ e.2)) ++ rest)) e.1
      (before ++ ':' :: (after ++ (e.2 ++ rest))) := by
    intro rest
    have happend : key ++ (before ++ ':' :: (after ++ e.2)) ++ rest =
        key ++ (before ++ ':' :: (after ++ (e.2 ++ rest))) := by simp
    rw [happend]
    exact string_append hkey _
  by_cases hknown : e.1 ∈ forms.map FieldForm.name
  · obtain ⟨form, hform, hname⟩ := List.mem_map.1 hknown
    obtain ⟨field, hfind, hfits⟩ := find?_of_forall₂ fits.fields (fun _ _ h => h.name)
      fits.distinct hform
    rw [hname] at hfind
    obtain ⟨record, hreads, hget, hothers⟩ :=
      hfits.read draft.record _ e.2 (h.written e List.mem_cons_self form hform hname)
    refine ⟨_, ⟨_, rfl, fun rest hrest => ?_⟩, h.of_field fits hform hname hget hothers⟩
    -- Had the field been read before, its name would occur twice among those of the entries.
    have hunseen : ¬ draft.seen.contains e.1 = true := by
      rw [List.contains_iff_mem]
      have honce := h.once
      rw [List.map_cons, List.filter_cons_of_pos (by simpa using hknown)] at honce
      exact fun hseen => (List.disjoint_of_nodup_append honce) hseen List.mem_cons_self
    refine (hnameRead rest).bind fun shorter => ?_
    dsimp only
    rw [hfind]
    dsimp only
    rw [if_neg hunseen]
    exact (entryValue_append hreads hbefore hafter hrest).bind fun shorter => .ok _
  · -- No field has this name, so the value is passed over, whatever it is.
    refine ⟨draft, ⟨_, rfl, fun rest hrest => ?_⟩, h.of_other hknown⟩
    have hskip := reads_skipValue (h.other e List.mem_cons_self hknown)
    have hfind : shape.fields.find? (·.name == e.1) = none := by
      rw [List.find?_eq_none]
      intro field hfield heq
      obtain ⟨form, hform, hfits⟩ := exists_form_of_mem fits.fields hfield
      rw [← beq_iff_eq.1 heq, hfits.name] at hknown
      exact hknown (List.mem_map_of_mem hform)
    refine (hnameRead rest).bind fun shorter => ?_
    dsimp only
    rw [hfind]
    exact (entryValue_append hskip hbefore hafter hrest).bind fun shorter => .ok _

end Pending

/-- A record of which nothing is to be read any more is complete. -/
theorem Pending.record_eq {draft : Draft ρ} (fits : shape.Fits forms)
    (h : shape.Pending forms r draft []) :
    draft.record = r ∧ shape.missing? draft = none := by
  constructor
  · refine fits.ext _ _ fun form hform => ?_
    rw [h.read form hform]
    split
    next => rfl
    next hunseen =>
      obtain ⟨field, -, hfits⟩ := find?_of_forall₂ fits.fields (fun _ _ h => h.name)
        fits.distinct hform
      have hcomplete := h.complete form hform
      rw [List.map_nil, List.append_nil] at hcomplete
      exact hfits.blank _ (hcomplete.resolve_left hunseen)
  · unfold missing?
    rw [List.find?_eq_none]
    intro field hfield hmissing
    obtain ⟨form, hform, hfits⟩ := exists_form_of_mem fits.fields hfield
    rw [Bool.and_eq_true, hfits.required, hfits.name] at hmissing
    have hcomplete := h.complete form hform
    rw [List.map_nil, List.append_nil] at hcomplete
    rcases hcomplete with hseen | hdefault
    · simp [hseen] at hmissing
    · simp [hdefault] at hmissing

/-- A record is read from a map that writes it. -/
theorem reads_record (fits : shape.Fits forms) {text : List Char} (h : RecordText forms r text) :
    Reads shape.decoder text r := by
  obtain ⟨es, hwrites, body, hbody, rfl⟩ := h
  have hstart : shape.Pending forms r ⟨shape.blank, []⟩ es := {
    read := by simp
    written := hwrites.written
    once := hwrites.once
    complete := hwrites.complete
    other := hwrites.other }
  refine .afterBlanks (starts_of_mem (by simp) _) fun rest _ => ?_
  obtain ⟨draft, blanks, hdone, hblanks, hread⟩ :=
    entries_append (shape.Pending forms r) (fun _ _ _ _ hpending hentry =>
      hpending.advance fits hentry) hbody hstart rest
  obtain ⟨hrecord, hmissing⟩ := hdone.record_eq fits
  have hmap : Leaves (shape.ofMap (body ++ ['\x7d'] ++ rest)) r rest := by
    refine hread.bind fun noLonger => ?_
    dsimp only
    rw [hmissing, closing_eq (significant_close brace_closes hblanks rest), hrecord]
    exact .ok _
  exact hmap.bind fun shorter => .ok _

end RecordShape

end ClassSynthesis.Json
