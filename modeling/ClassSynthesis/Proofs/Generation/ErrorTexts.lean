import ClassSynthesis.Proofs.Diagnostic.Template
import ClassSynthesis.Proofs.Generation.Diagnostics

/-!
# The Texts of Synthesis Errors

The text that reports a synthesis error is the template of its message, filled at once with the
arguments of the error after they have been settled. The arguments stand in it as they are unless
the first one has the place for the second in it
(`SynthesisError.arguments_verbatim_iff`).
-/

namespace ClassSynthesis

open Message (formatTogether pieces place settle)

/-- Every such message has a place for its first argument. -/
theorem ModelError.place_zero_mem (e : ModelError) :
    .place 0 ∈ pieces e.registered.template :=
  Message.place_zero_mem_registered _ e.registered_mem_registered e.category_registered

namespace SynthesisError

/-- An error has one argument or two. -/
theorem arguments_eq (e : SynthesisError) :
    (∃ name, e.arguments = [name]) ∨ ∃ name detail, e.arguments = [name, detail] := by
  obtain ⟨contract, cause⟩ := e
  cases cause with
  | unknownParent | unexpectedKind | inheritanceTooDeep => exact .inr ⟨_, _, rfl⟩
  | unknownContract | emptyMemberName | duplicateContract => exact .inl ⟨_, rfl⟩

variable (e : SynthesisError) (file : String)

theorem text_diagnostic :
    (e.diagnostic file).text =
      formatTogether e.cause.registered.template (settle e.arguments) := by
  rw [diagnostic_eq, Diagnostic.ofMessage]
  exact Message.format_registered e.cause.registered_mem_registered e.arguments

/-- Settling the arguments shows in the text. -/
theorem text_diagnostic_eq_iff_settle :
    (e.diagnostic file).text = formatTogether e.cause.registered.template e.arguments ↔
      settle e.arguments = e.arguments := by
  rw [text_diagnostic]
  rcases e.arguments_eq with ⟨name, harguments⟩ | ⟨name, detail, harguments⟩
  · rw [harguments, Message.settle_singleton]
    simp
  · rw [harguments, Message.settle_pair, List.cons.injEq, and_iff_left rfl]
    exact (Message.formatTogether_injective e.cause.place_zero_mem [detail]).eq_iff

/-- The text of an error is its template with each argument, settled, in its place. The arguments
stand there as they are exactly when the first does not contain the place for the second, or the
second is that place. -/
theorem arguments_verbatim_iff :
    (e.diagnostic file).text =
        formatTogether e.cause.registered.template (settle e.arguments) ∧
      ((e.diagnostic file).text = formatTogether e.cause.registered.template e.arguments ↔
        ∀ name detail, e.arguments = [name, detail] →
          place 1 <:+: name.toList → detail.toList = place 1) := by
  refine ⟨e.text_diagnostic file, ?_⟩
  rw [text_diagnostic_eq_iff_settle]
  rcases e.arguments_eq with ⟨name, harguments⟩ | ⟨name, detail, harguments⟩
  · simp [harguments, Message.settle_singleton]
  · rw [harguments, Message.settle_pair_eq_self_iff]
    simp

/-- A name that contains the place for the second argument is not reported as it is. -/
theorem name_with_place_overwritten :
    let e : SynthesisError := ⟨"IBox\x7b1\x7d", .unknownParent "IBox\x7b1\x7d" "IPart"⟩
    (e.diagnostic "").text = "Contract 'IBoxIPart' extends unknown contract 'IPart'." ∧
      formatTogether e.cause.registered.template e.arguments =
        "Contract 'IBox\x7b1\x7d' extends unknown contract 'IPart'." := by
  decide +kernel

end SynthesisError

end ClassSynthesis
