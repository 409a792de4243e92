import ClassSynthesis.Generation

/-!
# The Diagnostics of an Outcome

What the diagnostics of one contract consist of. The warning for a collided name points to
each declaration of that name once (`SynthesizedClass.collisionWarning_eq`); a synthesis that
was given up is reported by one registered message, which its cause determines, with the names
that belong to the cause as arguments (`SynthesisError.diagnostic_eq`).
-/

namespace ClassSynthesis

/-- Pointing to more places appends them in order. -/
theorem Diagnostic.foldl_withRelated {α : Type} (file : String) (contract : α → Option String)
    (text : α → String) (places : List α) (d : Diagnostic) :
    places.foldl (fun d place => d.withRelated file (contract place) (text place)) d =
      { d with related := d.related ++ places.map fun place =>
          { file, contract := contract place, text := text place } } := by
  induction places generalizing d with
  | nil => simp
  | cons place rest ih =>
    rw [List.foldl_cons, ih]
    simp [withRelated]

namespace SynthesizedClass

variable (c : SynthesizedClass) (file name : String)

/-- What is said about one declaration of a collided name. -/
def relatedPlace (o : MemberOrigin) : RelatedInformation where
  file
  contract := some o.contractName.qualified
  text := "'" ++ name ++ "' is declared here as " ++ o.member.type.display o.context ++ "."

/-- The warning for a collided name points to each declaration of it. -/
theorem collisionWarning_eq :
    c.collisionWarning file name =
      { Diagnostic.ofMessage file (some c.name.qualified) .contractQualifiedMember [name] with
        related := (c.originsNamed name).map (relatedPlace file name) } :=
  Diagnostic.foldl_withRelated ..

theorem isError_collisionWarning : (c.collisionWarning file name).isError = false := by
  rw [collisionWarning_eq]
  rfl

theorem code_collisionWarning :
    (c.collisionWarning file name).code = Message.contractQualifiedMember.code := by
  rw [collisionWarning_eq]
  rfl

end SynthesizedClass

/-- The message that reports an inconsistency. -/
def ModelError.registered : ModelError → Message
  | unknownParent _ _ => .unknownParent
  | unknownContract _ => .unknownContract
  | unexpectedKind _ _ => .unexpectedKind
  | emptyMemberName _ => .emptyMemberName
  | inheritanceTooDeep _ _ => .inheritanceTooDeep
  | duplicateContract _ => .duplicateContract

/-- The arguments of the message that reports a synthesis error. An error about an unknown
contract knows no name of its own, so it gets the one the contract is reported under. -/
def SynthesisError.arguments (e : SynthesisError) : List String :=
  match e.cause with
  | .unknownParent contract reference => [contract, reference]
  | .unknownContract _ => [e.contract]
  | .unexpectedKind name found => [name, found.name]
  | .emptyMemberName contract => [contract]
  | .inheritanceTooDeep contract limit => [contract, toString limit]
  | .duplicateContract name => [name]

/-- A synthesis that was given up is reported by the message for its cause. -/
theorem SynthesisError.diagnostic_eq (e : SynthesisError) (file : String) :
    e.diagnostic file = .ofMessage file (some e.contract) e.cause.registered e.arguments := by
  obtain ⟨contract, cause⟩ := e
  cases cause <;> rfl

theorem SynthesisError.exists_diagnostic_eq (e : SynthesisError) (file : String) :
    ∃ arguments, e.diagnostic file =
      .ofMessage file (some e.contract) e.cause.registered arguments :=
  ⟨e.arguments, e.diagnostic_eq file⟩

theorem ModelError.registered_mem_registered (e : ModelError) :
    e.registered ∈ Message.registered := by
  cases e <;> simp [registered, Message.registered]

/-- Every such message is an error. -/
theorem ModelError.category_registered (e : ModelError) :
    e.registered.category = .error := by
  cases e <;> rfl

/-- Only a missing parent is reported as one. -/
theorem ModelError.exists_eq_unknownParent {e : ModelError}
    (h : e.registered.code = Message.unknownParent.code) :
    ∃ child name, e = .unknownParent child name := by
  cases e with
  | unknownParent child name => exact ⟨child, name, rfl⟩
  | _ => simp [registered, Message.unknownParent, Message.unexpectedKind,
      Message.emptyMemberName, Message.inheritanceTooDeep, Message.unknownContract,
      Message.duplicateContract] at h

end ClassSynthesis
