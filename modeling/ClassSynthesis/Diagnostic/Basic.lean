import ClassSynthesis.Diagnostic.Message

/-!
# Diagnostics

A finding about a contract. Models carry no positions, so a diagnostic is located by the
model file and the qualified name of the contract.
-/

namespace ClassSynthesis

/-- A further place that a diagnostic points to. -/
structure RelatedInformation where
  /-- The model file. -/
  file : String
  /-- The contract. -/
  contract : Option String
  /-- What is to be said about the place. -/
  text : String
  /-- The category. -/
  category : Category := .message
  /-- The code; zero when there is none. -/
  code : Nat := 0
  deriving DecidableEq, Repr

/-- A finding about a contract or about a whole batch. -/
structure Diagnostic where
  /-- The model file; empty when there is none. -/
  file : String
  /-- The contract it concerns. -/
  contract : Option String
  /-- What was found. -/
  text : String
  /-- How serious it is. -/
  category : Category
  /-- The code; zero when there is none. -/
  code : Nat
  /-- Further places. -/
  related : List RelatedInformation := []
  deriving DecidableEq, Repr

namespace Diagnostic

/-- A diagnostic with the wording and category of a registered message. -/
def ofMessage (file : String) (contract : Option String) (message : Message)
    (arguments : List String) : Diagnostic where
  file
  contract
  text := Message.format message.template arguments
  category := message.category
  code := message.code

/-- An error with a wording of its own. -/
def error (file : String) (contract : Option String) (text : String) (code : Nat) :
    Diagnostic where
  file
  contract
  text
  category := .error
  code

/-- The diagnostic pointing to one more place. -/
def withRelated (d : Diagnostic) (file : String) (contract : Option String) (text : String) :
    Diagnostic :=
  { d with related := d.related ++ [{ file, contract, text }] }

/-- Whether the diagnostic is an error. -/
def isError (d : Diagnostic) : Bool := d.category == .error

end Diagnostic

end ClassSynthesis
