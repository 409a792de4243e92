import ClassSynthesis.Text.Replace

/-!
# Diagnostic Messages

The registered messages, each with a code, a category and a template. A template holds
numbered places in braces; they are filled one argument after the other over the whole text.
-/

namespace ClassSynthesis

/-- How serious a diagnostic is. -/
inductive Category
  | warning
  | error
  | suggestion
  | message
  deriving DecidableEq, Repr, Inhabited

/-- The word for a category in reports. -/
def Category.name : Category → String
  | warning => "warning"
  | error => "error"
  | suggestion => "suggestion"
  | message => "message"

/-- A registered message. -/
structure Message where
  /-- The code, written after the letters `IG`. -/
  code : Nat
  /-- The category of its diagnostics. -/
  category : Category
  /-- The wording, with places for arguments. -/
  template : String
  deriving DecidableEq, Repr

namespace Message

/-- A contract extends a contract that the model does not have. -/
def unknownParent : Message where
  code := 1001
  category := .error
  template := "Contract '\x7b0\x7d' extends unknown contract '\x7b1\x7d'."

/-- A name stands for something other than an interface. -/
def unexpectedKind : Message where
  code := 1002
  category := .error
  template := "'\x7b0\x7d' is declared as \x7b1\x7d but was expected to be an interface."

/-- A member has a blank name. -/
def emptyMemberName : Message where
  code := 1003
  category := .error
  template := "Contract '\x7b0\x7d' declares a member with an empty name."

/-- A chain of parents is too long. -/
def inheritanceTooDeep : Message where
  code := 1004
  category := .error
  template := "Inheritance closure of '\x7b0\x7d' exceeds the maximum depth of \x7b1\x7d."

/-- A contract is not part of the model. -/
def unknownContract : Message where
  code := 1005
  category := .error
  template := "Contract '\x7b0\x7d' is not part of the model."

/-- A contract is declared twice. -/
def duplicateContract : Message where
  code := 1006
  category := .error
  template := "Contract '\x7b0\x7d' is declared more than once."

/-- Members that share a name but not a type are implemented explicitly. -/
def contractQualifiedMember : Message where
  code := 2001
  category := .warning
  template := "Member '\x7b0\x7d' is declared by unrelated contracts with different types; "
    ++ "emitting contract-qualified implementations."

/-- The model has nothing to implement. -/
def noPartialContracts : Message where
  code := 6001
  category := .message
  template := "No partial contracts were found in the model."

/-- All messages, by increasing code. -/
def registered : List Message := [
  unknownParent, unexpectedKind, emptyMemberName, inheritanceTooDeep, unknownContract,
  duplicateContract, contractQualifiedMember, noPartialContracts]

/-- The message with a code. -/
def find? (code : Nat) : Option Message := registered.find? (·.code == code)

/-- Fill the places numbered from `number` on, one argument after the other. A later
argument also fills the places that an earlier one has brought in. -/
def fillFrom (number : Nat) : List String → List Char → List Char
  | [], text => text
  | argument :: rest, text =>
    fillFrom (number + 1) rest
      (Text.replaceAll '\x7b' ((toString number).toList ++ ['\x7d']) argument.toList text)

/-- The text of a template with its arguments filled in. -/
def format (template : String) (arguments : List String) : String :=
  String.ofList (fillFrom 0 arguments template.toList)

end Message

end ClassSynthesis
