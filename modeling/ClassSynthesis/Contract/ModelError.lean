import ClassSynthesis.Contract.Basic

/-!
# Model Errors

A contract is identified by its position among the registered contracts. The errors are the
ways in which a model can be inconsistent.
-/

namespace ClassSynthesis

/-- The identity of a registered contract: its position in the order of registration. -/
structure ContractId where
  /-- The position. -/
  index : Nat
  deriving DecidableEq, Repr

/-- An inconsistency of the model. -/
inductive ModelError
  /-- A contract lists a parent that the model does not have. -/
  | unknownParent (contract reference : String)
  /-- No contract has this identity. -/
  | unknownContract (id : ContractId)
  /-- A name on the way up stands for something other than an interface. -/
  | unexpectedKind (name : String) (found : DeclarationKind)
  /-- A contract declares a member with a blank name. -/
  | emptyMemberName (contract : String)
  /-- A chain of parents is longer than the limit. -/
  | inheritanceTooDeep (contract : String) (limit : Nat)
  /-- A qualified name is registered already. -/
  | duplicateContract (name : String)
  deriving DecidableEq, Repr

/-- The wording of a model error. -/
def ModelError.message : ModelError → String
  | unknownParent contract reference =>
    "contract '" ++ contract ++ "' extends unknown contract '" ++ reference ++ "'"
  | unknownContract id => "contract #" ++ toString id.index ++ " is not part of the model"
  | unexpectedKind name found =>
    "'" ++ name ++ "' is declared as " ++ found.name ++ " but was expected to be an interface"
  | emptyMemberName contract =>
    "contract '" ++ contract ++ "' declares a member with an empty name"
  | inheritanceTooDeep contract limit =>
    "inheritance closure of '" ++ contract ++ "' exceeds the maximum depth of "
      ++ toString limit
  | duplicateContract name => "contract '" ++ name ++ "' is declared more than once"

end ClassSynthesis
