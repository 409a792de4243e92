import ClassSynthesis.Text.Quoted

/-!
# Decoding Errors

What can be wrong with a JSON text: it ends too early, it is malformed, or a value in it is
not of the kind that is wanted. The first problem from the left is reported.
-/

namespace ClassSynthesis.Json

/-- What a value is, as far as an error message tells. -/
inductive Shape
  | null
  | boolean (value : Bool)
  /-- An integer of at most 64 bits. -/
  | integer (value : Int)
  /-- Any other number, as the shortest decimal of the nearest double. -/
  | decimal (text : String)
  | string (value : String)
  | sequence
  | map
  deriving DecidableEq, Repr

/-- The description of a value in an error message. -/
def Shape.description : Shape → String
  | null => "null"
  | boolean value => "boolean `" ++ toString value ++ "`"
  | integer value => "integer `" ++ toString value ++ "`"
  | decimal text => "floating point `" ++ text ++ "`"
  | string value => "string " ++ Text.quote value
  | sequence => "sequence"
  | map => "map"

/-- A value of the wrong kind. -/
inductive DataError
  /-- A value of another type than expected. -/
  | invalidType (found : Shape) (expected : String)
  /-- A field written twice. -/
  | duplicateField (name : String)
  /-- A required field that is not there. -/
  | missingField (name : String)
  /-- A record written as a sequence that ends before a required field. -/
  | invalidLength (count : Nat) (expected : String)
  /-- A name that is none of the choices. -/
  | unknownVariant (name : String) (choices : List String)
  /-- A value that is in none of the forms of a setting. -/
  | noMatchingForm (setting : String)
  /-- A text that stands for no truth value. -/
  | invalidBoolean (text : String)
  deriving DecidableEq, Repr

/-- A name between backquotes. -/
def quoted (name : String) : String := "`" ++ name ++ "`"

/-- The choices as they are listed in an error message. -/
def listChoices : List String → String
  | [] => "nothing"
  | [only] => quoted only
  | [first, second] => quoted first ++ " or " ++ quoted second
  | choices => "one of " ++ ", ".intercalate (choices.map quoted)

/-- The wording of a data error. -/
def DataError.message : DataError → String
  | invalidType found expected =>
    "invalid type: " ++ found.description ++ ", expected " ++ expected
  | duplicateField name => "duplicate field " ++ quoted name
  | missingField name => "missing field " ++ quoted name
  | invalidLength count expected =>
    "invalid length " ++ toString count ++ ", expected " ++ expected
  | unknownVariant name choices =>
    "unknown variant " ++ quoted name ++ ", expected " ++ listChoices choices
  | noMatchingForm setting => "data did not match any variant of untagged enum " ++ setting
  | invalidBoolean text =>
    "invalid boolean value: '" ++ text ++ "'. Expected true, false, 'true', or 'false'"

end ClassSynthesis.Json

namespace ClassSynthesis

/-- The first problem of a JSON text. -/
inductive JsonError
  /-- The text ends inside a value. -/
  | endOfInput
  /-- The text is not well-formed. -/
  | malformed
  /-- A value is not what is wanted. -/
  | data (error : Json.DataError)
  deriving DecidableEq, Repr

/-- The wording of a decoding error. -/
def JsonError.message : JsonError → String
  | endOfInput => "unexpected end of JSON input"
  | malformed => "malformed JSON"
  | data error => error.message

end ClassSynthesis
