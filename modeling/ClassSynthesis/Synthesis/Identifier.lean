import ClassSynthesis.Text.Lowercase
import ClassSynthesis.Text.SortedTable

/-!
# Identifiers

The spelling of generated identifiers. A parameter or field is named after its member with
the first character in lower case; a reserved word is written with an `@` in front.
-/

namespace ClassSynthesis.Identifier

/-- The reserved words of the generated language, in increasing order. -/
def reservedWords : Array String := #[
  "abstract", "as", "base", "bool", "break", "byte", "case", "catch", "char", "checked",
  "class", "const", "continue", "decimal", "default", "delegate", "do", "double", "else",
  "enum", "event", "explicit", "extern", "false", "finally", "fixed", "float", "for",
  "foreach", "goto", "if", "implicit", "in", "int", "interface", "internal", "is", "lock",
  "long", "namespace", "new", "null", "object", "operator", "out", "override", "params",
  "private", "protected", "public", "readonly", "ref", "return", "sbyte", "sealed", "short",
  "sizeof", "stackalloc", "static", "string", "struct", "switch", "this", "throw", "true",
  "try", "typeof", "uint", "ulong", "unchecked", "unsafe", "ushort", "using", "virtual",
  "void", "volatile", "while"]

/-- Whether a word is reserved, by binary search in the table. -/
def isReserved (word : String) : Bool := Text.search reservedWords word

/-- The name with its first character in lower case and the rest as it is. -/
def lowerCamel (name : String) : String :=
  match name.toList with
  | [] => ""
  | first :: rest => String.ofList (Text.lowercase first ++ rest)

/-- The name as it can stand in the generated text: a reserved word gets an `@`. -/
def escape (name : String) : String := if isReserved name then "@" ++ name else name

end ClassSynthesis.Identifier
