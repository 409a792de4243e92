import ClassSynthesis.Diagnostic.Basic
import ClassSynthesis.Text.Replace

/-!
# Reports

Diagnostics as lines for a terminal: `file(Contract) - error IG1001: text`, followed by one
line for each related place. With colors, the parts of a line are wrapped in escape
sequences that set a style and reset it.
-/

namespace ClassSynthesis

/-- A way to highlight a part of a line. -/
inductive Style
  | location
  | error
  | warning
  | suggestion
  | message
  | code
  | related
  deriving DecidableEq, Repr

namespace Style

/-- The escape sequence with the given parameters. -/
def sequence (parameters : String) : String := "\x1b[" ++ parameters ++ "m"

/-- The escape sequence that ends every style. -/
def reset : String := sequence "0"

/-- The parameters of a style: cyan, bold red, bold yellow, bold blue, bold cyan, bright blue
and dimmed. -/
def parameters : Style → String
  | location => "36"
  | error => "1;31"
  | warning => "1;33"
  | suggestion => "1;34"
  | message => "1;36"
  | code => "94"
  | related => "2"

/-- The escape sequence that starts the style. -/
def start (style : Style) : String := sequence style.parameters

/-- The text in the style. Where the text itself resets, the style is started again. -/
def wrap (style : Style) (text : String) : String :=
  let inner := Text.replaceAll '\x1b' ['[', '0', 'm'] (reset ++ style.start).toList text.toList
  style.start ++ String.ofList inner ++ reset

/-- The text in the style when colors are wanted, and as it is otherwise. -/
def apply (colors : Bool) (style : Style) (text : String) : String :=
  if colors then style.wrap text else text

/-- The style of a category. -/
def ofCategory : Category → Style
  | .error => error
  | .warning => warning
  | .suggestion => suggestion
  | .message => message

end Style

namespace Report

/-- The place a diagnostic is reported at. -/
def place (file : String) (contract : Option String) : String :=
  match file.isEmpty, contract with
  | false, some contract => file ++ "(" ++ contract ++ ")"
  | false, none => file
  | true, some contract => contract
  | true, none => "<model>"

/-- The code of a diagnostic with a space in front; nothing for code zero. -/
def codeText (colors : Bool) (code : Nat) : String :=
  if code == 0 then "" else " " ++ Style.code.apply colors ("IG" ++ toString code)

/-- The line of a related place. -/
def relatedLine (colors : Bool) (r : RelatedInformation) : String :=
  Style.related.apply colors "  Related" ++ ": " ++ r.contract.getD r.file ++ " - " ++ r.text

/-- The first line of a diagnostic. -/
def headLine (colors : Bool) (d : Diagnostic) : String :=
  Style.location.apply colors (place d.file d.contract) ++ " - " ++
    (Style.ofCategory d.category).apply colors d.category.name ++
    codeText colors d.code ++ ": " ++ d.text

/-- The lines of a diagnostic. -/
def lines (colors : Bool) (d : Diagnostic) : List String :=
  headLine colors d :: d.related.map (relatedLine colors)

/-- The report of a list of diagnostics, every line ended by a line feed. -/
def render (colors : Bool) (diagnostics : List Diagnostic) : String :=
  String.join ((diagnostics.flatMap (lines colors)).map (· ++ "\n"))

end Report

end ClassSynthesis
