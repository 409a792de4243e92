import ClassSynthesis.Decimal.Natural
import ClassSynthesis.Text.Blank
import ClassSynthesis.Text.Lowercase

/-!
# Layout

The choices that shape the printed text: the unit of indentation and the line terminator,
with the settings that write them.
-/

namespace ClassSynthesis

/-- The line terminator of printed text. -/
inductive LineEnding
  | lineFeed
  | carriageReturnLineFeed
  deriving DecidableEq, Repr, Inhabited

namespace LineEnding

/-- The characters that end a line. -/
def text : LineEnding → String
  | lineFeed => "\n"
  | carriageReturnLineFeed => "\r\n"

/-- The line ending a setting stands for: `lf` or `crlf` in any case, blanks around it being
ignored. -/
def ofSetting? (setting : String) : Option LineEnding :=
  match (Text.trim setting).toList.map Char.toLower with
  | ['l', 'f'] => some lineFeed
  | ['c', 'r', 'l', 'f'] => some carriageReturnLineFeed
  | _ => none

end LineEnding

/-- One level of indentation. -/
inductive Indent
  /-- A tab for each level. -/
  | tabs
  /-- This many spaces for each level. -/
  | spaces (width : Nat)
  deriving DecidableEq, Repr, Inhabited

namespace Indent

/-- The characters of one level. -/
def unit : Indent → String
  | tabs => "\t"
  | spaces width => String.ofList (List.replicate width ' ')

/-- The indentation a setting stands for: `tab` or `tabs` in any case, or a number of spaces
from 1 to 255, blanks around it being ignored. -/
def ofSetting? (setting : String) : Option Indent :=
  let cs := (Text.trim setting).toList
  match cs.map Char.toLower with
  | ['t', 'a', 'b'] => some tabs
  | ['t', 'a', 'b', 's'] => some tabs
  | _ => (Decimal.byte? cs).filter (0 < ·) |>.map spaces

end Indent

/-- How declarations are laid out as text. -/
structure Layout where
  /-- One level of indentation. -/
  indent : Indent := .tabs
  /-- The end of every line. -/
  lineEnding : LineEnding := .lineFeed
  deriving DecidableEq, Repr, Inhabited

namespace Layout

/-- The indentation of a line at the given depth. -/
def indentation (layout : Layout) (depth : Nat) : String :=
  String.join (List.replicate depth layout.indent.unit)

/-- A line at the given depth. -/
def line (layout : Layout) (depth : Nat) (text : String) : String :=
  layout.indentation depth ++ text ++ layout.lineEnding.text

/-- An empty line, which is never indented. -/
def blankLine (layout : Layout) : String := layout.lineEnding.text

end Layout

end ClassSynthesis
