import ClassSynthesis.Text.Blank
import ClassSynthesis.Text.Lowercase

/-!
# Log Formats

The format of the program's log, as named by a setting.
-/

namespace ClassSynthesis

/-- The format of the log. -/
inductive LogFormat
  /-- One line for each event. -/
  | text
  /-- Events indented under what they belong to. -/
  | tree
  /-- One object for each event. -/
  | json
  deriving DecidableEq, Repr, Inhabited

/-- The format a setting stands for, in any case and with blanks around it. A setting that
names no format stands for plain text. -/
def LogFormat.ofSetting (setting : String) : LogFormat :=
  match Text.lowercaseAll (Text.trim setting) with
  | "tree" => tree
  | "json" => json
  | _ => text

end ClassSynthesis
