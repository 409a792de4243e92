import ClassSynthesis.Text.CodeRange

/-!
# Blank Characters

The characters with the Unicode property `White_Space`, and the removal of blanks from both
ends of a text. Names, type names and settings are trimmed in this sense.
-/

namespace ClassSynthesis.Text

/-- The code points with the property `White_Space`, in increasing order. -/
def blankRanges : List CodeRange := [
  ⟨0x9, 0xD⟩, ⟨0x20, 0x20⟩, ⟨0x85, 0x85⟩, ⟨0xA0, 0xA0⟩, ⟨0x1680, 0x1680⟩,
  ⟨0x2000, 0x200A⟩, ⟨0x2028, 0x2029⟩, ⟨0x202F, 0x202F⟩, ⟨0x205F, 0x205F⟩, ⟨0x3000, 0x3000⟩]

/-- A character with the Unicode property `White_Space`. -/
def isBlank (c : Char) : Bool := CodeRange.anyHas blankRanges c

/-- The characters of `cs` without the blanks at its two ends. -/
def trimBlanks (cs : List Char) : List Char :=
  (cs.dropWhile isBlank).reverse.dropWhile isBlank |>.reverse

/-- The text without the blanks at its two ends. -/
def trim (s : String) : String := String.ofList (trimBlanks s.toList)

/-- A text with nothing but blanks in it. -/
def allBlank (s : String) : Bool := s.toList.all isBlank

end ClassSynthesis.Text
