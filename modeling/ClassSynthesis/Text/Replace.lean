/-!
# Replacing Parts of a Text

Replacement of every occurrence of a pattern, from left to right and without overlaps, and
the cutting of a text at a separator.
-/

namespace ClassSynthesis.Text

/-- Copy the text with every occurrence of the pattern `first :: others` replaced. The next
`skip` characters belong to an occurrence already replaced and are dropped. -/
def replaceAfter (first : Char) (others replacement : List Char) : Nat → List Char → List Char
  | _, [] => []
  | skip + 1, _ :: cs => replaceAfter first others replacement skip cs
  | 0, c :: cs =>
    if (first :: others).isPrefixOf (c :: cs) then
      replacement ++ replaceAfter first others replacement others.length cs
    else
      c :: replaceAfter first others replacement 0 cs

/-- The text with every occurrence of the pattern `first :: others` replaced, occurrences
being taken from the left and without overlaps. -/
def replaceAll (first : Char) (others replacement text : List Char) : List Char :=
  replaceAfter first others replacement 0 text

/-- The pieces of a text between the occurrences of a separator, one more than there are
separators. -/
def pieces (separator : Char) : List Char → List (List Char)
  | [] => [[]]
  | c :: cs =>
    if c = separator then [] :: pieces separator cs
    else match pieces separator cs with
      | [] => [[c]]
      | piece :: more => (c :: piece) :: more

/-- A text has at least one piece. -/
theorem pieces_ne_nil (separator : Char) (cs : List Char) : pieces separator cs ≠ [] := by
  cases cs with
  | nil => simp [pieces]
  | cons c cs =>
    rw [pieces]
    split
    · simp
    · split <;> simp

end ClassSynthesis.Text
