/-!
# Sorted Tables

Binary search in an increasing array of texts. Texts compare by code points, which is also
the order of their UTF-8 bytes.
-/

namespace ClassSynthesis.Text

/-- Look for a text among the entries from `low` to just before `high`. -/
def searchBetween (table : Array String) (text : String) (low high : Nat)
    (bound : high ≤ table.size) : Bool :=
  if _nonempty : low < high then
    let middle := (low + high) / 2
    have _inside : middle < table.size := by omega
    match compare text table[middle] with
    | .lt => searchBetween table text low middle (by omega)
    | .eq => true
    | .gt => searchBetween table text (middle + 1) high bound
  else
    false
termination_by high - low

/-- Look for a text in an increasing table. -/
def search (table : Array String) (text : String) : Bool :=
  searchBetween table text 0 table.size (Nat.le_refl _)

end ClassSynthesis.Text
