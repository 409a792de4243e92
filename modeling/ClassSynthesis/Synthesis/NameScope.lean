/-!
# Name Scopes

A scope hands out names that are unique within it. A name that is taken gets the smallest
numeric suffix that makes it free: `woo`, `woo1`, `woo2`. Among one more suffixes than there
are names in use, one is free, so the search is over a finite range.
-/

namespace ClassSynthesis

/-- The names in use. -/
structure NameScope where
  /-- The names reserved or handed out, the latest first. -/
  used : List String
  deriving Repr

namespace NameScope

/-- A scope in which every name is free. -/
def empty : NameScope := ⟨[]⟩

/-- Whether a name is in use. -/
def isUsed (scope : NameScope) (name : String) : Bool := scope.used.contains name

/-- Take a name out of circulation. -/
def reserve (scope : NameScope) (name : String) : NameScope := ⟨name :: scope.used⟩

/-- The name with a numeric suffix. -/
def suffixed (base : String) (suffix : Nat) : String := base ++ toString suffix

/-- The smallest positive suffix that makes the name free. -/
def freeSuffix (scope : NameScope) (base : String) : Nat :=
  ((List.range scope.used.length).find? fun n => !scope.isUsed (suffixed base (n + 1))).elim
    (scope.used.length + 1) (· + 1)

/-- The name handed out for a wish: the wish itself when it is free. -/
def pick (scope : NameScope) (base : String) : String :=
  if scope.isUsed base then suffixed base (scope.freeSuffix base) else base

/-- Hand out a name for a wish and keep it from being handed out again. -/
def allocate (scope : NameScope) (base : String) : String × NameScope :=
  (scope.pick base, scope.reserve (scope.pick base))

@[simp] theorem isUsed_reserve (scope : NameScope) (name other : String) :
    (scope.reserve name).isUsed other = (other == name || scope.isUsed other) := by
  simp only [isUsed, reserve, List.contains_cons]

/-- A wish that is free is handed out as it is. -/
theorem pick_of_not_isUsed {scope : NameScope} {base : String}
    (h : scope.isUsed base = false) : scope.pick base = base := by
  simp [pick, h]

end NameScope

end ClassSynthesis
