import ClassSynthesis.Text.Replace

/-!
# Paths

A path is a text with slashes between names. It is kept and printed as it was written; two
paths are the same if their components are, so repeated slashes and inner dots do not matter,
while `..` is a component like any other.

## Main definitions

- `join`, `parent?`: a path below another, and the path above.
- `components`: the meaning of a path; `same` and `compare` go by it.
- `fileName?`, `extension?`: the last name and the part behind its last dot.
-/

namespace ClassSynthesis.Path

/-- Whether the path starts at the root. -/
def isAbsolute (path : String) : Bool := path.toList.head? == some '/'

/-- The path below a base. An absolute path is below nothing. -/
def join (base path : String) : String :=
  if isAbsolute path then path
  else if base.isEmpty || base.toList.getLast? == some '/' then base ++ path
  else base ++ "/" ++ path

/-- A part of a path that means something. -/
inductive Component
  /-- The root of all files. -/
  | root
  /-- The current directory, at the start of a relative path only. -/
  | current
  /-- The directory above. -/
  | parent
  /-- A file or directory of this name. -/
  | name (text : String)
  deriving DecidableEq, Repr

namespace Component

/-- The place of a kind of component in the order. -/
def rank : Component → Nat
  | root => 0
  | current => 1
  | parent => 2
  | name _ => 3

/-- Components are ordered by kind, and names by code points. -/
instance : Ord Component where
  compare a b :=
    match a, b with
    | name s, name t => compare s t
    | _, _ => compare a.rank b.rank

/-- The component that a segment stands for. Empty segments and dots mean nothing. -/
def ofSegment? (segment : List Char) : Option Component :=
  match segment with
  | [] => none
  | ['.'] => none
  | ['.', '.'] => some parent
  | cs => some (name (String.ofList cs))

end Component

/-- The start of a path that is a component of its own, and the text behind it. -/
def splitStart (cs : List Char) : Option Component × List Char :=
  match cs with
  | '/' :: rest => (some .root, rest)
  | ['.'] => (some .current, [])
  | '.' :: '/' :: rest => (some .current, '/' :: rest)
  | other => (none, other)

/-- The components of a path. -/
def components (path : String) : List Component :=
  let (start, body) := splitStart path.toList
  start.toList ++ (Text.pieces '/' body).filterMap Component.ofSegment?

/-- Whether two paths have the same components. -/
def same (a b : String) : Bool := components a == components b

/-- The order of paths by their components. -/
def compare (a b : String) : Ordering := Ord.compare (components a) (components b)

/-- Segments without those at the end that mean nothing. -/
def trimSegments (s : List (List Char)) : List (List Char) :=
  (s.reverse.dropWhile fun segment => (Component.ofSegment? segment).isNone).reverse

/-- The text that a start is written as. -/
def startText : Option Component → String
  | some .root => "/"
  | some .current => "."
  | _ => ""

/-- The path without its last component, written as it was; nothing if there is no component
to take away. -/
def parent? (path : String) : Option String :=
  let (start, body) := splitStart path.toList
  match trimSegments (Text.pieces '/' body), start with
  | [], some .current => some ""
  | [], _ => none
  | segments, _ =>
    let above := trimSegments segments.dropLast
    some (startText start ++ String.ofList (['/'].intercalate above))

/-- The name of the last component. -/
def fileName? (path : String) : Option String :=
  match (components path).getLast? with
  | some (.name text) => some text
  | _ => none

/-- The part of a file name behind its last dot. A dot at the start does not count. -/
def extensionOf? (fileName : String) : Option String :=
  let backwards := fileName.toList.reverse
  match backwards.dropWhile (· != '.') with
  | _ :: _ :: _ => some (String.ofList (backwards.takeWhile (· != '.')).reverse)
  | _ => none

/-- The extension of the path's file name. -/
def extension? (path : String) : Option String := (fileName? path).bind extensionOf?

/-- The path and the paths above it, the nearest first. -/
def ancestors (path : String) : List String :=
  path :: go path.length (parent? path)
where
  /-- The paths above, at most as many as the first one has characters. -/
  go : Nat → Option String → List String
    | fuel + 1, some above => above :: go fuel (parent? above)
    | _, _ => []

end ClassSynthesis.Path
