import ClassSynthesis.Declaration.Node
import Mathlib.Logic.Function.Basic

/-!
# Running Bodies

The meaning of constructor and accessor bodies. A bare name in a body is what the body binds
under that name, a parameter or the incoming `value`, and otherwise the field or property of
the class of that name; `this.name` is always the field or property. A body is run in a
`Frame`, which records the assignments made, so that a run tells what was assigned, in which
order and how often.

## Main definitions

- `Expression.place?`: the place that an expression names.
- `Expression.eval`: the value of an expression and the frame after it.
- `Node.construct`: what running a constructor with arguments leads to.
-/

namespace ClassSynthesis

/-- What a place holds while a program runs. -/
inductive Value (α : Type)
  /-- A value from outside the class. -/
  | given (value : α)
  /-- An instance that the class has created, numbered in the order of creation. -/
  | created (serial : Nat) (type : String)
  deriving DecidableEq, Repr

/-- The number of a created instance. -/
def Value.serial? {α : Type} : Value α → Option Nat
  | given _ => none
  | created serial _ => some serial

/-- Something that can be read and assigned. -/
inductive Place
  /-- A name that the body binds. -/
  | bound (name : String)
  /-- A field or property of the object. -/
  | stored (name : String)
  deriving DecidableEq, Repr

/-- The place that an expression names, in a body that binds `bound` and a class with the
fields and properties `names`. -/
def Expression.place? (names bound : List String) : Expression → Option Place
  | identifier name =>
    if name ∈ bound then some (.bound name)
    else if name ∈ names then some (.stored name)
    else none
  | thisMember name => if name ∈ names then some (.stored name) else none
  | newInstance _ => none
  | assign _ _ => none

/-- A body being run. -/
structure Frame (α : Type) where
  /-- The names that the body binds, with their values. -/
  bound : List (String × Value α)
  /-- The fields and properties of the object. -/
  stored : String → Value α
  /-- How many instances have been created. -/
  created : Nat
  /-- The assignments made, in order. -/
  writes : List (Place × Value α)

namespace Frame

variable {α : Type}

/-- The names that the body binds. -/
def boundNames (f : Frame α) : List String := f.bound.map Prod.fst

/-- The value in a place. -/
def read? (f : Frame α) : Place → Option (Value α)
  | .bound name => f.bound.lookup name
  | .stored name => some (f.stored name)

/-- Put a value in a place. -/
def write (f : Frame α) (place : Place) (value : Value α) : Frame α :=
  let f := { f with writes := f.writes ++ [(place, value)] }
  match place with
  | .bound name =>
    { f with bound := f.bound.map fun b => if b.1 = name then (name, value) else b }
  | .stored name => { f with stored := Function.update f.stored name value }

/-- Create an instance of a type. -/
def create (f : Frame α) (type : String) : Value α × Frame α :=
  (.created f.created type, { f with created := f.created + 1 })

/-- The frame in which the body of a constructor starts: one argument for each parameter, and
the initial values of the fields and properties. -/
def enter (parameters : List Parameter) (arguments : List α) (stored : String → Value α)
    (created : Nat) : Frame α where
  bound := (parameters.map (·.name)).zip (arguments.map .given)
  stored
  created
  writes := []

section Write

variable (f : Frame α) (name : String) (value : Value α)

@[simp] theorem bound_write_stored : (f.write (.stored name) value).bound = f.bound := rfl

@[simp] theorem stored_write_stored :
    (f.write (.stored name) value).stored = Function.update f.stored name value := rfl

@[simp] theorem created_write_stored : (f.write (.stored name) value).created = f.created := rfl

@[simp] theorem writes_write_stored :
    (f.write (.stored name) value).writes = f.writes ++ [(.stored name, value)] := rfl

end Write

section Enter

variable {parameters : List Parameter} {arguments : List α} {stored : String → Value α}
  {created : Nat}

/-- A constructor binds its parameters. -/
theorem boundNames_enter (h : arguments.length = parameters.length) :
    (enter parameters arguments stored created).boundNames = parameters.map (·.name) :=
  List.map_fst_zip (by simp [h])

/-- No parameter is bound to an instance that the class has created. -/
theorem serial?_of_mem_bound_enter {b : String × Value α}
    (h : b ∈ (enter parameters arguments stored created).bound) : b.2.serial? = none := by
  obtain ⟨a, -, ha⟩ := List.mem_map.1 (List.of_mem_zip h).2
  rw [← ha]
  rfl

end Enter

end Frame

/-- The value of an expression and the frame after it; nothing when the expression names
no place. -/
def Expression.eval {α : Type} (names : List String) :
    Expression → Frame α → Option (Value α × Frame α)
  | newInstance type, f => some (f.create type)
  | assign target value, f =>
    (value.eval names f).bind fun (v, f) =>
      (target.place? names f.boundNames).map fun place => (v, f.write place v)
  | identifier name, f =>
    (place? names f.boundNames (.identifier name)).bind fun place =>
      (f.read? place).map fun v => (v, f)
  | thisMember name, f =>
    (place? names f.boundNames (.thisMember name)).bind fun place =>
      (f.read? place).map fun v => (v, f)

namespace Node

variable {α : Type}

/-- Run a statement. -/
def run (names : List String) (f : Frame α) : Node → Option (Frame α)
  | statement expression => (expression.eval names f).map Prod.snd
  | _ => none

/-- Run the statements of a body in order. -/
def runAll (names : List String) (f : Frame α) (body : List Node) : Option (Frame α) :=
  body.foldlM (fun f node => node.run names f) f

/-- Run a constructor of a class with the fields and properties `names`, on an object with
initial values, with one argument for each parameter. -/
def construct (names : List String) (arguments : List α) (stored : String → Value α)
    (created : Nat) : Node → Option (Frame α)
  | constructor _ _ parameters body =>
    if arguments.length = parameters.length then
      runAll names (.enter parameters arguments stored created) body
    else none
  | _ => none

end Node

theorem Node.runAll_cons {α : Type} (names : List String) (f : Frame α) (node : Node)
    (rest : List Node) :
    Node.runAll names f (node :: rest) =
      (node.run names f).bind fun g => Node.runAll names g rest := rfl

namespace Expression

variable {α : Type} {names bound : List String} {f : Frame α} {name : String} {v : Value α}

theorem place?_identifier_of_mem (h : name ∈ bound) :
    place? names bound (.identifier name) = some (.bound name) := by
  rw [place?, if_pos h]

theorem place?_identifier_of_not_mem (h : name ∉ bound) (hname : name ∈ names) :
    place? names bound (.identifier name) = some (.stored name) := by
  rw [place?, if_neg h, if_pos hname]

theorem place?_thisMember (hname : name ∈ names) :
    place? names bound (.thisMember name) = some (.stored name) := by
  rw [place?, if_pos hname]

/-- A bare name that the body binds is read as what it is bound to. -/
theorem eval_identifier_of_bound (h : f.bound.lookup name = some v) :
    (identifier name).eval names f = some (v, f) := by
  have hmem : name ∈ f.boundNames := by
    obtain ⟨before, after, hbound, -⟩ := List.lookup_eq_some_iff.1 h
    simp [Frame.boundNames, hbound]
  simp [eval, place?_identifier_of_mem hmem, Frame.read?, h]

/-- What names a field or property is read as what that holds. -/
theorem eval_of_place?_stored {e : Expression}
    (h : e.place? names f.boundNames = some (.stored name)) :
    e.eval names f = some (f.stored name, f) := by
  cases e with
  | identifier other => simp [eval, h, Frame.read?]
  | thisMember other => simp [eval, h, Frame.read?]
  | newInstance type => simp [place?] at h
  | assign target value => simp [place?] at h

/-- An assignment puts the value in the place that the target names. -/
theorem eval_assign {target value : Expression} {g : Frame α} {place : Place}
    (hvalue : value.eval names f = some (v, g))
    (htarget : target.place? names g.boundNames = some place) :
    (assign target value).eval names f = some (v, g.write place v) := by
  simp [eval, hvalue, htarget]

end Expression

end ClassSynthesis
