/-
**Forms with named fields.**

A `Form` is a record to be filled in from named values. Each field has a name, a reader for its
values and a rule for its absence. `accept` fills the field of a name, once, from a value;
`finish` gives the record when every field is filled or may be absent; `fillInOrder` fills the
fields by position instead. The first problem in the order of the values is the one reported, and
the first missing field in the order of the fields.
-/

namespace Passbook

/-- What it means that no value was given for a field. -/
inductive Absent (β : Type) where
  /-- The record cannot be had. -/
  | missing
  /-- This value is taken, but a place must be kept where values go by position. -/
  | optional (value : β)
  /-- This value is taken. -/
  | standard (value : β)

/-- A record of type `α`, filled in from values of type `Source`. The last argument of `done` is the
first field. -/
inductive Form (Source ε : Type) : Type → Type 1 where
  | done {α : Type} (value : α) : Form Source ε α
  | field {α β : Type} (name : String) (read : Source → Except ε β) (absent : Absent β)
      (found : Option β) (rest : Form Source ε (β → α)) : Form Source ε α

/-- Why a form is not filled in. -/
inductive FormError (ε : Type) where
  | missing (name : String)
  | duplicate (name : String)
  /-- The value of a field cannot be read. -/
  | unreadable (name : String) (problem : ε)
  /-- The value given by position, counted from 0, cannot be read. -/
  | unreadableAt (position : Nat) (problem : ε)
  /-- Too few values were given by position. -/
  | tooFew (given : Nat)

namespace Form

variable {Source ε α β : Type}

/-- A field that must be given, not filled in yet. -/
def required (name : String) (read : Source → Except ε β) (rest : Form Source ε (β → α)) :
    Form Source ε α :=
  .field name read .missing none rest

/-- A field that may be left out, with its value when it is. -/
def optional (name : String) (read : Source → Except ε β) (value : β)
    (rest : Form Source ε (β → α)) : Form Source ε α :=
  .field name read (.optional value) none rest

/-- A field that may be left out even where values go by position. -/
def standard (name : String) (read : Source → Except ε β) (value : β)
    (rest : Form Source ε (β → α)) : Form Source ε α :=
  .field name read (.standard value) none rest

/-- The number of fields. -/
def size : {α : Type} → Form Source ε α → Nat
  | _, .done _ => 0
  | _, .field _ _ _ _ rest => rest.size + 1

/-- Fills the field of this name; nothing when the form has none. -/
def accept (name : String) (value : Source) :
    {α : Type} → Form Source ε α → Option (Except (FormError ε) (Form Source ε α))
  | _, .done _ => none
  | _, .field own read absent found rest =>
    if own = name then
      match found with
      | some _ => some (.error (.duplicate name))
      | none =>
        match read value with
        | .ok given => some (.ok (.field own read absent (some given) rest))
        | .error problem => some (.error (.unreadable name problem))
    else
      match accept name value rest with
      | none => none
      | some (.error problem) => some (.error problem)
      | some (.ok rest) => some (.ok (.field own read absent found rest))

/-- The record, when every field is filled or may be absent. -/
def finish : {α : Type} → Form Source ε α → Except (FormError ε) α
  | _, .done value => .ok value
  | _, .field name _ absent found rest =>
    match found, absent with
    | some value, _ => rest.finish.map (· value)
    | none, .optional value => rest.finish.map (· value)
    | none, .standard value => rest.finish.map (· value)
    | none, .missing => .error (.missing name)

/-- Fills the fields in their order, `given` of them being filled before; gives the record and the
values left over. -/
def fillInOrder (given : Nat) :
    {α : Type} → Form Source ε α → List Source → Except (FormError ε) (α × List Source)
  | _, .done value, values => .ok (value, values)
  | _, .field _ read _ _ rest, value :: values =>
    match read value with
    | .error problem => .error (.unreadableAt given problem)
    | .ok found => (rest.fillInOrder (given + 1) values).map fun (f, left) => (f found, left)
  | _, .field _ _ (.standard found) _ rest, [] =>
    (rest.fillInOrder (given + 1) []).map fun (f, left) => (f found, left)
  | _, .field .., [] => .error (.tooFew given)

end Form

end Passbook
