/-
**Typed readers of JSON documents.**

A `Reader` makes a value of some type from a document or names the first problem in it: a mistake of
the text, `malformed`, or data of the wrong kind, `unfit`, with the place where it stands. `struct`
reads a record through its form, from an object whose members may come in any order among others, or
from an array of the fields. `Reader.run` reads a whole text, `Reader.runFront` the front of one.
-/

import Passbook.Form
import Passbook.Json.Document
import Passbook.Json.Value
import Passbook.Text.Quoted

namespace Passbook.Json

/-- What is wrong with data that is sound JSON. -/
inductive Misfit where
  | missingField (name : String)
  | duplicateField (name : String)
  | invalidLength (given : Nat) (title : String) (fields : Nat)
  | invalidType (found : Found) (wanted : String)
  | invalidValue (n : Int) (wanted : String)
  | unknownVariant (text : String) (known : List String)
  /-- A value that its own type refuses. -/
  | refused (reason : String)
  deriving DecidableEq, Repr

/-- A step on the way to a part of a document. -/
inductive Step where
  | field (name : String)
  | index (n : Nat)
  deriving DecidableEq, Repr

inductive Problem where
  | malformed
  | unfit (path : List Step) (misfit : Misfit)
  deriving DecidableEq, Repr

def Found.message : Found → String
  | null => "null"
  | boolean b => s!"boolean `{b}`"
  | integer n => s!"integer `{n}`"
  | float x => s!"floating point `{x.toText}`"
  | string text => s!"string {Text.Quoted.encode text}"
  | sequence => "sequence"
  | map => "map"

def Misfit.message : Misfit → String
  | missingField name => s!"missing field `{name}`"
  | duplicateField name => s!"duplicate field `{name}`"
  | invalidLength given title fields =>
    s!"invalid length {given}, expected struct {title} with {fields} elements"
  | invalidType found wanted => s!"invalid type: {found.message}, expected {wanted}"
  | invalidValue n wanted => s!"invalid value: integer `{n}`, expected {wanted}"
  | unknownVariant text known =>
    let names := String.intercalate " or " (known.map fun name => s!"`{name}`")
    s!"unknown variant `{text}`, expected {names}"
  | refused reason => reason

/-- The written form of a path, with a point before each field but the first. -/
def pathText : List Step → String
  | [] => ""
  | .field name :: rest => rest.foldl append name
  | .index n :: rest => rest.foldl append s!"[{n}]"
where
  append (before : String) : Step → String
    | .field name => s!"{before}.{name}"
    | .index n => s!"{before}[{n}]"

/-- The message of misfit data, with the place where it stands. -/
def locatedMessage (path : List Step) (misfit : Misfit) : String :=
  if path.isEmpty then misfit.message else s!"{pathText path}: {misfit.message}"

abbrev Reader (α : Type) := Document → Except Problem α

namespace Reader

def unfit (misfit : Misfit) : Except Problem α :=
  .error (.unfit [] misfit)

/-- Refuses a document in favour of another type. -/
def wrongType (wanted : String) (document : Document) : Except Problem α :=
  match document.found? with
  | some found => unfit (.invalidType found wanted)
  | none => .error .malformed

/-- Reads a signed integer of 64 bits. -/
def int64 : Reader Int
  | .number (.unsigned n) =>
    if n < Nat.pow 2 63 then .ok n else unfit (.invalidValue n "i64")
  | .number (.negative n) => .ok n
  | document => wrongType "i64" document

def text : Reader String
  | .string (some text) => .ok text
  | document => wrongType "a string" document

/-- Reads null as nothing. -/
def optional (reader : Reader α) : Reader (Option α)
  | .null => .ok none
  | document => (reader document).map some

/-- Reads a value that its own type may refuse. -/
def checked (reader : Reader α) (certify : α → Except String β) : Reader β := fun document =>
  match reader document with
  | .error problem => .error problem
  | .ok value =>
    match certify value with
    | .ok certified => .ok certified
    | .error reason => unfit (.refused reason)

/-! ### Records -/

/-- A problem found one step further in. -/
def Problem.under (step : Step) : Problem → Problem
  | .malformed => .malformed
  | .unfit path misfit => .unfit (step :: path) misfit

abbrev JsonForm := Form Document Problem

/-- The problem of a form of a record called `title`. -/
def ofFormError (title : String) (fields : Nat) : FormError Problem → Problem
  | .missing name => .unfit [] (.missingField name)
  | .duplicate name => .unfit [] (.duplicateField name)
  | .unreadable name problem => Problem.under (.field name) problem
  | .unreadableAt position problem => Problem.under (.index position) problem
  | .tooFew given => .unfit [] (.invalidLength given title fields)

/-- Fills in a form from the members of an object. A member that is no field needs only be sound. -/
def fillIn (title : String) :
    List (Option String × Document) → Bool → JsonForm α → Except Problem α
  | [], true, form => form.finish.mapError (ofFormError title form.size)
  | [], false, _ => .error .malformed
  | (none, _) :: _, _, _ => .error .malformed
  | (some key, value) :: rest, closed, form =>
    match form.accept key value with
    | none => if value.isSound then fillIn title rest closed form else .error .malformed
    | some (.error problem) => .error (ofFormError title form.size problem)
    | some (.ok form) => fillIn title rest closed form

/-- Fills in a form from the items of an array, as many as it has fields. -/
def fillInOrder (title : String) (items : List Document) (closed : Bool) (form : JsonForm α) :
    Except Problem α :=
  match form.fillInOrder 0 items with
  | .ok (value, left) => if closed && left.isEmpty then .ok value else .error .malformed
  | .error (.tooFew given) =>
    if closed then unfit (.invalidLength given title form.size) else .error .malformed
  | .error problem => .error (ofFormError title form.size problem)

/-- Reads a record through its form. -/
def struct (title : String) (form : JsonForm α) : Reader α
  | .object members closed => fillIn title members closed form
  | .array items closed => fillInOrder title items closed form
  | document => wrongType s!"struct {title}" document

/-! ### Names -/

/-- Reads one of several names, as a string or as the only key of an object with the value null. -/
def variant (names : List (String × α)) : Reader α
  | .string (some text) => named text
  | .object ((some text, value) :: rest) closed =>
    match named text with
    | .error problem => .error problem
    | .ok chosen =>
      match value with
      | .null => if closed && rest.isEmpty then .ok chosen else .error .malformed
      | value => wrongType "unit" value
  | _ => .error .malformed
where
  named (text : String) : Except Problem α :=
    match names.lookup text with
    | some chosen => .ok chosen
    | none => unfit (.unknownVariant text (names.map (·.1)))

/-! ### Whole texts -/

/-- Reads a whole text. -/
def run (reader : Reader α) (text : String) : Except Problem α :=
  let (document, finished) := Document.read text
  match reader document with
  | .error problem => .error problem
  | .ok value => if finished then .ok value else .error .malformed

/-- Reads a value off the front of a text; what follows it is left out of account. -/
def runFront (reader : Reader α) (text : String) : Except Problem α :=
  reader (Document.read text).1

end Reader

end Passbook.Json
