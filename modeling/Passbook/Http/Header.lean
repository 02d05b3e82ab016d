/-
**Header fields of messages.**

The name of a field goes by in any ASCII case and its value is a run of bytes, which is a text when
all of them are visible. `Header.log` lists the fields of a message for the log, the fields of one
name together, with the values of those that carry secrets left out.
-/

import Passbook.Text.Utf8

namespace Passbook.Http

structure Header where
  name : String
  value : List UInt8
  deriving DecidableEq, Repr

namespace Header

/-- A field whose value is a text. -/
def ofText (name value : String) : Header :=
  ⟨name, Text.Utf8.encode value.toList⟩

/-- The name in lower case. -/
def key (header : Header) : String :=
  header.name.toLower

/-- A tab, a space or a visible ASCII character. -/
def isVisible (b : UInt8) : Bool :=
  b == 0x09 || (0x20 ≤ b && b ≤ 0x7E)

/-- The value, when it is a text. -/
def text? (header : Header) : Option (List Char) :=
  if header.value.all isVisible then some (header.value.map fun b => Char.ofNat b.toNat) else none

/-- The first field of a name, which is given in lower case. -/
def first? (key : String) (headers : List Header) : Option Header :=
  headers.find? fun header => header.key == key

/-- Sets a field: the others of its name are gone. -/
def set (header : Header) (headers : List Header) : List Header :=
  headers.filter (fun other => other.key != header.key) ++ [header]

/-- A field that was set is there once. -/
theorem filter_set (header : Header) (headers : List Header) :
    (set header headers).filter (fun other => other.key == header.key) = [header] := by
  simp [set, List.filter_append, List.filter_filter]

/-! ### For the log -/

/-- The names of the fields that carry secrets. -/
def secretKeys : List String :=
  ["authorization", "cookie", "set-cookie", "x-api-key"]

/-- The value as it may be written to a log. -/
def shownValue (header : Header) : String :=
  if secretKeys.contains header.key then "[REDACTED]"
  else
    match header.text? with
    | some text => String.ofList text
    | none => "[invalid utf8]"

/-- Names and values for the log, the names in the order in which they first appear. -/
def log (headers : List Header) : List (String × String) :=
  (headers.map key).eraseDups.flatMap fun name =>
    (headers.filter fun header => header.key == name).map fun header => (name, header.shownValue)

end Header

end Passbook.Http
