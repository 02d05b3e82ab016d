/-
**JSON values and their text.**

A `Value` is a JSON value whose numbers are integers. `Value.write` gives its shortest text: no
blanks, members in their order, and in a string an escape for quotes, backslashes and controls only.
-/

namespace Passbook.Json

inductive Value where
  | null
  | bool (b : Bool)
  | int (n : Int)
  | string (text : String)
  | array (items : List Value)
  | object (members : List (String × Value))

/-- The written form of one character of a string. -/
def escape (c : Char) : List Char :=
  if c = '\x22' then ['\\', '\x22']
  else if c = '\\' then ['\\', '\\']
  else if c = '\x08' then ['\\', 'b']
  else if c = '\x0c' then ['\\', 'f']
  else if c = '\n' then ['\\', 'n']
  else if c = '\r' then ['\\', 'r']
  else if c = '\t' then ['\\', 't']
  else if c.toNat < 0x20 then
    ['\\', 'u', '0', '0', Nat.digitChar (c.toNat / 16), Nat.digitChar (c.toNat % 16)]
  else [c]

def quote (text : String) : List Char :=
  '\x22' :: text.toList.flatMap escape ++ ['\x22']

namespace Value

mutual

/-- The text of a value. -/
def writeChars : Value → List Char
  | null => "null".toList
  | bool true => "true".toList
  | bool false => "false".toList
  | int n => (toString n).toList
  | string text => quote text
  | array [] => ['[', ']']
  | array (item :: items) => '[' :: writeChars item ++ writeItems items
  | object [] => ['\x7b', '\x7d']
  | object ((key, value) :: members) =>
    '\x7b' :: quote key ++ ':' :: writeChars value ++ writeMembers members

/-- The further items of an array and its end. -/
def writeItems : List Value → List Char
  | [] => [']']
  | item :: items => ',' :: writeChars item ++ writeItems items

/-- The further members of an object and its end. -/
def writeMembers : List (String × Value) → List Char
  | [] => ['\x7d']
  | (key, value) :: members =>
    ',' :: quote key ++ ':' :: writeChars value ++ writeMembers members

end

def write (value : Value) : String :=
  String.ofList value.writeChars

/-- A text, or null when there is none. -/
def ofText? : Option String → Value
  | some text => string text
  | none => null

end Value

end Passbook.Json
