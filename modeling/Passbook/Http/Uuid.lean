/-
**Universally unique identifiers.**

A `Uuid` is a number of 32 hexadecimal digits. `write` groups them 8-4-4-4-12 with hyphens, in lower
case; `read?` takes the digits in any case, either all in one run or so grouped, and the grouped
ones also in braces or behind `urn:uuid:`.
-/

import Passbook.Text.Percent

namespace Passbook.Http

structure Uuid where
  digits : List (Fin 16)
  length_digits : digits.length = 32
  deriving DecidableEq

namespace Uuid

/-- The identifier that is all zeros. -/
def nil : Uuid := ⟨List.replicate 32 0, by simp⟩

/-- The identifier whose digits are these. -/
def ofDigits? (digits : List (Fin 16)) : Option Uuid :=
  if h : digits.length = 32 then some ⟨digits, h⟩ else none

/-- Reads a hexadecimal digit. -/
def digit? (c : Char) : Option (Fin 16) :=
  (Text.hexDigit? c).map (Fin.ofNat 16)

/-- The sizes of the groups. -/
def groups : List Nat := [8, 4, 4, 4, 12]

/-- Puts a hyphen between groups of the given sizes. -/
def hyphenate : List Nat → List Char → List Char
  | [], text => text
  | [_], text => text
  | size :: sizes, text => text.take size ++ '-' :: hyphenate sizes (text.drop size)

/-- Takes out the hyphens, each of which must stand between groups of the given sizes. -/
def unhyphenate : List Nat → List Char → Option (List Char)
  | [], text => some text
  | [_], text => some text
  | size :: sizes, text =>
    match text.drop size with
    | '-' :: rest => (unhyphenate sizes rest).map (text.take size ++ ·)
    | _ => none

/-- Reads digits in one run. -/
def readPlain? (text : List Char) : Option Uuid := do
  ofDigits? (← text.mapM digit?)

/-- Reads digits in groups. -/
def readGrouped? (text : List Char) : Option Uuid := do
  readPlain? (← unhyphenate groups text)

/-- What stands between braces. -/
def unbrace? : List Char → Option (List Char)
  | '\x7b' :: rest => if rest.getLast? = some '\x7d' then some rest.dropLast else none
  | _ => none

/-- What follows the name of the scheme, whose letters may be of any case. -/
def afterScheme? (text : List Char) : Option (List Char) :=
  if (text.take 9).map Char.toLower = "urn:uuid:".toList then some (text.drop 9) else none

def read? (text : List Char) : Option Uuid :=
  readPlain? text <|> readGrouped? text <|> (unbrace? text).bind readGrouped? <|>
    (afterScheme? text).bind readGrouped?

def write (id : Uuid) : String :=
  String.ofList (hyphenate groups (id.digits.map fun digit => Nat.digitChar digit.val))

end Uuid

end Passbook.Http
