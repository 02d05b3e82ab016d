/-
**Percent encoding.**

`decode` turns a percent sign and two hexadecimal digits into the byte they name and leaves every
other byte as it is, an incomplete escape included. `encode` escapes every byte but ASCII letters
and digits, `-`, `_`, `.` and `~`.
-/

import Passbook.Text.Utf8

namespace Passbook.Text

/-- The value of a hexadecimal digit, in either case. -/
def hexDigit? (c : Char) : Option Nat :=
  if '0' ≤ c ∧ c ≤ '9' then some (c.toNat - '0'.toNat)
  else if 'a' ≤ c ∧ c ≤ 'f' then some (c.toNat - 'a'.toNat + 10)
  else if 'A' ≤ c ∧ c ≤ 'F' then some (c.toNat - 'A'.toNat + 10)
  else none

namespace Percent

/-- The byte written by two hexadecimal digits. -/
def byte? (high low : UInt8) : Option UInt8 :=
  match hexDigit? (Char.ofNat high.toNat), hexDigit? (Char.ofNat low.toNat) with
  | some h, some l => some (h * 16 + l).toUInt8
  | _, _ => none

def sign : UInt8 := 0x25

def decode : List UInt8 → List UInt8
  | [] => []
  | [b] => [b]
  | [b, c] => [b, c]
  | b :: high :: low :: rest =>
    if b = sign then
      match byte? high low with
      | some value => value :: decode rest
      | none => b :: decode (high :: low :: rest)
    else b :: decode (high :: low :: rest)

/-- A byte that stands for itself wherever it is written. -/
def isPlain (b : UInt8) : Bool :=
  let c := Char.ofNat b.toNat
  c.isAlphanum || c == '-' || c == '_' || c == '.' || c == '~'

def encodeByte (b : UInt8) : List Char :=
  if isPlain b then [Char.ofNat b.toNat]
  else ['%', Nat.digitChar (b.toNat / 16), Nat.digitChar (b.toNat % 16)]

def encode (text : String) : String :=
  String.ofList ((Utf8.encode text.toList).flatMap encodeByte)

end Percent

end Passbook.Text
