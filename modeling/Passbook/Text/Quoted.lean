/-
**Quoted text for messages.**

`Quoted.encode` writes a text between double quotes so that every character of it can be seen:
quotes and backslashes are escaped, the common controls have letters of their own, and any other
hidden character is written as its code point in braces.
-/

import Passbook.Text.Hidden

namespace Passbook.Text.Quoted

/-- The written form of one character. -/
def encodeChar (c : Char) : List Char :=
  if c = '\x00' then ['\\', '0']
  else if c = '\t' then ['\\', 't']
  else if c = '\r' then ['\\', 'r']
  else if c = '\n' then ['\\', 'n']
  else if c = '\\' then ['\\', '\\']
  else if c = '\x22' then ['\\', '\x22']
  else if isHidden c then '\\' :: 'u' :: '\x7b' :: Nat.toDigits 16 c.toNat ++ ['\x7d']
  else [c]

def encode (text : String) : String :=
  String.ofList ('\x22' :: text.toList.flatMap encodeChar ++ ['\x22'])

end Passbook.Text.Quoted
