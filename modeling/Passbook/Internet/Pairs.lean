/-
**Pairs of names and values.**

A query is a list of pairs with `&` between them; the value of a pair follows its first `=` and is
empty without one. A plus sign stands for a space, bytes may be percent-encoded, and bytes that
spell no character become the replacement character.
-/

import Passbook.Text.Percent
import Passbook.Text.Split

namespace Passbook.Internet.Pairs

/-- The text that a name or a value stands for. -/
def decode (text : List Char) : String :=
  let spaced := text.map fun c => if c = '+' then ' ' else c
  String.ofList (Text.Utf8.decodeLossy (Text.Percent.decode (Text.Utf8.encode spaced)))

def pair (text : List Char) : String × String :=
  let (name, value) := Text.cut '=' text
  (decode name, decode (value.getD []))

/-- The pairs of a query, in their order. -/
def read (query : List Char) : List (String × String) :=
  ((Text.split '&' query).filter fun part => !part.isEmpty).map pair

end Passbook.Internet.Pairs
