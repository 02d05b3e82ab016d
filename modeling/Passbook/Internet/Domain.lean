/-
**Domains.**

A domain is a text of labels with points between them. `Domain.read?` folds the text, brings it into
normal form and checks its labels. A label in Punycode behind `xn--` stands for a text beyond ASCII
that is folded and normal already. No label begins with a mark, joiners stand only where they change
something, and where anything is written from right to left every label has one direction.
-/

import Passbook.Internet.Domain.Direction
import Passbook.Internet.Domain.Folding
import Passbook.Internet.Domain.Joining
import Passbook.Internet.Punycode
import Passbook.Text.Normal

namespace Passbook.Internet.Domain

/-- What a label in Punycode begins with. -/
def codePrefix : List Char := "xn--".toList

/-- The greatest length of a label in Punycode behind its beginning. -/
def codeLimit : Nat := 2000

/-- The greatest length of a label beyond ASCII that is not in Punycode. -/
def textLimit : Nat := 1000

/-- The text that a label in Punycode stands for. -/
def decodeLabel? (code : List Char) : Option (List Char) := do
  if codeLimit < code.length then none
  let text ← Punycode.decode? code
  if text.all isKept && Text.Normal.normalize text == text then some text else none

/-- The text that a label stands for. -/
def labelText? (label : List Char) : Option (List Char) :=
  if codePrefix.isPrefixOf label then decodeLabel? (label.drop codePrefix.length)
  else if textLimit < label.length && !Punycode.isPlain label then none
  else some label

/-- A label does not begin with a mark, and joiners stand where they may. -/
def isLabel (label : List Char) : Bool :=
  !(label.head?.any Text.isMark) && joinsAfter [] label

/-- The labels of one domain go together. -/
def areDirected (labels : List (List Char)) : Bool :=
  !(labels.any fun label => label.any isLeftward) || labels.all isDirected

/-- Reads a domain none of whose characters is reserved; gives it folded and in normal form. -/
def read? (isReserved : Char → Bool) (text : List Char) : Option (List Char) := do
  let name := Text.Normal.normalize (text.flatMap fold)
  if text.any isRefused || name.any isReserved then none
  let labels ← (Text.split '.' name).mapM labelText?
  if labels.all isLabel && areDirected labels then some name else none

end Passbook.Internet.Domain
