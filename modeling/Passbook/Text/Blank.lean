/-
**Blank characters.**

`isBlank` is the Unicode property White_Space, given by its table of ranges; `trim` strips blanks
from both ends of a text, `trimStart` from its front and `trimEnd` from its end.
-/

namespace Passbook.Text

/-- The ranges of code points with the property White_Space, ends included. -/
def blankRanges : List (Nat × Nat) :=
  [(0x9, 0xD), (0x20, 0x20), (0x85, 0x85), (0xA0, 0xA0), (0x1680, 0x1680), (0x2000, 0x200A),
    (0x2028, 0x2029), (0x202F, 0x202F), (0x205F, 0x205F), (0x3000, 0x3000)]

/-- Some range of `ranges` holds the code point of `c`. -/
def inRanges (ranges : List (Nat × Nat)) (c : Char) : Bool :=
  ranges.any fun (least, greatest) => least ≤ c.toNat && c.toNat ≤ greatest

def isBlank (c : Char) : Bool :=
  inRanges blankRanges c

def trimStart (text : List Char) : List Char :=
  text.dropWhile isBlank

def trimEnd (text : List Char) : List Char :=
  (text.reverse.dropWhile isBlank).reverse

def trim (text : List Char) : List Char :=
  trimEnd (trimStart text)

/-- Nothing is left after the blanks are stripped. -/
def isAllBlank (text : List Char) : Bool :=
  text.all isBlank

end Passbook.Text
