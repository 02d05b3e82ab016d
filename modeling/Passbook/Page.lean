/-
**Pages of a listing.**

A `Page` is a page number, counted from 1, and a size. `Page.window` turns it into the `Window` of
rows that it shows: how many rows to skip and how many to take. A page is refused when its number
is below 1, when its size is out of bounds, or when the rows to skip leave the 64-bit integers.
-/

import Passbook.Text.Numeral

namespace Passbook

structure Page where
  number : Int
  size : Int
  deriving DecidableEq, Repr

/-- The rows of a listing to show: at most `limit` of them, after the first `offset`. -/
structure Window where
  limit : Int
  offset : Int
  deriving DecidableEq, Repr

inductive PageError where
  | numberTooSmall (number : Int)
  | sizeOutOfBounds (size : Int)
  | numberOutOfRange (number : Int)
  deriving DecidableEq, Repr

namespace Page

def leastSize : Int := 5

def greatestSize : Int := 10

/-- The page shown when a request names none. -/
def standard : Page := ⟨1, 10⟩

def window (page : Page) : Except PageError Window :=
  if page.number < 1 then .error (.numberTooSmall page.number)
  else if page.size < leastSize ∨ greatestSize < page.size then .error (.sizeOutOfBounds page.size)
  else
    let offset := (page.number - 1) * page.size
    if Text.IntegerRange.int64.contains offset then .ok ⟨page.size, offset⟩
    else .error (.numberOutOfRange page.number)

end Page

def PageError.message : PageError → String
  | numberTooSmall number => s!"page_id must be at least 1 (got {number})"
  | sizeOutOfBounds size =>
    s!"page_size must be between {Page.leastSize} and {Page.greatestSize} (got {size})"
  | numberOutOfRange number => s!"page_id {number} is out of range"

end Passbook
