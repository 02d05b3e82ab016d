/-
**Queries of targets.**

A record is read from the pairs of a query through its form, and the first pair that does not fit
is the one reported.
-/

import Passbook.Internet.Pairs
import Passbook.Order.Json

namespace Passbook.Http.Query

open Text (NumeralError)

/-- A form that is filled in from texts. -/
abbrev TextForm := Form String NumeralError

def primitives : Primitives String NumeralError :=
  ⟨Text.Numeral.readInt64, .ok⟩

/-- Fills in a form from pairs; a pair of another name is left out of account. -/
def fillIn : List (String × String) → TextForm α → Except (FormError NumeralError) α
  | [], form => form.finish
  | (name, value) :: rest, form =>
    match form.accept name value with
    | none => fillIn rest form
    | some (.error problem) => .error problem
    | some (.ok form) => fillIn rest form

/-- What is wrong with a query; a form filled in by names knows no positions. -/
def problemMessage : FormError NumeralError → String
  | .missing name => s!"missing field `{name}`"
  | .duplicate name => s!"duplicate field `{name}`"
  | .unreadable _ problem | .unreadableAt _ problem => problem.message
  | .tooFew given => s!"invalid length {given}"

/-- Reads a record from a query. -/
def read (form : TextForm α) (query : List Char) : Except String α :=
  (fillIn (Internet.Pairs.read query) form).mapError problemMessage

end Passbook.Http.Query
