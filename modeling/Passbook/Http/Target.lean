/-
**Targets of requests.**

A `Target` is a path and a query, which are written with a question mark between them; what follows
a number sign is left out of account. Another site may stand before them: a scheme, two slashes and
an authority. Behind an authority a path that is left out is `/`, and an authority without a scheme
has no path at all.
-/

import Passbook.Text.Split

namespace Passbook.Http

structure Target where
  path : List Char
  /-- Empty when there is none. -/
  query : List Char
  deriving DecidableEq, Repr

namespace Target

/-- Reads a path and a query. -/
def ofPlace (text : List Char) : Target :=
  let (path, query) := Text.cut '?' (Text.cut '#' text).1
  ⟨path, query.getD []⟩

/-- An authority goes on with this character. -/
def isAuthority (c : Char) : Bool :=
  c != '/' && c != '?' && c != '#'

/-- What stands behind a scheme and an authority. -/
def placeBehind? (text : List Char) : Option (List Char) :=
  match Text.cut ':' text with
  | (_, some ('/' :: '/' :: rest)) => some (rest.dropWhile isAuthority)
  | _ => none

def read : List Char → Target
  | '/' :: rest => ofPlace ('/' :: rest)
  | text =>
    match placeBehind? text with
    | none => ⟨[], []⟩
    | some place =>
      let target := ofPlace place
      if target.path.isEmpty then { target with path := ['/'] } else target

end Target

end Passbook.Http
