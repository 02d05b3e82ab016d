/-
**Normal form.**

Two texts that are told apart only by how their characters are composed, or by the order of marks
that may stand in any order, have one normal form: every character is taken apart, the marks are put
in order, and each character is then composed with every mark behind it that no mark between them
keeps from it.
-/

import Passbook.Text.Normal.Order
import Passbook.Text.Normal.Pairs

namespace Passbook.Text.Normal

/-- The characters of which one is composed, when it is taken apart so many times at most. -/
def decomposeWithin : Nat → Char → List Char
  | 0, c => [c]
  | times + 1, c =>
    match parts? c with
    | some (first, second) => decomposeWithin times first ++ [second]
    | none => [c]

/-- The characters of which one is composed in the end, which are four at most. -/
def decompose (c : Char) : List Char :=
  decomposeWithin 3 c

/-- Composes a text whose marks are in order. `starter` is the last character that marks may be
composed with, and `marks` are those behind it that are not, the last of them first. -/
def composeOnto (starter : Char) (marks : List Char) : List Char → List Char
  | [] => starter :: marks.reverse
  | c :: rest =>
    let isNear := match marks with
      | [] => true
      | mark :: _ => markClass mark < markClass c
    match if isNear then pair? starter c else none with
    | some composed => composeOnto composed marks rest
    | none =>
      if markClass c = 0 then starter :: marks.reverse ++ composeOnto c [] rest
      else composeOnto starter (c :: marks) rest

/-- Composes a text whose marks are in order; marks at its front stay as they are. -/
def compose (text : List Char) : List Char :=
  let isFront c := 0 < markClass c
  match text.dropWhile isFront with
  | [] => text
  | starter :: rest => text.takeWhile isFront ++ composeOnto starter [] rest

def normalize (text : List Char) : List Char :=
  compose (settle (text.flatMap decompose))

end Passbook.Text.Normal
