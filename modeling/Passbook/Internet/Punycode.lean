/-
**Punycode.**

A label in Punycode has the ASCII characters of a text, a hyphen unless there are none, and digits
in base 36 that say which other characters to insert where: each number, written least digit first
and ended by a digit below a threshold, is the distance to the next insertion, counted over all
places for one code point after the other from 128 upwards.
-/

import Passbook.Text.Split

namespace Passbook.Internet.Punycode

/-- The value of a digit. -/
def digit? (c : Char) : Option Nat :=
  if 'a' ≤ c ∧ c ≤ 'z' then some (c.toNat - 'a'.toNat)
  else if '0' ≤ c ∧ c ≤ '9' then some (c.toNat - '0'.toNat + 26)
  else none

/-- Divides a distance by 35 until it is at most 455; gives what is left and how often. -/
def scaleDown (delta : Nat) : Nat × Nat :=
  if 455 < delta then
    let (left, times) := scaleDown (delta / 35)
    (left, times + 1)
  else (delta, 0)
termination_by delta
decreasing_by omega

/-- The bias of the thresholds after a distance, given the length of the text that it led to. -/
def adapt (delta length : Nat) (first : Bool) : Nat :=
  let damped := if first then delta / 700 else delta / 2
  let (left, times) := scaleDown (damped + damped / length)
  36 * times + 36 * left / (left + 38)

/-- All characters of a text are of ASCII. -/
def isPlain (text : List Char) : Bool :=
  text.all fun c => c.toNat < 128

/-- How far a reader has come. -/
structure State where
  output : List Char
  codePoint : Nat := 128
  /-- The place of the next insertion. -/
  index : Nat := 0
  bias : Nat := 72
  /-- The distance that is being read. -/
  delta : Nat := 0
  weight : Nat := 1
  /-- The number of its digits that were read. -/
  digits : Nat := 0

/-- The digits from this one up say that more follow. -/
def State.threshold (state : State) : Nat :=
  min 26 (max 1 (36 * (state.digits + 1) - state.bias))

/-- Inserts the character at which a distance ends. -/
def State.insert? (state : State) (delta : Nat) : Option State :=
  let size := state.output.length + 1
  let place := state.index + delta
  let codePoint := state.codePoint + place / size
  if codePoint.isValidChar then
    let output := state.output.insertIdx (place % size) (Char.ofNat codePoint)
    let bias := adapt delta size (isPlain state.output)
    some { output, codePoint, index := place % size + 1, bias }
  else none

def State.step (state : State) (digit : Nat) : Option State :=
  let delta := state.delta + digit * state.weight
  if digit < state.threshold then state.insert? delta
  else
    let weight := state.weight * (36 - state.threshold)
    some { state with delta, weight, digits := state.digits + 1 }

/-- The text of a label in lower case, which must have some character beyond ASCII. -/
def decode? (label : List Char) : Option (List Char) := do
  let (digits, output) := match Text.cut '-' label.reverse with
    | (digits, some output) => (digits.reverse, output.reverse)
    | (_, none) => (label, [])
  let state ← (← digits.mapM digit?).foldlM State.step { output }
  if isPlain output && state.digits == 0 && !digits.isEmpty then some state.output else none

end Passbook.Internet.Punycode
