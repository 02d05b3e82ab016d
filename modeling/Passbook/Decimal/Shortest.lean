/-
**The shortest decimal of a binary number.**

`shortest` gives the fewest decimal digits that read back as the number: on each grid of 1, 2, … 17
digits the two neighbours of the number are tried, and the first grid with a neighbour that rounds
to the number wins, the nearer one of two and the even one of a tie. `Binary64.toText` writes these
digits with a point while it falls within or close to them, and with an exponent otherwise.
-/

import Passbook.Decimal.Binary

namespace Passbook.Decimal

open Binary64

/-- The number `digits · 10^power`. -/
structure Digits where
  digits : Nat
  power : Int
  deriving DecidableEq, Repr

/-- Whether the fraction `n / d` rounds to the positive number `x`: it lies between the midpoints to
the neighbours of `x`, which count as within when the mantissa is even. -/
def roundsTo (x : Binary64) (n d : Nat) : Bool :=
  let quarter := (⟨false, 1, x.exponent - 2⟩ : Binary64).fraction
  let below := if x.mantissa = Nat.pow 2 52 ∧ leastExponent < x.exponent then 1 else 2
  let low := 4 * x.mantissa - below
  let high := 4 * x.mantissa + 2
  let value := n * quarter.2
  let unit := quarter.1 * d
  if x.mantissa % 2 = 0 then low * unit ≤ value && value ≤ high * unit
  else low * unit < value && value < high * unit

/-- The number of digits of `n / d` before the point; zero or less for what follows the point. -/
def magnitude (n d : Nat) : Int :=
  if d ≤ n then (Nat.toDigits 10 (n / d)).length
  else 1 - (((List.range 400).find? fun shift => d ≤ n * Nat.pow 10 shift).getD 0 : Nat)

/-- The fraction `digits · 10^power`. -/
def Digits.fraction (x : Digits) : Nat × Nat :=
  if x.power < 0 then (x.digits, Nat.pow 10 x.power.natAbs)
  else (x.digits * Nat.pow 10 x.power.natAbs, 1)

/-- The neighbour of `x` on the grid of `width` digits that rounds to it, if there is one. -/
def onGrid (x : Binary64) (width : Nat) : Option Digits :=
  let (n, d) := x.fraction
  let power := magnitude n d - width
  let scale := Nat.pow 10 power.natAbs
  let (a, b) := if power < 0 then (n * scale, d) else (n, d * scale)
  let floor : Digits := ⟨a / b, power⟩
  let ceiling : Digits := ⟨a / b + 1, power⟩
  let fits (y : Digits) := roundsTo x y.fraction.1 y.fraction.2
  if fits floor && fits ceiling then
    some (if roundQuotient a b = a / b then floor else ceiling)
  else if fits floor then some floor
  else if fits ceiling then some ceiling
  else none

/-- Takes the zeros off the end of the digits. -/
def stripZeros (digits : Nat) (power : Int) : Digits :=
  if h : digits ≠ 0 ∧ digits % 10 = 0 then stripZeros (digits / 10) (power + 1) else ⟨digits, power⟩
termination_by digits
decreasing_by omega

/-- The fewest digits that read back as `x`. -/
def shortest (x : Binary64) : Digits :=
  match (List.range 18).findSome? fun width => if width = 0 then none else onGrid x width with
  | some found => stripZeros found.digits found.power
  | none => ⟨0, 0⟩

/-! ### Writing -/

/-- The greatest number of digits before the point without an exponent. -/
def greatestPlain : Int := 16

/-- The greatest number of zeros between the point and the first digit without an exponent. -/
def greatestZeros : Int := 4

/-- An exponent, which has a sign in any case. -/
def writeExponent (exponent : Int) : List Char :=
  'e' :: (if exponent < 0 then '-' else '+') :: Nat.toDigits 10 exponent.natAbs

def writeDigits (x : Digits) : List Char :=
  let digits := Nat.toDigits 10 x.digits
  let point := digits.length + x.power
  if 0 ≤ x.power ∧ point ≤ greatestPlain then
    digits ++ List.replicate x.power.toNat '0' ++ ['.', '0']
  else if 0 < point ∧ point ≤ greatestPlain then
    digits.take point.toNat ++ '.' :: digits.drop point.toNat
  else if -greatestZeros ≤ point ∧ point ≤ 0 then
    '0' :: '.' :: List.replicate (-point).toNat '0' ++ digits
  else
    match digits with
    | [d] => d :: writeExponent (point - 1)
    | d :: rest => d :: '.' :: rest ++ writeExponent (point - 1)
    | [] => writeExponent (point - 1)

/-- The shortest text of a number, with a point or an exponent. -/
def Binary64.toText (x : Binary64) : String :=
  let magnitude := if x.mantissa = 0 then ['0', '.', '0'] else writeDigits (shortest x)
  String.ofList (if x.negative then '-' :: magnitude else magnitude)

end Passbook.Decimal
