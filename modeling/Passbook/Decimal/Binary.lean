/-
**Binary numbers of double precision.**

A `Binary64` is a finite number `± mantissa · 2^exponent` with at most 53 bits of mantissa.
`nearest` rounds a quotient of natural numbers to the closest such number, a tie to the even
mantissa, and gives nothing when the quotient is too large. `scaled` is the number that a decimal
`significand · 10^power` is read as: its digits are rounded once and its power of ten once.
-/

namespace Passbook.Decimal

structure Binary64 where
  negative : Bool
  mantissa : Nat
  exponent : Int
  deriving DecidableEq, Repr

namespace Binary64

/-- The integer nearest to `n / d`, a tie going to the even one. -/
def roundQuotient (n d : Nat) : Nat :=
  let q := n / d
  let r := n % d
  if d < 2 * r ∨ (2 * r = d ∧ q % 2 = 1) then q + 1 else q

/-- The fraction `n / d` divided by `2^exponent`. -/
def shifted (n d : Nat) (exponent : Int) : Nat × Nat :=
  if exponent < 0 then (n * Nat.pow 2 exponent.natAbs, d)
  else (n, d * Nat.pow 2 exponent.natAbs)

def leastExponent : Int := -1074

def greatestExponent : Int := 971

/-- The exponent at which the mantissa of `n / d` has 53 bits, or the least one. -/
def exponentOf (n d : Nat) : Int :=
  let guess := (n.log2 : Int) - d.log2 - 52
  let (a, b) := shifted n d guess
  max leastExponent (if a / b < Nat.pow 2 52 then guess - 1 else guess)

/-- The number closest to `n / d`; nothing when it is out of range. -/
def nearest (n d : Nat) : Option Binary64 :=
  if n = 0 then some ⟨false, 0, leastExponent⟩
  else
    let exponent := exponentOf n d
    let (a, b) := shifted n d exponent
    let mantissa := roundQuotient a b
    let (mantissa, exponent) :=
      if mantissa = Nat.pow 2 53 then (Nat.pow 2 52, exponent + 1) else (mantissa, exponent)
    if greatestExponent < exponent then none else some ⟨false, mantissa, exponent⟩

/-- The magnitude of a number as a fraction. -/
def fraction (x : Binary64) : Nat × Nat :=
  if x.exponent < 0 then (x.mantissa, Nat.pow 2 x.exponent.natAbs)
  else (x.mantissa * Nat.pow 2 x.exponent.natAbs, 1)

def zero : Binary64 := ⟨false, 0, leastExponent⟩

/-- The magnitude of a product. -/
def mul? (x y : Binary64) : Option Binary64 :=
  nearest (x.fraction.1 * y.fraction.1) (x.fraction.2 * y.fraction.2)

/-- The magnitude of a quotient. -/
def div (x y : Binary64) : Binary64 :=
  (nearest (x.fraction.1 * y.fraction.2) (x.fraction.2 * y.fraction.1)).getD zero

/-- The number closest to a power of ten. -/
def powerOfTen (power : Nat) : Binary64 :=
  (nearest (Nat.pow 10 power) 1).getD zero

/-- The greatest power of ten that is in range. -/
def greatestPower : Nat := 308

/-- Divides by a power of ten, in steps of at most `greatestPower`. -/
def scaleDown (x : Binary64) (power : Nat) : Binary64 :=
  if power ≤ greatestPower then x.div (powerOfTen power)
  else if x.mantissa = 0 then x
  else scaleDown (x.div (powerOfTen greatestPower)) (power - greatestPower)
termination_by power
decreasing_by
  have : 0 < greatestPower := by decide
  omega

/-- The number that `significand · 10^power` is read as; nothing when it is out of range. -/
def scaled (significand : Nat) (power : Int) : Option Binary64 := do
  let x ← nearest significand 1
  if power < 0 then return scaleDown x power.natAbs
  else if power.natAbs ≤ greatestPower then x.mul? (powerOfTen power.natAbs)
  else if x.mantissa = 0 then return x
  else none

def neg (x : Binary64) : Binary64 :=
  { x with negative := !x.negative }

end Binary64

end Passbook.Decimal
