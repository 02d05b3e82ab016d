/-
**Amounts of money.**

An `Amount` counts minor units of a currency and lies between 1 and `Amount.greatest`. It is made
from an integer by `Amount.ofInt` or from a text by `Amount.ofText`, which strips blanks and reads
a numeral first.
-/

import Passbook.Text.Blank
import Passbook.Text.Numeral

namespace Passbook

/-- The greatest amount that one transfer may move. -/
def Amount.greatest : Int := 1000000000000000

structure Amount where
  value : Int
  positive : 0 < value
  le_greatest : value ≤ Amount.greatest
  deriving DecidableEq

/-- Why something is not an amount. -/
inductive AmountError where
  | notPositive (value : Int)
  | tooLarge
  | unreadable (reason : String)
  deriving DecidableEq, Repr

def AmountError.message : AmountError → String
  | notPositive value => s!"Amount must be positive (got {value})"
  | tooLarge => s!"Amount exceeds maximum allowed value ({Amount.greatest})"
  | unreadable reason => s!"Invalid amount format: {reason}"

namespace Amount

def ofInt (n : Int) : Except AmountError Amount :=
  if positive : 0 < n then
    if bounded : n ≤ greatest then .ok ⟨n, positive, bounded⟩ else .error .tooLarge
  else .error (.notPositive n)

theorem ofInt_eq_error {number : Int} {problem : AmountError} :
    ofInt number = .error problem ↔
      (number < 1 ∧ problem = .notPositive number) ∨ (greatest < number ∧ problem = .tooLarge) := by
  unfold ofInt
  by_cases positive : 0 < number
  · have least : ¬ number < 1 := by omega
    by_cases small : number ≤ greatest
    · simp [positive, small, least, Int.not_lt.mpr small]
    · simp [positive, small, least, Int.not_le.mp small, eq_comm]
  · have least : number < 1 := by omega
    have small : ¬ greatest < number := by
      unfold greatest
      omega
    simp [positive, small, least, eq_comm]

theorem value_of_ofInt {number : Int} {amount : Amount} (valid : ofInt number = .ok amount) :
    amount.value = number := by
  unfold ofInt at valid
  by_cases positive : 0 < number
  · by_cases small : number ≤ greatest
    · simp only [dif_pos positive, dif_pos small] at valid
      cases valid
      rfl
    · simp only [dif_pos positive, dif_neg small] at valid
      cases valid
  · simp only [dif_neg positive] at valid
    cases valid

def ofText (text : String) : Except AmountError Amount :=
  match Text.Numeral.read .int64 (Text.trim text.toList) with
  | .error problem => .error (.unreadable problem.message)
  | .ok n => ofInt n

def toText (amount : Amount) : String :=
  toString amount.value

end Amount

end Passbook
