/-
**Integer numerals within a range.**

A numeral is an optional sign followed by one or more ASCII digits. `read range text` gives its
value when the value lies in `range`; a minus sign is part of a numeral only where the range has
negative members. The digits are read from left to right and the first problem is the one reported,
so a numeral that has left the range is refused even when a stray character follows.
-/

namespace Passbook.Text

/-- An interval of integers, ends included. -/
structure IntegerRange where
  least : Int
  greatest : Int
  deriving DecidableEq, Repr

namespace IntegerRange

/-- The signed integers of 64 bits. -/
def int64 : IntegerRange := ⟨-9223372036854775808, 9223372036854775807⟩

/-- The unsigned integers of 64 bits. -/
def word64 : IntegerRange := ⟨0, 18446744073709551615⟩

/-- The unsigned integers of 32 bits. -/
def word32 : IntegerRange := ⟨0, 4294967295⟩

/-- The unsigned integers of 16 bits. -/
def word16 : IntegerRange := ⟨0, 65535⟩

def contains (range : IntegerRange) (n : Int) : Bool :=
  range.least ≤ n && n ≤ range.greatest

theorem contains_iff {range : IntegerRange} {n : Int} :
    range.contains n = true ↔ range.least ≤ n ∧ n ≤ range.greatest := by
  rw [contains, Bool.and_eq_true, decide_eq_true_iff, decide_eq_true_iff]

theorem int64_contains {n : Int} : int64.contains n = true ↔
    -9223372036854775808 ≤ n ∧ n ≤ 9223372036854775807 :=
  contains_iff

end IntegerRange

/-- Why a text is not the numeral of an integer in the range. -/
inductive NumeralError where
  | empty
  | invalidDigit
  | tooLarge
  | tooSmall
  deriving DecidableEq, Repr

def NumeralError.message : NumeralError → String
  | empty => "cannot parse integer from empty string"
  | invalidDigit => "invalid digit found in string"
  | tooLarge => "number too large to fit in target type"
  | tooSmall => "number too small to fit in target type"

namespace Numeral

/-- The value of an ASCII digit. -/
def digit? (c : Char) : Option Nat :=
  if '0' ≤ c ∧ c ≤ '9' then some (c.toNat - '0'.toNat) else none

/-- Reads digits onto `value`, away from zero in the direction of the sign. -/
def readDigits (range : IntegerRange) (negative : Bool) (value : Int) :
    List Char → Except NumeralError Int
  | [] => .ok value
  | c :: rest =>
    match digit? c with
    | none => .error .invalidDigit
    | some d =>
      let next := if negative then value * 10 - d else value * 10 + d
      if range.contains next then readDigits range negative next rest
      else .error (if negative then .tooSmall else .tooLarge)

/-- At least one digit, all of them digits, none leaving the range. -/
def readUnsigned (range : IntegerRange) (negative : Bool) :
    List Char → Except NumeralError Int
  | [] => .error .invalidDigit
  | text => readDigits range negative 0 text

def read (range : IntegerRange) : List Char → Except NumeralError Int
  | [] => .error .empty
  | '+' :: rest => readUnsigned range false rest
  | '-' :: rest =>
    if range.least < 0 then readUnsigned range true rest else .error .invalidDigit
  | text => readUnsigned range false text

/-- Reads a signed integer of 64 bits. -/
def readInt64 (text : String) : Except NumeralError Int :=
  read .int64 text.toList

/-- The decimal digits of `n`, with zeros in front up to `width` characters. -/
def padded (width n : Nat) : List Char :=
  let digits := Nat.toDigits 10 n
  List.replicate (width - digits.length) '0' ++ digits

end Numeral

end Passbook.Text
