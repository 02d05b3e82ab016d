/-
**Dates of the Gregorian calendar.**

A `Date` is a year, a month and a day that exists in that month; the calendar is extended to all
years, year 0 included. `next` and `prev` step to the neighbouring dates, and `ofDayNumber` finds
the date that lies a number of days after 1970-01-01.
-/

namespace Passbook.Time

def isLeapYear (year : Int) : Bool :=
  year % 4 == 0 && (year % 100 != 0 || year % 400 == 0)

def daysInMonth (year : Int) (month : Nat) : Nat :=
  match month with
  | 2 => if isLeapYear year then 29 else 28
  | 4 | 6 | 9 | 11 => 30
  | _ => 31

theorem daysInMonth_pos (year : Int) (month : Nat) : 1 ≤ daysInMonth year month := by
  unfold daysInMonth
  split <;> first | omega | (split <;> omega)

structure Date where
  year : Int
  month : Nat
  day : Nat
  month_pos : 1 ≤ month
  month_le : month ≤ 12
  day_pos : 1 ≤ day
  day_le : day ≤ daysInMonth year month
  deriving DecidableEq

namespace Date

/-- The date with these parts, if the calendar has it. -/
def of? (year : Int) (month day : Nat) : Option Date :=
  if valid : 1 ≤ month ∧ month ≤ 12 ∧ 1 ≤ day ∧ day ≤ daysInMonth year month then
    some ⟨year, month, day, valid.1, valid.2.1, valid.2.2.1, valid.2.2.2⟩
  else none

/-- The date from which days are numbered, 1970-01-01. -/
def epoch : Date :=
  ⟨1970, 1, 1, by decide, by decide, by decide, by decide⟩

/-- The first of a month. -/
def firstOf (year : Int) (month : Nat) (month_pos : 1 ≤ month) (month_le : month ≤ 12) : Date :=
  ⟨year, month, 1, month_pos, month_le, Nat.le_refl 1, daysInMonth_pos year month⟩

/-- The last of a month. -/
def lastOf (year : Int) (month : Nat) (month_pos : 1 ≤ month) (month_le : month ≤ 12) : Date :=
  ⟨year, month, daysInMonth year month, month_pos, month_le, daysInMonth_pos year month,
    Nat.le_refl _⟩

/-- The day after. -/
def next (date : Date) : Date :=
  if within : date.day < daysInMonth date.year date.month then
    ⟨date.year, date.month, date.day + 1, date.month_pos, date.month_le, by omega, within⟩
  else if more : date.month < 12 then firstOf date.year (date.month + 1) (by omega) more
  else firstOf (date.year + 1) 1 (by decide) (by decide)

/-- The day before. -/
def prev (date : Date) : Date :=
  if within : 1 < date.day then
    ⟨date.year, date.month, date.day - 1, date.month_pos, date.month_le, by omega, by
      have := date.day_le
      omega⟩
  else if more : 1 < date.month then
    lastOf date.year (date.month - 1) (by omega) (by have := date.month_le; omega)
  else lastOf (date.year - 1) 12 (by decide) (by decide)

/-- The date `number` days after 1970-01-01. A year is counted here from the first of March, so a
leap day is the last day of its year; 146097 days make 400 years. -/
def ofDayNumber (number : Int) : Date :=
  let days := number + 719468
  let era := days / 146097
  let ofEra := (days % 146097).toNat
  let yearOfEra := (ofEra - ofEra / 1460 + ofEra / 36524 - ofEra / 146096) / 365
  let ofYear := ofEra - (365 * yearOfEra + yearOfEra / 4 - yearOfEra / 100)
  let fromMarch := (5 * ofYear + 2) / 153
  let day := ofYear - (153 * fromMarch + 2) / 5 + 1
  let month := if fromMarch < 10 then fromMarch + 3 else fromMarch - 9
  let year := (yearOfEra : Int) + era * 400 + (if month ≤ 2 then 1 else 0)
  (of? year month day).getD epoch

end Date

end Passbook.Time
