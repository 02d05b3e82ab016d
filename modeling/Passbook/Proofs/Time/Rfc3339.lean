/-
**Instants that are written are read again.**

`read` takes many spellings of an instant and `write` gives one of them. The instants that `read`
gives lie in known years (`knownYear_of_read`), and what is written for an instant in a known year
is read as that instant, leap seconds and nanoseconds included (`read_write`).

The text is read from left to right, and the lemmas follow the scanning: each says what one step
takes off the front of the text, whatever stands behind it.

* `number_padded`, `valueOf_padded` — the digits of a padded numeral are taken, and are worth the
  number that they were written for.
* `part_run`, `year_run`, `fraction_run` — the parts of a time.
* `parts_run` — the parts of a written instant are those `shown`; `instant_shown` — the parts shown
  tell the instant.
-/

import Mathlib.Data.List.Basic
import Passbook.Proofs.Text.Numeral
import Passbook.Time.Rfc3339

namespace Passbook.Time.Rfc3339

open Text
open Text.Numeral

/-! ### Steps of scanning -/

section Steps

variable {text rest : List Char}

/-- Once a step has taken its part, the next goes on with what is left. -/
theorem run_bind_of_ok {α β : Type} {scan : Scan α} {next : α → Scan β} {value : α}
    (takes : scan.run text = .ok (value, rest)) :
    (scan >>= next).run text = (next value).run rest := by
  rw [StateT.run_bind, takes]
  rfl

theorem get_run (text : List Char) : (get : Scan (List Char)).run text = .ok (text, text) := rfl

theorem set_run (text rest : List Char) : (set rest : Scan Unit).run text = .ok ((), rest) := rfl

theorem mark_run (c : Char) (rest : List Char) : (mark c).run (c :: rest) = .ok ((), rest) := by
  show (if c = c then set rest else throw TimeError.invalid : Scan Unit).run (c :: rest) = _
  rw [if_pos rfl, set_run]

theorem skipBlanks_run {c : Char} (solid : isBlank c = false) (rest : List Char) :
    skipBlanks.run (c :: rest) = .ok ((), c :: rest) := by
  have kept : trimStart (c :: rest) = c :: rest := by simp [trimStart, solid]
  show Except.ok ((), trimStart (c :: rest)) = _
  rw [kept]

theorem isBlank_of_isDigit {c : Char} (digit : c.isDigit = true) : isBlank c = false := by
  rcases isDigit_cases digit with
    rfl | rfl | rfl | rfl | rfl | rfl | rfl | rfl | rfl | rfl <;> rfl

theorem skipBlanks_padded (width n : Nat) (rest : List Char) :
    skipBlanks.run (padded width n ++ rest) = .ok ((), padded width n ++ rest) := by
  obtain ⟨first, others, written, digit⟩ := padded_eq_cons width n
  rw [written, List.cons_append, skipBlanks_run (isBlank_of_isDigit digit)]

end Steps

/-! ### Numbers -/

section Numbers

variable {digits rest : List Char} {width n : Nat}

theorem valueOf_eq_ofDigitChars (decimal : ∀ c ∈ digits, c.isDigit = true) :
    valueOf digits = Nat.ofDigitChars 10 digits 0 := by
  unfold valueOf Nat.ofDigitChars
  refine List.foldl_ext _ _ _ fun value c member => ?_
  rw [digit?_of_isDigit (decimal c member), Option.getD_some, Nat.mul_comm]

theorem valueOf_padded (width n : Nat) : valueOf (padded width n) = n := by
  rw [valueOf_eq_ofDigitChars fun _ => isDigit_of_mem_padded, ofDigitChars_padded]

/-- The text does not go on with a digit. -/
def NoDigit (text : List Char) : Prop :=
  ∀ c ∈ text.head?, digit? c = none

theorem noDigit_cons {c : Char} (other : digit? c = none) (rest : List Char) :
    NoDigit (c :: rest) := by
  intro d here
  rw [List.head?_cons, Option.mem_some_iff] at here
  rwa [← here]

theorem takeWhile_digits (decimal : ∀ c ∈ digits, c.isDigit = true) :
    (digits ++ rest).takeWhile (fun c => (digit? c).isSome) =
      digits ++ rest.takeWhile fun c => (digit? c).isSome := by
  refine List.takeWhile_append_of_pos fun c member => ?_
  rw [digit?_of_isDigit (decimal c member), Option.isSome_some]

/-- Digits as many as are wanted are taken, even where more follow. -/
theorem leadingDigits_of_length (decimal : ∀ c ∈ digits, c.isDigit = true) :
    leadingDigits (some digits.length) (digits ++ rest) = digits := by
  rw [leadingDigits, takeWhile_digits decimal]
  exact List.take_left

/-- Digits that end before the width does are all taken. -/
theorem leadingDigits_of_noDigit {width : Option Nat} (decimal : ∀ c ∈ digits, c.isDigit = true)
    (room : ∀ limit ∈ width, digits.length ≤ limit) (stops : NoDigit rest) :
    leadingDigits width (digits ++ rest) = digits := by
  have ended : (rest.takeWhile fun c => (digit? c).isSome) = [] := by
    cases rest with
    | nil => rfl
    | cons c more => simp [stops c rfl]
  unfold leadingDigits
  rw [takeWhile_digits decimal, ended, List.append_nil]
  cases width with
  | none => rfl
  | some limit => exact List.take_of_length_le (room limit rfl)

theorem number_run {width : Option Nat} (written : digits ≠ [])
    (leads : leadingDigits width (digits ++ rest) = digits) :
    (number width).run (digits ++ rest) = .ok (digits, rest) := by
  obtain ⟨first, others, rfl⟩ := List.exists_cons_of_ne_nil written
  unfold number
  rw [run_bind_of_ok (get_run _), leads]
  simp only [List.cons_append, List.length_cons, List.drop_succ_cons, List.drop_left,
    run_bind_of_ok (set_run _ _)]
  rfl

theorem number_padded (wide : 0 < width) (fits : n < Nat.pow 10 width) (rest : List Char) :
    (number (some width)).run (padded width n ++ rest) = .ok (padded width n, rest) := by
  have leads : leadingDigits (some (padded width n).length) (padded width n ++ rest) =
      padded width n := leadingDigits_of_length fun _ => isDigit_of_mem_padded
  rw [length_padded wide fits] at leads
  exact number_run (padded_ne_nil width n) leads

/-- All digits are taken where no limit is set, or where they do not reach it. -/
theorem number_padded_of_noDigit {limit : Option Nat}
    (room : ∀ most ∈ limit, (padded width n).length ≤ most) (stops : NoDigit rest) :
    (number limit).run (padded width n ++ rest) = .ok (padded width n, rest) :=
  number_run (padded_ne_nil width n)
    (leadingDigits_of_noDigit (fun _ => isDigit_of_mem_padded) room stops)

end Numbers

/-! ### Parts of a time -/

theorem part_run {least greatest n : Nat} (fits : n < 100) (least_le : least ≤ n)
    (le_greatest : n ≤ greatest) (rest : List Char) :
    (part least greatest).run (padded 2 n ++ rest) = .ok (n, rest) := by
  unfold part
  rw [run_bind_of_ok (skipBlanks_padded 2 n rest),
    run_bind_of_ok (number_padded (by decide) fits rest), valueOf_padded]
  simp only [if_pos (And.intro least_le le_greatest)]
  rfl

/-- A year of four digits is written without a sign and needs no mark behind it. -/
theorem year_run_plain {known : Int} (nonneg : 0 ≤ known) (short : known ≤ 9999)
    (rest : List Char) : year.run (padded 4 known.toNat ++ rest) = .ok (known, rest) := by
  have four : (number (some 4)).run (padded 4 known.toNat ++ rest) =
      .ok (padded 4 known.toNat, rest) :=
    number_padded (by decide) (show known.toNat < 10000 by omega) rest
  have back : ((known.toNat : Nat) : Int) = known := by omega
  have bounds : -2147483648 ≤ known ∧ known < 2147483648 := by omega
  obtain ⟨first, others, written, digit⟩ := padded_eq_cons 4 known.toNat
  unfold year
  rw [run_bind_of_ok (skipBlanks_padded 4 known.toNat rest), run_bind_of_ok (get_run _)]
  -- a sign is no digit
  split
  · rename_i _ sign
    rw [written] at sign
    cases sign
    cases digit
  · rename_i _ sign
    rw [written] at sign
    cases sign
    cases digit
  · rw [run_bind_of_ok four, valueOf_padded, back, pure_bind]
    simp only [if_pos bounds]
    rfl

theorem year_run {known : Int} (least : -2147483648 ≤ known) (greatest : known < 2147483648)
    {rest : List Char} (stops : NoDigit rest) :
    year.run (writeYear known ++ rest) = .ok (known, rest) := by
  have digits : (number none).run (padded 4 known.natAbs ++ rest) =
      .ok (padded 4 known.natAbs, rest) :=
    number_padded_of_noDigit (fun _ absurd => by cases absurd) stops
  unfold writeYear
  by_cases plain : 0 ≤ known ∧ known ≤ 9999
  · rw [if_pos plain, year_run_plain plain.1 plain.2]
  rw [if_neg plain, List.cons_append]
  unfold year
  by_cases negative : known < 0
  · have back : -((known.natAbs : Nat) : Int) = known := by omega
    rw [if_pos negative, run_bind_of_ok (skipBlanks_run rfl _), run_bind_of_ok (get_run _)]
    simp only [run_bind_of_ok (set_run _ _), run_bind_of_ok digits, valueOf_padded, back,
      pure_bind, if_pos (And.intro least greatest)]
    rfl
  · have back : ((known.natAbs : Nat) : Int) = known := by omega
    rw [if_neg negative, run_bind_of_ok (skipBlanks_run rfl _), run_bind_of_ok (get_run _)]
    simp only [run_bind_of_ok (set_run _ _), run_bind_of_ok digits, valueOf_padded, back,
      pure_bind, if_pos (And.intro least greatest)]
    rfl

/-- Digits behind the point count from the tenths on. -/
theorem fraction_padded {width n : Nat} (wide : 0 < width) (narrow : width ≤ 9)
    (fits : n < Nat.pow 10 width) (rest : List Char) :
    fraction.run ('.' :: padded width n ++ 'Z' :: rest) =
      .ok (n * Nat.pow 10 (9 - width), 'Z' :: rest) := by
  have size := length_padded wide fits
  have takes : (number (some 9)).run (padded width n ++ 'Z' :: rest) =
      .ok (padded width n, 'Z' :: rest) := by
    refine number_padded_of_noDigit (fun most same => ?_) (noDigit_cons rfl rest)
    cases same
    omega
  show (do
    let digits ← number (some 9)
    modify (·.dropWhile fun c => (digit? c).isSome)
    return valueOf digits * Nat.pow 10 (9 - digits.length) : Scan Nat).run
      (padded width n ++ 'Z' :: rest) = _
  rw [run_bind_of_ok takes, valueOf_padded, size]
  rfl

/-- The fewest digits that lose nothing give all nanoseconds back. -/
theorem fraction_run {nano : Nat} (below : nano < 1000000000) (rest : List Char) :
    fraction.run (writeFraction nano ++ 'Z' :: rest) = .ok (nano, 'Z' :: rest) := by
  unfold writeFraction
  by_cases whole : nano = 0
  · rw [if_pos whole, whole]
    rfl
  rw [if_neg whole]
  by_cases milli : nano % 1000000 = 0
  · rw [if_pos milli, fraction_padded (by decide) (by decide) (show _ < 1000 by omega)]
    have back : nano / 1000000 * Nat.pow 10 (9 - 3) = nano :=
      Nat.div_mul_cancel (Nat.dvd_of_mod_eq_zero milli)
    rw [back]
  rw [if_neg milli]
  by_cases micro : nano % 1000 = 0
  · rw [if_pos micro, fraction_padded (by decide) (by decide) (show _ < 1000000 by omega)]
    have back : nano / 1000 * Nat.pow 10 (9 - 6) = nano :=
      Nat.div_mul_cancel (Nat.dvd_of_mod_eq_zero micro)
    rw [back]
  · rw [if_neg micro, fraction_padded (by decide) (by decide) (show _ < 1000000000 by omega)]
    have back : nano * Nat.pow 10 (9 - 9) = nano := Nat.mul_one nano
    rw [back]

/-! ### Written instants -/

/-- The parts of an instant as they are written. -/
def shown (instant : Instant) : Parts where
  year := instant.date.year
  month := instant.date.month
  day := instant.date.day
  hour := instant.second / 3600
  minute := instant.second / 60 % 60
  second := instant.second % 60 + if 1000000000 ≤ instant.nano then 1 else 0
  nano := instant.nano % 1000000000
  offset := 0

theorem knownYear_iff {year : Int} : knownYear year = true ↔ -262143 ≤ year ∧ year ≤ 262142 := by
  unfold knownYear
  rw [Bool.and_eq_true, decide_eq_true_iff, decide_eq_true_iff]

theorem daysInMonth_le (year : Int) (month : Nat) : daysInMonth year month ≤ 31 := by
  unfold daysInMonth
  split <;> first | omega | (split <;> omega)

theorem parts_run {instant : Instant} (known : knownYear instant.date.year = true) :
    parts.run (write instant).toList = .ok (shown instant, []) := by
  obtain ⟨least, greatest⟩ := knownYear_iff.mp known
  have days := daysInMonth_le instant.date.year instant.date.month
  have month := And.intro instant.date.month_pos instant.date.month_le
  have day := And.intro instant.date.day_pos instant.date.day_le
  have second := instant.second_lt
  unfold write parts
  simp only [String.toList_ofList, List.append_assoc, List.cons_append]
  rw [run_bind_of_ok (year_run (by omega) (by omega) (noDigit_cons rfl _)),
    run_bind_of_ok (skipBlanks_run rfl _), run_bind_of_ok (mark_run _ _),
    run_bind_of_ok (part_run (by omega) (by omega) (by omega) _),
    run_bind_of_ok (skipBlanks_run rfl _), run_bind_of_ok (mark_run _ _),
    run_bind_of_ok (part_run (by omega) (by omega) (by omega) _), run_bind_of_ok (get_run _)]
  simp only [true_or, if_true]
  rw [run_bind_of_ok (set_run _ _),
    run_bind_of_ok (part_run (by omega) (by omega) (by omega) _),
    run_bind_of_ok (skipBlanks_run rfl _), run_bind_of_ok (mark_run _ _),
    run_bind_of_ok (part_run (by omega) (by omega) (by omega) _),
    run_bind_of_ok (skipBlanks_run rfl _), run_bind_of_ok (mark_run _ _),
    run_bind_of_ok (part_run (by split <;> omega) (by omega) (by split <;> omega) _),
    run_bind_of_ok (fraction_run (by omega) _), run_bind_of_ok (skipBlanks_run rfl _)]
  rfl

theorem ofLocal_zero (instant : Instant) : instant.ofLocal 0 = instant := by
  obtain ⟨date, second, nano, second_lt, nano_lt, leap⟩ := instant
  unfold Instant.ofLocal
  have total : (second : Int) - 0 * 60 = second := by omega
  simp only [total, Instant.mk.injEq]
  refine ⟨?_, by omega, trivial⟩
  rw [if_neg (by omega), if_neg (by omega)]

theorem of?_parts (date : Date) : Date.of? date.year date.month date.day = some date := by
  unfold Date.of?
  rw [dif_pos ⟨date.month_pos, date.month_le, date.day_pos, date.day_le⟩]

/-- Only a leap second is written as the sixtieth. -/
theorem shown_second_eq_sixty (instant : Instant) :
    ((shown instant).second == 60) = decide (1000000000 ≤ instant.nano) := by
  have leap_at_end := instant.leap_at_end
  rw [Bool.eq_iff_iff, beq_iff_eq, decide_eq_true_iff]
  unfold shown
  dsimp only
  split <;> omega

/-- **The parts shown tell the instant.** -/
theorem instant_shown {instant : Instant} (known : knownYear instant.date.year = true) :
    (shown instant).instant = .ok instant := by
  have second_lt := instant.second_lt
  have leap_at_end := instant.leap_at_end
  have second : (shown instant).hour * 3600 + (shown instant).minute * 60 +
      (if ((shown instant).second == 60) = true then 59 else (shown instant).second) =
      instant.second := by
    rw [shown_second_eq_sixty]
    unfold shown
    dsimp only
    by_cases long : 1000000000 ≤ instant.nano
    · have ends := leap_at_end long
      rw [if_pos (decide_eq_true long)]
      omega
    · rw [if_neg (by simpa using long), if_neg long]
      omega
  have nano : (shown instant).nano +
      (if ((shown instant).second == 60) = true then 1000000000 else 0) = instant.nano := by
    have nano_lt := instant.nano_lt
    rw [shown_second_eq_sixty]
    unfold shown
    dsimp only
    by_cases long : 1000000000 ≤ instant.nano
    · rw [if_pos (decide_eq_true long)]
      omega
    · rw [if_neg (by simpa using long)]
      omega
  have date : Date.of? (shown instant).year (shown instant).month (shown instant).day =
      some instant.date := of?_parts instant.date
  have whole : knownYear (shown instant).year = true := known
  have zone : (shown instant).offset = 0 := rfl
  unfold Parts.instant
  simp only [date, second, nano, whole, zone, Bool.not_true, Bool.false_eq_true, if_false]
  rw [dif_pos ⟨second_lt, instant.nano_lt, leap_at_end⟩, if_neg (by decide), ofLocal_zero,
    if_pos known]

/-- **An instant that is written is read again**, to the nanosecond. -/
theorem read_write {instant : Instant} (known : knownYear instant.date.year = true) :
    read (write instant) = .ok instant := by
  unfold read
  rw [parts_run known]
  exact instant_shown known

theorem knownYear_of_instant {p : Parts} {instant : Instant} (tells : p.instant = .ok instant) :
    knownYear instant.date.year = true := by
  unfold Parts.instant at tells
  split at tells
  · cases tells
  split at tells
  · cases tells
  extract_lets leap second nano at tells
  split at tells
  · split at tells
    · cases tells
    extract_lets shown told at tells
    split at tells
    · rename_i inside
      rw [← Except.ok.inj tells]
      exact inside
    · cases tells
  · cases tells

/-- **The year of an instant that is read is known**, also where its offset leads into another. -/
theorem knownYear_of_read {text : String} {instant : Instant} (reads : read text = .ok instant) :
    knownYear instant.date.year = true := by
  unfold read at reads
  cases scanned : parts.run text.toList with
  | error problem =>
    rw [scanned] at reads
    cases reads
  | ok outcome =>
    obtain ⟨found, rest⟩ := outcome
    rw [scanned] at reads
    change (if isAllBlank rest = true then found.instant else throw .trailing) = _ at reads
    by_cases ends : isAllBlank rest = true
    · rw [if_pos ends] at reads
      exact knownYear_of_instant reads
    · rw [if_neg ends] at reads
      cases reads

end Passbook.Time.Rfc3339
