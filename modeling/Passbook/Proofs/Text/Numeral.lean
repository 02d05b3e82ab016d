/-
**Decimal digits.**

* `digit?_of_isDigit`, `isDigit_cases` — what a decimal digit is worth, and the ten of them.
* `padded_eq_cons` — a padded numeral begins with a digit; `length_padded` — it has the width that
  it was padded to, unless its digits need more.
* `ofDigitChars_padded` — the zeros in front do not change its value.
* **`read_toString`** — an integer of a range is read as it was written, if zero is in the range.
* `Spells text n` — the text is a numeral of the number; **`read_eq_ok_iff`** — what is read is what
  is spelled, within the range.
* `spells_toString` — a number is spelled as it is written; `Spells.solid` — no blank stands in a
  numeral.
-/

import Passbook.Text.Blank
import Passbook.Text.Numeral

namespace Passbook.Text.Numeral

theorem digit?_of_isDigit {c : Char} (digit : c.isDigit = true) :
    digit? c = some (c.toNat - '0'.toNat) := by
  have bounds : '0' ≤ c ∧ c ≤ '9' := by
    simpa [Char.isDigit, Char.le_def] using digit
  rw [digit?, if_pos bounds]

theorem isDigit_of_digit? {c : Char} {d : Nat} (digit : digit? c = some d) :
    c.isDigit = true ∧ d = c.toNat - '0'.toNat := by
  unfold digit? at digit
  split at digit
  · rename_i bounds
    cases digit
    exact ⟨by simpa [Char.isDigit, Char.le_def] using bounds, rfl⟩
  · cases digit

/-- The ten digits. -/
theorem isDigit_cases {c : Char} (digit : c.isDigit = true) :
    c = '0' ∨ c = '1' ∨ c = '2' ∨ c = '3' ∨ c = '4' ∨ c = '5' ∨ c = '6' ∨ c = '7' ∨ c = '8' ∨
      c = '9' := by
  have each : ∀ n < 58, 48 ≤ n → Char.ofNat n = '0' ∨ Char.ofNat n = '1' ∨ Char.ofNat n = '2' ∨
      Char.ofNat n = '3' ∨ Char.ofNat n = '4' ∨ Char.ofNat n = '5' ∨ Char.ofNat n = '6' ∨
      Char.ofNat n = '7' ∨ Char.ofNat n = '8' ∨ Char.ofNat n = '9' := by decide
  have bounds : 48 ≤ c.toNat ∧ c.toNat ≤ 57 := by
    simpa [Char.isDigit, UInt32.le_iff_toNat_le] using digit
  have its := each c.toNat (by omega) bounds.1
  rw [Char.ofNat_toNat] at its
  exact its

/-! ### Padded numerals -/

theorem isDigit_of_mem_padded {width n : Nat} {c : Char} (member : c ∈ padded width n) :
    c.isDigit = true := by
  rcases List.mem_append.mp member with zero | digit
  · rw [(List.mem_replicate.mp zero).2]
    rfl
  · exact Nat.isDigit_of_mem_toDigits (by omega) (by omega) digit

theorem padded_ne_nil (width n : Nat) : padded width n ≠ [] := by
  intro none_written
  exact Nat.toDigits_ne_nil (List.append_eq_nil_iff.mp none_written).2

/-- A padded numeral begins with a digit. -/
theorem padded_eq_cons (width n : Nat) :
    ∃ first others, padded width n = first :: others ∧ first.isDigit = true := by
  obtain ⟨first, others, written⟩ := List.exists_cons_of_ne_nil (padded_ne_nil width n)
  have member : first ∈ padded width n := written ▸ List.mem_cons_self
  exact ⟨first, others, written, isDigit_of_mem_padded member⟩

theorem length_padded {width n : Nat} (wide : 0 < width) (fits : n < Nat.pow 10 width) :
    (padded width n).length = width := by
  have short := (Nat.length_toDigits_le_iff (by omega : 1 < 10) wide).mpr fits
  simp only [padded, List.length_append, List.length_replicate]
  omega

theorem ofDigitChars_replicate_zero (count : Nat) :
    Nat.ofDigitChars 10 (List.replicate count '0') 0 = 0 := by
  induction count with
  | zero => rfl
  | succ count ih =>
    rw [List.replicate_succ, Nat.ofDigitChars_cons]
    exact ih

/-- **The value of a padded numeral** is the number that it was written for. -/
theorem ofDigitChars_padded (width n : Nat) : Nat.ofDigitChars 10 (padded width n) 0 = n := by
  unfold padded
  rw [Nat.ofDigitChars_append, ofDigitChars_replicate_zero, Nat.ofDigitChars_ten_toDigits]

/-! ### Integers -/

theorem le_ofDigitChars (digits : List Char) (start : Nat) :
    start ≤ Nat.ofDigitChars 10 digits start := by
  induction digits generalizing start with
  | nil => exact Nat.le_refl start
  | cons c rest ih =>
    rw [Nat.ofDigitChars_cons]
    exact Nat.le_trans (by omega) (ih _)

theorem toString_of_nonneg {n : Int} (nonneg : 0 ≤ n) :
    (toString n).toList = Nat.toDigits 10 n.toNat := by
  show (Int.repr n).toList = _
  rw [Int.repr_eq_if, if_pos nonneg, Nat.repr_eq_ofList_toDigits, String.toList_ofList]

theorem toString_of_neg {n : Int} (negative : n < 0) :
    (toString n).toList = '-' :: Nat.toDigits 10 (-n).toNat := by
  show (Int.repr n).toList = _
  rw [Int.repr_eq_if, if_neg (by omega), Nat.repr_eq_ofList_toDigits, String.toList_append,
    String.toList_ofList, String.toList_ofList]
  rfl

/-- The text is a numeral of the number: a sign or none, and digits. -/
inductive Spells : List Char → Int → Prop
  | bare {digits : List Char} : digits ≠ [] → (∀ c ∈ digits, c.isDigit = true) →
    Spells digits (Nat.ofDigitChars 10 digits 0)
  | plus {digits : List Char} : digits ≠ [] → (∀ c ∈ digits, c.isDigit = true) →
    Spells ('+' :: digits) (Nat.ofDigitChars 10 digits 0)
  | minus {digits : List Char} : digits ≠ [] → (∀ c ∈ digits, c.isDigit = true) →
    Spells ('-' :: digits) (-Nat.ofDigitChars 10 digits 0)

/-- A number is spelled as it is written. -/
theorem spells_toString (n : Int) : Spells (toString n).toList n := by
  have decimal : ∀ n : Nat, ∀ c ∈ Nat.toDigits 10 n, c.isDigit = true :=
    fun n c member => Nat.isDigit_of_mem_toDigits (by omega) (by omega) member
  by_cases nonneg : 0 ≤ n
  · have spells := Spells.bare Nat.toDigits_ne_nil (decimal n.toNat)
    rwa [Nat.ofDigitChars_ten_toDigits, Int.toNat_of_nonneg nonneg,
      ← toString_of_nonneg nonneg] at spells
  · have spells := Spells.minus Nat.toDigits_ne_nil (decimal (-n).toNat)
    rwa [Nat.ofDigitChars_ten_toDigits, Int.toNat_of_nonneg (by omega), Int.neg_neg,
      ← toString_of_neg (by omega)] at spells

theorem isBlank_of_isDigit {c : Char} (digit : c.isDigit = true) : isBlank c = false := by
  rcases isDigit_cases digit with
    rfl | rfl | rfl | rfl | rfl | rfl | rfl | rfl | rfl | rfl <;> rfl

/-- No blank stands in a numeral. -/
theorem Spells.solid {text : List Char} {n : Int} (spells : Spells text n) :
    ∀ c ∈ text, isBlank c = false := by
  cases spells with
  | bare _ decimal => exact fun c member => isBlank_of_isDigit (decimal c member)
  | plus _ decimal | minus _ decimal =>
    exact List.forall_mem_cons.mpr ⟨rfl, fun c member => isBlank_of_isDigit (decimal c member)⟩

/-- A number with its sign. -/
def signed (negative : Bool) (n : Nat) : Int :=
  if negative then -n else n

/-- One more digit, away from zero. -/
theorem signed_push (negative : Bool) (start d : Nat) :
    (if negative then signed negative start * 10 - d else signed negative start * 10 + d) =
      signed negative (10 * start + d) := by
  cases negative <;> simp only [signed, if_true, if_false, Bool.false_eq_true] <;> omega

section Range

variable {range : IntegerRange}

/-- Digits that are read onto a number are its further digits. -/
theorem readDigits_eq_ok {negative : Bool} {digits : List Char} {start : Nat} {n : Int}
    (inRange : range.contains (signed negative start) = true)
    (read : readDigits range negative (signed negative start) digits = .ok n) :
    (∀ c ∈ digits, c.isDigit = true) ∧ n = signed negative (Nat.ofDigitChars 10 digits start) ∧
      range.contains n = true := by
  induction digits generalizing start with
  | nil =>
    cases read
    exact ⟨List.forall_mem_nil _, rfl, inRange⟩
  | cons c rest ih =>
    rw [readDigits] at read
    cases digit : digit? c with
    | none =>
      simp only [digit] at read
      cases read
    | some d =>
      obtain ⟨decimal, rfl⟩ := isDigit_of_digit? digit
      simp only [digit, signed_push] at read
      split at read
      · rename_i inRange
        obtain ⟨others, same, inRange⟩ := ih inRange read
        exact ⟨List.forall_mem_cons.mpr ⟨decimal, others⟩, same, inRange⟩
      · cases read

/-- A text that begins with a digit has no sign. -/
theorem read_of_digit {first : Char} (decimal : first.isDigit = true) (others : List Char) :
    read range (first :: others) = readUnsigned range false (first :: others) := by
  rcases isDigit_cases decimal with
    rfl | rfl | rfl | rfl | rfl | rfl | rfl | rfl | rfl | rfl <;> rfl

variable (zero : range.contains 0 = true)

include zero

/-- Digits are read onto a number, unless they lead out of the range. -/
theorem readDigits_signed {negative : Bool} {digits : List Char} {start : Nat}
    (decimal : ∀ c ∈ digits, c.isDigit = true)
    (inRange : range.contains (signed negative (Nat.ofDigitChars 10 digits start)) = true) :
    readDigits range negative (signed negative start) digits =
      .ok (signed negative (Nat.ofDigitChars 10 digits start)) := by
  induction digits generalizing start with
  | nil => rfl
  | cons c rest ih =>
    rw [Nat.ofDigitChars_cons] at inRange ⊢
    have least := le_ofDigitChars rest (10 * start + (c.toNat - '0'.toNat))
    have here : range.contains (signed negative (10 * start + (c.toNat - '0'.toNat))) = true := by
      rw [IntegerRange.contains_iff] at inRange zero ⊢
      cases negative <;>
        simp only [signed, if_true, if_false, Bool.false_eq_true] at inRange ⊢ <;> omega
    rw [readDigits, digit?_of_isDigit (decimal c List.mem_cons_self)]
    simp only [signed_push, here, if_true]
    exact ih (fun other inside => decimal other (List.mem_cons_of_mem _ inside)) inRange

theorem readUnsigned_eq_ok_iff {negative : Bool} {digits : List Char} {n : Int} :
    readUnsigned range negative digits = .ok n ↔
      digits ≠ [] ∧ (∀ c ∈ digits, c.isDigit = true) ∧
        n = signed negative (Nat.ofDigitChars 10 digits 0) ∧ range.contains n = true := by
  have nothing : signed negative 0 = 0 := by cases negative <;> rfl
  cases digits with
  | nil =>
    refine iff_of_false (fun read => by cases read) fun spelled => spelled.1 rfl
  | cons c rest =>
    have start : readUnsigned range negative (c :: rest) =
        readDigits range negative (signed negative (0 : Nat)) (c :: rest) := by
      rw [nothing, readUnsigned]
      exact List.cons_ne_nil c rest
    rw [start]
    constructor
    · exact fun read =>
        ⟨List.cons_ne_nil c rest, readDigits_eq_ok (nothing.symm ▸ zero) read⟩
    · rintro ⟨-, decimal, rfl, inRange⟩
      exact readDigits_signed zero decimal inRange

theorem readUnsigned_toDigits {negative : Bool} {n : Nat}
    (inRange : range.contains (signed negative n) = true) :
    readUnsigned range negative (Nat.toDigits 10 n) = .ok (signed negative n) := by
  have decimal : ∀ c ∈ Nat.toDigits 10 n, c.isDigit = true :=
    fun c member => Nat.isDigit_of_mem_toDigits (by omega) (by omega) member
  refine (readUnsigned_eq_ok_iff zero).mpr ⟨Nat.toDigits_ne_nil, decimal, ?_, inRange⟩
  rw [Nat.ofDigitChars_ten_toDigits]

/-- **An integer of the range** is read as it was written. -/
theorem read_toString {n : Int} (inRange : range.contains n = true) :
    read range (toString n).toList = .ok n := by
  by_cases nonneg : 0 ≤ n
  · have its : signed false n.toNat = n := Int.toNat_of_nonneg nonneg
    have read := readUnsigned_toDigits (n := n.toNat) zero (its.symm ▸ inRange)
    rw [its] at read
    obtain ⟨first, others, digits⟩ := List.exists_cons_of_ne_nil (@Nat.toDigits_ne_nil n.toNat 10)
    have decimal : first.isDigit = true :=
      Nat.isDigit_of_mem_toDigits (by omega) (by omega) (digits ▸ List.mem_cons_self)
    rw [toString_of_nonneg nonneg, ← read, digits]
    exact read_of_digit decimal others
  · have its : signed true (-n).toNat = n := by
      show -((-n).toNat : Int) = n
      omega
    have read := readUnsigned_toDigits (n := (-n).toNat) zero (its.symm ▸ inRange)
    have least := (IntegerRange.contains_iff.mp inRange).1
    rw [its] at read
    rw [toString_of_neg (by omega), Numeral.read, if_pos (by omega)]
    exact read

/-- **What is read** is what is spelled, within the range. -/
theorem read_eq_ok_iff (below : range.least < 0) {text : List Char} {n : Int} :
    read range text = .ok n ↔ Spells text n ∧ range.contains n = true := by
  constructor
  · intro reads
    unfold read at reads
    split at reads
    · cases reads
    · obtain ⟨some_digit, decimal, rfl, inRange⟩ := (readUnsigned_eq_ok_iff zero).mp reads
      exact ⟨.plus some_digit decimal, inRange⟩
    · rw [if_pos below] at reads
      obtain ⟨some_digit, decimal, rfl, inRange⟩ := (readUnsigned_eq_ok_iff zero).mp reads
      exact ⟨.minus some_digit decimal, inRange⟩
    · obtain ⟨some_digit, decimal, rfl, inRange⟩ := (readUnsigned_eq_ok_iff zero).mp reads
      exact ⟨.bare some_digit decimal, inRange⟩
  · rintro ⟨spells, inRange⟩
    cases spells with
    | plus some_digit decimal =>
      exact (readUnsigned_eq_ok_iff zero).mpr ⟨some_digit, decimal, rfl, inRange⟩
    | minus some_digit decimal =>
      rw [read, if_pos below]
      exact (readUnsigned_eq_ok_iff zero).mpr ⟨some_digit, decimal, rfl, inRange⟩
    | bare some_digit decimal =>
      obtain ⟨first, others, rfl⟩ := List.exists_cons_of_ne_nil some_digit
      rw [read_of_digit (decimal first List.mem_cons_self)]
      exact (readUnsigned_eq_ok_iff zero).mpr ⟨some_digit, decimal, rfl, inRange⟩

end Range

/-- **An integer of 64 bits** is read as it was written. -/
theorem readInt64_toString {n : Int} (inRange : IntegerRange.int64.contains n = true) :
    readInt64 (toString n) = .ok n :=
  read_toString (by decide) inRange

/-- **A signed integer of 64 bits** is read from its numerals and from nothing else. -/
theorem readInt64_eq_ok_iff {text : String} {n : Int} :
    readInt64 text = .ok n ↔ Spells text.toList n ∧ IntegerRange.int64.contains n = true :=
  read_eq_ok_iff (by decide) (by decide)

end Passbook.Text.Numeral
