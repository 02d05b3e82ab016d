/-
**Amounts are read exactly.**

Whether a text is an amount is a matter of its core, which is what is left of it without the blanks
at its ends: of the number that the core spells, if it spells one, and of the bounds of that number.

* `exists_value_iff` — the integers that amounts are worth.
* `ofText_of_spells`, `ofText_of_unspelled` — a core that spells an integer of 64 bits is read as
  what that integer is, and any other is unreadable.
* `ofText_ok_iff`, `ofText_notPositive_iff`, `ofText_tooLarge_iff`, `ofText_unreadable_iff` — which
  cores have which outcome.
* `ofText_padded`, `run_toString` — a number is read as it is written, from a text with blanks
  around it and from a JSON text.
* `admitted_tfae` — texts, integers and JSON texts admit the same values.
* **`texts_read_exactly`** — all of it over any text.
-/

import Mathlib.Tactic.TFAE
import Passbook.Proofs.Record.RoundTrip
import Passbook.Proofs.Text.Blank

namespace Passbook.Amount

open Json.Reader (int64)
open Text (IntegerRange StripsTo isAllBlank)
open Text.Numeral (Spells)

variable {text : String} {core : List Char} {amount : Amount} {n : Int}

/-! ### Integers -/

theorem value_bounds (amount : Amount) : 1 ≤ amount.value ∧ amount.value ≤ 1000000000000000 :=
  ⟨amount.positive, amount.le_greatest⟩

/-- **The integers that amounts are worth.** -/
theorem exists_value_iff :
    (∃ amount : Amount, amount.value = n) ↔ 1 ≤ n ∧ n ≤ 1000000000000000 := by
  constructor
  · rintro ⟨amount, rfl⟩
    exact amount.value_bounds
  · rintro ⟨positive, bounded⟩
    exact ⟨⟨n, positive, bounded⟩, rfl⟩

theorem ofInt_value (amount : Amount) : ofInt amount.value = .ok amount := by
  rw [ofInt, dif_pos amount.positive, dif_pos amount.le_greatest]

/-- An amount is worth an integer of 64 bits. -/
theorem contains_value (amount : Amount) : IntegerRange.int64.contains amount.value = true := by
  have bounds := amount.value_bounds
  exact IntegerRange.int64_contains.mpr ⟨by omega, by omega⟩

/-- No integer is unreadable. -/
theorem ofInt_ne_unreadable (n : Int) (reason : String) :
    ofInt n ≠ .error (.unreadable reason) := by
  intro told
  rcases ofInt_eq_error.mp told with ⟨-, other⟩ | ⟨-, other⟩ <;> cases other

/-! ### Texts -/

/-- The numeral that is read is the one that the core spells. -/
theorem read_core (strips : StripsTo text.toList core) :
    Text.Numeral.read .int64 (Text.trim text.toList) = .ok n ↔
      Spells core n ∧ IntegerRange.int64.contains n = true := by
  rw [Text.trim_of_stripsTo strips]
  exact Text.Numeral.read_eq_ok_iff (by decide) (by decide)

theorem ofText_of_spells (strips : StripsTo text.toList core) (spells : Spells core n)
    (inRange : IntegerRange.int64.contains n = true) : ofText text = ofInt n := by
  rw [ofText, (read_core strips).mpr ⟨spells, inRange⟩]

theorem ofText_of_unspelled (strips : StripsTo text.toList core)
    (unspelled : ∀ n, Spells core n → ¬ IntegerRange.int64.contains n = true) :
    ∃ reason, ofText text = .error (.unreadable reason) := by
  cases read : Text.Numeral.read .int64 (Text.trim text.toList) with
  | error problem => exact ⟨problem.message, by rw [ofText, read]⟩
  | ok n =>
    obtain ⟨spells, inRange⟩ := (read_core strips).mp read
    exact absurd inRange (unspelled n spells)

/-- Any other outcome than an unreadable text is that of the integer that the core spells. -/
theorem ofText_eq_iff (strips : StripsTo text.toList core) {outcome : Except AmountError Amount}
    (readable : ∀ reason, outcome ≠ .error (.unreadable reason)) :
    ofText text = outcome ↔
      ∃ n, Spells core n ∧ IntegerRange.int64.contains n = true ∧ ofInt n = outcome := by
  constructor
  · intro told
    by_contra unspelled
    obtain ⟨reason, unread⟩ := ofText_of_unspelled strips fun n spells inRange =>
      unspelled ⟨n, spells, inRange, (ofText_of_spells strips spells inRange).symm.trans told⟩
    exact readable reason (told.symm.trans unread)
  · rintro ⟨n, spells, inRange, made⟩
    exact (ofText_of_spells strips spells inRange).trans made

theorem ofText_ok_iff (strips : StripsTo text.toList core) :
    (∃ amount, ofText text = .ok amount ∧ amount.value = n) ↔
      Spells core n ∧ 1 ≤ n ∧ n ≤ 1000000000000000 := by
  constructor
  · rintro ⟨amount, told, rfl⟩
    obtain ⟨n, spells, -, made⟩ := (ofText_eq_iff strips fun _ other => by cases other).mp told
    rw [value_of_ofInt made]
    exact ⟨spells, value_of_ofInt made ▸ amount.value_bounds⟩
  · rintro ⟨spells, bounds⟩
    obtain ⟨amount, rfl⟩ := exists_value_iff.mpr bounds
    exact ⟨amount, (ofText_of_spells strips spells amount.contains_value).trans amount.ofInt_value,
      rfl⟩

theorem ofText_notPositive_iff (strips : StripsTo text.toList core) :
    ofText text = .error (.notPositive n) ↔
      Spells core n ∧ -9223372036854775808 ≤ n ∧ n ≤ 0 := by
  rw [ofText_eq_iff strips fun _ other => by cases other]
  simp only [ofInt_eq_error, IntegerRange.int64_contains, AmountError.notPositive.injEq,
    reduceCtorEq, and_false, or_false]
  constructor
  · rintro ⟨_, spells, inside, low, rfl⟩
    exact ⟨spells, by omega, by omega⟩
  · rintro ⟨spells, least, low⟩
    exact ⟨n, spells, ⟨by omega, by omega⟩, by omega, rfl⟩

theorem ofText_tooLarge_iff (strips : StripsTo text.toList core) :
    ofText text = .error .tooLarge ↔
      ∃ n, Spells core n ∧ 1000000000000000 < n ∧ n ≤ 9223372036854775807 := by
  have largest : greatest = 1000000000000000 := rfl
  rw [ofText_eq_iff strips fun _ other => by cases other]
  simp only [ofInt_eq_error, IntegerRange.int64_contains, largest, reduceCtorEq, and_false,
    false_or, and_true]
  constructor
  · rintro ⟨n, spells, inside, high⟩
    exact ⟨n, spells, high, by omega⟩
  · rintro ⟨n, spells, high, last⟩
    exact ⟨n, spells, ⟨by omega, by omega⟩, high⟩

theorem ofText_unreadable_iff (strips : StripsTo text.toList core) :
    (∃ reason, ofText text = .error (.unreadable reason)) ↔
      ∀ n, Spells core n → n < -9223372036854775808 ∨ 9223372036854775807 < n := by
  constructor
  · rintro ⟨reason, told⟩ n spells
    by_contra inside
    have inRange : IntegerRange.int64.contains n = true :=
      IntegerRange.int64_contains.mpr ⟨by omega, by omega⟩
    exact ofInt_ne_unreadable n reason (ofText_of_spells strips spells inRange ▸ told)
  · intro outside
    refine ofText_of_unspelled strips fun n spells inRange => ?_
    have inside := IntegerRange.int64_contains.mp inRange
    have := outside n spells
    omega

/-- A number is read as it is written, with blanks around it. -/
theorem ofText_padded (inRange : IntegerRange.int64.contains n = true) {before after : List Char}
    (blankBefore : isAllBlank before = true) (blankAfter : isAllBlank after = true) :
    ofText (String.ofList (before ++ (toString n).toList ++ after)) = ofInt n := by
  have spells := Text.Numeral.spells_toString n
  refine ofText_of_spells ?_ spells inRange
  rw [String.toList_ofList]
  exact ⟨Text.isTrimmed_of_solid spells.solid, before, after, rfl, blankBefore, blankAfter⟩

theorem ofText_toString (inRange : IntegerRange.int64.contains n = true) :
    ofText (toString n) = ofInt n := by
  have read : ofText (String.ofList ([] ++ (toString n).toList ++ [])) = ofInt n :=
    ofText_padded inRange rfl rfl
  rwa [List.nil_append, List.append_nil, String.ofList_toList] at read

theorem ofText_value (amount : Amount) : ofText (toString amount.value) = .ok amount :=
  (ofText_toString amount.contains_value).trans amount.ofInt_value

/-! ### JSON texts -/

/-- An amount in a JSON text is what its type makes of the integer that stands there. -/
theorem run_eq_ok_iff : reader.run text = .ok amount ↔
    ∃ n, int64.run text = .ok n ∧ ofInt n = .ok amount := by
  refine ⟨made_of_run, ?_⟩
  rintro ⟨n, reads, made⟩
  obtain ⟨found, finished⟩ := Json.Reader.document_of_run reads
  exact Json.Reader.run_of_document
    (Json.Reader.checked_eq_ok.mpr ⟨n, found, mapError_eq_ok.mpr made⟩) finished

/-- A number is read as it is written, and refused in the words of the type. -/
theorem run_toString (inRange : IntegerRange.int64.contains n = true) :
    reader.run (toString n) =
      (ofInt n).mapError fun problem => .unfit [] (.refused problem.message) := by
  have written : toString n = (Json.Value.int n).write := String.ofList_toList.symm
  rw [written, Json.Reader.run_write reader (Json.Value.fits_int inRange), reader,
    Json.Reader.checked, Json.Reader.int64_document inRange]
  dsimp only
  cases ofInt n <;> rfl

theorem run_value (amount : Amount) : reader.run (toString amount.value) = .ok amount := by
  rw [run_toString amount.contains_value, amount.ofInt_value]
  rfl

/-! ### The three ways to an amount -/

/-- Texts, integers and JSON texts admit the same values. -/
theorem admitted_tfae (n : Int) : List.TFAE [1 ≤ n ∧ n ≤ 1000000000000000,
    ∃ text amount, ofText text = .ok amount ∧ amount.value = n,
    ∃ amount, ofInt n = .ok amount ∧ amount.value = n,
    ∃ text amount, reader.run text = .ok amount ∧ amount.value = n] := by
  tfae_have 1 → 2 := by
    intro bounds
    obtain ⟨amount, rfl⟩ := exists_value_iff.mpr bounds
    exact ⟨_, amount, amount.ofText_value, rfl⟩
  tfae_have 2 → 3 := by
    rintro ⟨_, amount, -, rfl⟩
    exact ⟨amount, amount.ofInt_value, rfl⟩
  tfae_have 3 → 4 := by
    rintro ⟨amount, -, rfl⟩
    exact ⟨_, amount, amount.run_value, rfl⟩
  tfae_have 4 → 1 := by
    rintro ⟨_, amount, -, rfl⟩
    exact amount.value_bounds
  tfae_finish

/-- **A text is read as an amount by its core**, of which it has one: the core is the numeral of an
amount, of an integer of 64 bits below or above the amounts, or of no such integer, and the outcome
says which. What is written for an amount is read as that amount, with any blanks around it. An
integer has the same outcome as it is, as it is written, and in a JSON text, where it is refused in
the words of the type; and texts, integers and JSON texts admit the same values. -/
theorem texts_read_exactly :
    (∀ text : String, ∃! core, StripsTo text.toList core) ∧
    (∀ (text : String) (core : List Char), StripsTo text.toList core →
      (∀ n, (∃ amount, ofText text = .ok amount ∧ amount.value = n) ↔
        Spells core n ∧ 1 ≤ n ∧ n ≤ 1000000000000000) ∧
      (∀ n, ofText text = .error (.notPositive n) ↔
        Spells core n ∧ -9223372036854775808 ≤ n ∧ n ≤ 0) ∧
      (ofText text = .error .tooLarge ↔
        ∃ n, Spells core n ∧ 1000000000000000 < n ∧ n ≤ 9223372036854775807) ∧
      ((∃ reason, ofText text = .error (.unreadable reason)) ↔
        ∀ n, Spells core n → n < -9223372036854775808 ∨ 9223372036854775807 < n)) ∧
    (∀ (amount : Amount) (before after : List Char), isAllBlank before = true →
      isAllBlank after = true →
        ofText (String.ofList (before ++ amount.toText.toList ++ after)) = .ok amount) ∧
    (∀ n : Int, -9223372036854775808 ≤ n → n ≤ 9223372036854775807 →
      ofText (toString n) = ofInt n ∧
        reader.run (toString n) =
          (ofInt n).mapError fun problem => .unfit [] (.refused problem.message)) ∧
    (∀ (text : String) (amount : Amount), reader.run text = .ok amount ↔
      ∃ n, int64.run text = .ok n ∧ ofInt n = .ok amount) ∧
    ∀ n : Int, List.TFAE [1 ≤ n ∧ n ≤ 1000000000000000,
      ∃ text amount, ofText text = .ok amount ∧ amount.value = n,
      ∃ amount, ofInt n = .ok amount ∧ amount.value = n,
      ∃ text amount, reader.run text = .ok amount ∧ amount.value = n] := by
  refine ⟨fun text => ⟨_, Text.stripsTo_trim _, fun core strips => ?_⟩,
    fun text core strips => ⟨fun n => ofText_ok_iff strips, fun n => ofText_notPositive_iff strips,
      ofText_tooLarge_iff strips, ofText_unreadable_iff strips⟩,
    fun amount before after blankBefore blankAfter => ?_, fun n least last => ?_,
    fun text amount => run_eq_ok_iff, admitted_tfae⟩
  · exact (Text.trim_of_stripsTo strips).symm
  · rw [toText, ofText_padded amount.contains_value blankBefore blankAfter, amount.ofInt_value]
  · have inRange : IntegerRange.int64.contains n = true :=
      IntegerRange.int64_contains.mpr ⟨by omega, by omega⟩
    exact ⟨ofText_toString inRange, run_toString inRange⟩

/-- The greatest amount, a sign and zeros in front of it, between an em space and a line feed. -/
def greatestPadded : String :=
  "\u2003+0001000000000000000\n"

theorem spells_greatest : Spells "+0001000000000000000".toList 1000000000000000 :=
  have digits : ∀ c ∈ "0001000000000000000".toList, c.isDigit = true :=
    List.all_eq_true.mp (by decide +kernel)
  .plus (by decide +kernel) digits

/-- The greatest amount is read with zeros and blanks around it, the least integer of 64 bits is not
positive, the greatest is too large, and the one after it is unreadable. An amount between blanks
is read, and a JSON text of zero is refused. -/
theorem texts_read_exactly_edges :
    (∃ amount, ofText greatestPadded = .ok amount ∧ amount.value = 1000000000000000) ∧
    ofText "-9223372036854775808" = .error (.notPositive (-9223372036854775808)) ∧
    ofText "9223372036854775807" = .error .tooLarge ∧
    (∃ reason, ofText "9223372036854775808" = .error (.unreadable reason)) ∧
    ofText (String.ofList
      (['\u3000'] ++ (toText ⟨5, by decide, by decide⟩).toList ++ ['\u0085'])) =
        .ok ⟨5, by decide, by decide⟩ ∧
    reader.run (toString (0 : Int)) =
      .error (.unfit [] (.refused "Amount must be positive (got 0)")) := by
  obtain ⟨-, cores, padded, written, -⟩ := texts_read_exactly
  have stripped : StripsTo greatestPadded.toList "+0001000000000000000".toList :=
    ⟨by decide +kernel, ['\u2003'], ['\n'], by decide +kernel, by decide, by decide⟩
  have strips : StripsTo "9223372036854775808".toList "9223372036854775808".toList :=
    ⟨by decide +kernel, [], [], (List.append_nil _).symm, rfl, rfl⟩
  have shownLeast : toString (-9223372036854775808 : Int) = "-9223372036854775808" := by
    decide +kernel
  have shownLast : toString (9223372036854775807 : Int) = "9223372036854775807" := by
    decide +kernel
  have least := (written (-9223372036854775808) (by decide) (by decide)).1
  have last := (written 9223372036854775807 (by decide) (by decide)).1
  rw [shownLeast] at least
  rw [shownLast] at last
  refine ⟨((cores _ _ stripped).1 _).mpr ⟨spells_greatest, by decide, by decide⟩, least, last,
    (cores _ _ strips).2.2.2.mpr fun n spells => ?_, padded _ _ _ (by decide) (by decide),
    (written 0 (by decide) (by decide)).2⟩
  -- a number within the bounds would be read, but the digits lead out of them
  by_contra inside
  have read : Text.Numeral.read .int64 "9223372036854775808".toList = .ok n :=
    (Text.Numeral.read_eq_ok_iff (by decide) (by decide)).mpr
      ⟨spells, IntegerRange.int64_contains.mpr ⟨by omega, by omega⟩⟩
  have outside : Text.Numeral.read .int64 "9223372036854775808".toList = .error .tooLarge := by
    decide +kernel
  rw [outside] at read
  cases read

end Passbook.Amount
