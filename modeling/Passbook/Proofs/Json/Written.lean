/-
**What is written is read again.**

* `Value.document` — the document that a value is written for; `Value.Fits` — its integers are those
  of 64 bits, with or without a sign.
* `number?_toDigits` — digits are read as the number that they were written for.
* `string?_quote` — the characters between quotes are read as the text, escapes included.
* `value_writeChars`, by induction on the value — a written value is read off the front of a text,
  whatever follows it that does not go on with a number.
* **`read_write`** — reading what was written gives the document of the value and leaves nothing.
-/

import Passbook.Json.Reader
import Passbook.Proofs.Text.Numeral

namespace Passbook.Json

open Text.Numeral (digit? digit?_of_isDigit isDigit_cases le_ofDigitChars)
open Text (IntegerRange)

/-! ### Numbers -/

/-- The number of an integer. -/
def Number.ofInt (n : Int) : Number :=
  if 0 ≤ n then .unsigned n.toNat else .negative n

/-- The text does not go on with a number. -/
def Stops (text : List Char) : Prop :=
  ∀ c ∈ text.head?, digit? c = none ∧ c ≠ '.' ∧ c ≠ 'e' ∧ c ≠ 'E'

theorem stops_nil : Stops [] :=
  fun _ member => by cases member

/-- Digits that fit 64 bits are all read. -/
theorem wholeDigits_append {digits rest : List Char} {start : Nat}
    (decimal : ∀ c ∈ digits, c.isDigit = true)
    (small : Nat.ofDigitChars 10 digits start < Nat.pow 2 64) (stops : Stops rest) :
    wholeDigits start (digits ++ rest) = (⟨Nat.ofDigitChars 10 digits start, 0⟩, rest) := by
  induction digits generalizing start with
  | nil =>
    cases rest with
    | nil => rfl
    | cons c more =>
      have none_more : digit? c = none := (stops c rfl).1
      simp only [List.nil_append, wholeDigits, none_more]
      rfl
  | cons c more ih =>
    rw [Nat.ofDigitChars_cons] at small ⊢
    have next : start * 10 + (c.toNat - '0'.toNat) = 10 * start + (c.toNat - '0'.toNat) := by omega
    have fits : Scientific.push? start (c.toNat - '0'.toNat) =
        some (10 * start + (c.toNat - '0'.toNat)) := by
      rw [Scientific.push?, next]
      exact if_pos (Nat.lt_of_le_of_lt (le_ofDigitChars more _) small)
    have digit := digit?_of_isDigit (decimal c List.mem_cons_self)
    simp only [List.cons_append, wholeDigits, digit, fits]
    exact ih (fun other member => decimal other (List.mem_cons_of_mem _ member)) small

/-- What is written for a natural number begins with a digit. -/
theorem toDigits_eq_cons (n : Nat) :
    ∃ first others, Nat.toDigits 10 n = first :: others ∧ first.isDigit = true := by
  have written : Nat.toDigits 10 n ≠ [] := Nat.toDigits_ne_nil
  obtain ⟨first, others, digits⟩ := List.exists_cons_of_ne_nil written
  have member : first ∈ Nat.toDigits 10 n := digits ▸ List.mem_cons_self
  exact ⟨first, others, digits, Nat.isDigit_of_mem_toDigits (by omega) (by omega) member⟩

/-- Only zero is written with a zero in front. -/
theorem head?_toDigits {n : Nat} (positive : 0 < n) : (Nat.toDigits 10 n).head? ≠ some '0' := by
  induction n using Nat.strongRecOn with
  | ind n ih =>
    rw [Nat.toDigits_eq_if (by omega)]
    by_cases single : n < 10
    · rw [if_pos single]
      have each : ∀ n < 10, 0 < n → [Nat.digitChar n].head? ≠ some '0' := by decide
      exact each n single positive
    · have shorter := ih (n / 10) (by omega) (by omega)
      obtain ⟨first, others, digits, _⟩ := toDigits_eq_cons (n / 10)
      rw [digits] at shorter
      rw [if_neg single, digits]
      exact shorter

/-- **Digits are read as the number that they were written for.** -/
theorem number?_toDigits (negative : Bool) {n : Nat} (small : n < Nat.pow 2 64)
    {rest : List Char} (stops : Stops rest) :
    number? negative (Nat.toDigits 10 n ++ rest) = some (.ofWhole negative n, rest) := by
  rcases Nat.eq_zero_or_pos n with rfl | positive
  · rw [Nat.toDigits_zero]
    cases rest with
    | nil => rfl
    | cons c more =>
      obtain ⟨noDigit, noPoint, noSmall, noLarge⟩ := stops c rfl
      simp [number?, noDigit, noPoint, noSmall, noLarge]
  · have decimal : ∀ c ∈ Nat.toDigits 10 n, c.isDigit = true :=
      fun c member => Nat.isDigit_of_mem_toDigits (by omega) (by omega) member
    have fits : Nat.ofDigitChars 10 (Nat.toDigits 10 n) 0 < Nat.pow 2 64 := by
      rwa [Nat.ofDigitChars_ten_toDigits]
    have read := wholeDigits_append decimal fits stops
    have noZero := head?_toDigits positive
    rw [Nat.ofDigitChars_ten_toDigits] at read
    obtain ⟨first, others, digits, one⟩ := toDigits_eq_cons n
    rw [digits] at read noZero ⊢
    have digit := digit?_of_isDigit one
    -- what keeps the first digit from being read as a zero that stands alone
    have other : first ≠ '0' := fun same => noZero (congrArg some same)
    rw [List.cons_append] at read ⊢
    cases rest with
    | nil =>
      rw [List.append_nil] at read ⊢
      simp [number?, digit, read]
    | cons c more =>
      obtain ⟨noDigit, noPoint, noSmall, noLarge⟩ := stops c rfl
      simp [number?, digit, read, noPoint, noSmall, noLarge]

/-! ### Strings -/

/-- A control without a short escape is written by its number. -/
def isNumbered (c : Char) : Bool :=
  c.toNat < 0x20 && !(['\x08', '\x0c', '\n', '\r', '\t'].contains c)

/-- The piece of a string that a character is written as. -/
def pieceOf (c : Char) : Piece :=
  if isNumbered c then .unit c.toNat else .char c

theorem unit?_digitChar {n : Nat} (small : n < 0x20) :
    unit? '0' '0' (Nat.digitChar (n / 16)) (Nat.digitChar (n % 16)) = some n := by
  have each : ∀ n < 0x20,
      unit? '0' '0' (Nat.digitChar (n / 16)) (Nat.digitChar (n % 16)) = some n := by decide
  exact each n small

/-- One written character is one piece. -/
theorem pieces?_escape (c : Char) (rest : List Char) :
    pieces? (escape c ++ rest) = withPiece (pieceOf c) (pieces? rest) := by
  by_cases quote : c = '\x22'
  · subst quote; rfl
  by_cases backslash : c = '\\'
  · subst backslash; rfl
  by_cases backspace : c = '\x08'
  · subst backspace; rfl
  by_cases feed : c = '\x0c'
  · subst feed; rfl
  by_cases line : c = '\n'
  · subst line; rfl
  by_cases carriage : c = '\r'
  · subst carriage; rfl
  by_cases tab : c = '\t'
  · subst tab; rfl
  by_cases control : c.toNat < 0x20
  · have numbered : isNumbered c = true := by
      simp [isNumbered, control, backspace, feed, line, carriage, tab]
    simp [escape, quote, backslash, backspace, feed, line, carriage, tab, control, pieces?,
      unit?_digitChar control, pieceOf, numbered]
  · have plain : isNumbered c = false := by simp [isNumbered, control]
    simp [escape, quote, backslash, backspace, feed, line, carriage, tab, control, pieces?,
      pieceOf, plain]

theorem pieces?_flatMap_escape (text rest : List Char) :
    pieces? (text.flatMap escape ++ '\x22' :: rest) = some (text.map pieceOf, rest) := by
  induction text with
  | nil => rfl
  | cons c more ih =>
    rw [List.flatMap_cons, List.append_assoc, pieces?_escape, ih]
    rfl

/-- A unit that is half of no pair is a character by itself. -/
theorem joinPieces?_unit {n : Nat} (low : n < 0xD800) (rest : List Piece) :
    joinPieces? (.unit n :: rest) = (joinPieces? rest).map (Char.ofNat n :: ·) := by
  have noHigh : isHighUnit n = false := by
    simp [isHighUnit]
    omega
  have noLow : isLowUnit n = false := by
    simp [isLowUnit]
    omega
  rcases rest with _ | ⟨piece, more⟩
  · simp [joinPieces?, noHigh, noLow]
  · cases piece with
    | char c => simp [joinPieces?, noHigh, noLow]
    | unit next => simp [joinPieces?, noHigh, noLow]

theorem joinPieces?_pieceOf (text : List Char) : joinPieces? (text.map pieceOf) = some text := by
  induction text with
  | nil => rfl
  | cons c more ih =>
    rw [List.map_cons, pieceOf]
    by_cases numbered : isNumbered c = true
    · have control : c.toNat < 0x20 := by
        simp [isNumbered] at numbered
        exact numbered.1
      rw [if_pos numbered, joinPieces?_unit (by omega), ih, Char.ofNat_toNat]
      rfl
    · rw [if_neg numbered, joinPieces?, ih]
      rfl

/-- **A written text is read.** -/
theorem string?_flatMap_escape (text : String) (rest : List Char) :
    string? (text.toList.flatMap escape ++ '\x22' :: rest) = some (some text, rest) := by
  rw [string?, pieces?_flatMap_escape, Option.map_some]
  dsimp only
  rw [joinPieces?_pieceOf, Option.map_some, String.ofList_toList]

/-! ### Values -/

namespace Value

mutual

/-- The document that a value is written for. -/
def document : Value → Document
  | null => .null
  | bool b => .bool b
  | int n => .number (.ofInt n)
  | string text => .string (some text)
  | array items => .array (documents items) true
  | object members => .object (memberDocuments members) true

def documents : List Value → List Document
  | [] => []
  | item :: items => document item :: documents items

def memberDocuments : List (String × Value) → List (Option String × Document)
  | [] => []
  | (key, value) :: members => (some key, document value) :: memberDocuments members

end

mutual

/-- Every integer in the value fits 64 bits, with or without a sign. -/
def Fits : Value → Prop
  | int n => IntegerRange.int64.least ≤ n ∧ n ≤ IntegerRange.word64.greatest
  | array items => AllFit items
  | object members => MembersFit members
  | null | bool _ | string _ => True

def AllFit : List Value → Prop
  | [] => True
  | item :: items => Fits item ∧ AllFit items

def MembersFit : List (String × Value) → Prop
  | [] => True
  | (_, value) :: members => Fits value ∧ MembersFit members

end

end Value

namespace Document

open Value (document documents memberDocuments writeItems writeMembers Fits AllFit MembersFit)

theorem stops_cons {c : Char} (rest : List Char) (noDigit : digit? c = none) (noPoint : c ≠ '.')
    (noSmall : c ≠ 'e') (noLarge : c ≠ 'E') : Stops (c :: rest) := by
  intro other here
  rw [List.head?_cons, Option.mem_some_iff] at here
  subst here
  exact ⟨noDigit, noPoint, noSmall, noLarge⟩

theorem stops_writeItems (items : List Value) (rest : List Char) :
    Stops (writeItems items ++ rest) := by
  cases items with
  | nil => exact stops_cons _ rfl (by decide) (by decide) (by decide)
  | cons item items => exact stops_cons _ rfl (by decide) (by decide) (by decide)

theorem stops_writeMembers (members : List (String × Value)) (rest : List Char) :
    Stops (writeMembers members ++ rest) := by
  cases members with
  | nil => exact stops_cons _ rfl (by decide) (by decide) (by decide)
  | cons member members => exact stops_cons _ rfl (by decide) (by decide) (by decide)

/-- What begins with a digit is read as a number. -/
theorem value_of_isDigit {c : Char} (digit : c.isDigit = true) (fuel : Nat) (more : List Char) :
    value (fuel + 1) (c :: more) =
      match number? false (c :: more) with
      | some (n, rest) => (.number n, rest)
      | none => (.broken, []) := by
  rcases isDigit_cases digit with
    rfl | rfl | rfl | rfl | rfl | rfl | rfl | rfl | rfl | rfl <;> rfl

theorem writeChars_of_nonneg {n : Int} (nonneg : 0 ≤ n) :
    (Value.int n).writeChars = Nat.toDigits 10 n.toNat :=
  Text.Numeral.toString_of_nonneg nonneg

theorem writeChars_of_neg {n : Int} (negative : n < 0) :
    (Value.int n).writeChars = '-' :: Nat.toDigits 10 (-n).toNat :=
  Text.Numeral.toString_of_neg negative

theorem value_int {n : Int} (fits : (Value.int n).Fits) (fuel : Nat) {rest : List Char}
    (stops : Stops rest) :
    value (fuel + 1) ((Value.int n).writeChars ++ rest) = ((Value.int n).document, rest) := by
  have least : -9223372036854775808 ≤ n := fits.1
  have greatest : n ≤ 18446744073709551615 := fits.2
  have signed : Nat.pow 2 63 = 9223372036854775808 := rfl
  have unsigned : Nat.pow 2 64 = 18446744073709551616 := rfl
  by_cases nonneg : 0 ≤ n
  · have read := number?_toDigits false (by omega : n.toNat < Nat.pow 2 64) stops
    obtain ⟨first, others, digits, decimal⟩ := toDigits_eq_cons n.toNat
    rw [digits, List.cons_append] at read
    rw [writeChars_of_nonneg nonneg, digits, List.cons_append, value_of_isDigit decimal, read]
    simp [Number.ofWhole, document, Number.ofInt, nonneg]
  · have read := number?_toDigits true (by omega : (-n).toNat < Nat.pow 2 64) stops
    rw [writeChars_of_neg (by omega), List.cons_append]
    show (match number? true (Nat.toDigits 10 (-n).toNat ++ rest) with
      | some (n, rest) => (Document.number n, rest)
      | none => (.broken, [])) = _
    rw [read]
    have whole : Number.ofWhole true (-n).toNat = .negative n := by
      have size : 0 < (-n).toNat ∧ (-n).toNat ≤ Nat.pow 2 63 := by omega
      have back : -((-n).toNat : Int) = n := by omega
      simp only [Number.ofWhole, if_pos size, back]
      rfl
    simp [whole, document, Number.ofInt, nonneg]

/-- A written value begins with a character that is neither a blank nor the end of an array. -/
theorem writeChars_eq_cons (v : Value) :
    ∃ c more, v.writeChars = c :: more ∧ isSpace c = false ∧ c ≠ ']' := by
  cases v with
  | null => exact ⟨'n', _, rfl, rfl, by decide⟩
  | bool b => cases b <;> exact ⟨_, _, rfl, rfl, by decide⟩
  | string text => exact ⟨'\x22', _, rfl, rfl, by decide⟩
  | array items => cases items <;> exact ⟨'[', _, rfl, rfl, by decide⟩
  | object members => cases members <;> exact ⟨'\x7b', _, rfl, rfl, by decide⟩
  | int n =>
    by_cases nonneg : 0 ≤ n
    · obtain ⟨first, others, digits, decimal⟩ := toDigits_eq_cons n.toNat
      refine ⟨first, others, (writeChars_of_nonneg nonneg).trans digits, ?_⟩
      rcases isDigit_cases decimal with
        rfl | rfl | rfl | rfl | rfl | rfl | rfl | rfl | rfl | rfl <;> exact ⟨rfl, by decide⟩
    · exact ⟨'-', _, writeChars_of_neg (by omega), rfl, by decide⟩

theorem value_bracket (fuel : Nat) (rest : List Char) : value (fuel + 1) ('[' :: rest) =
    match skipSpace rest with
    | ']' :: rest => (.array [] true, rest)
    | rest => (.array (items fuel rest).1 (items fuel rest).2.1, (items fuel rest).2.2) := rfl

/-- The items of an array are read where one begins. -/
theorem value_array {c : Char} (noSpace : isSpace c = false) (noEnd : c ≠ ']') (fuel : Nat)
    (more : List Char) : value (fuel + 1) ('[' :: c :: more) =
      (.array (items fuel (c :: more)).1 (items fuel (c :: more)).2.1,
        (items fuel (c :: more)).2.2) := by
  have skipped : skipSpace (c :: more) = c :: more := by
    rw [skipSpace, List.dropWhile_cons_of_neg (by simp [noSpace])]
  rw [value_bracket, skipped]
  split
  · rename_i same
    exact absurd (List.cons.inj same).1 noEnd
  · rfl

theorem writeChars_string (text : String) (rest : List Char) :
    quote text ++ rest = '\x22' :: (text.toList.flatMap escape ++ '\x22' :: rest) := by
  simp [quote]

theorem one_le_length_writeItems (items : List Value) : 1 ≤ (writeItems items).length := by
  cases items with
  | nil => exact Nat.le_refl 1
  | cons item items => simp [writeItems]

theorem one_le_length_writeMembers (members : List (String × Value)) :
    1 ≤ (writeMembers members).length := by
  cases members with
  | nil => exact Nat.le_refl 1
  | cons member members => simp [writeMembers]

mutual

/-- **A written value is read** off the front of a text. -/
theorem value_writeChars : ∀ (v : Value), v.Fits → ∀ (fuel : Nat) (rest : List Char),
    v.writeChars.length ≤ fuel → Stops rest →
    value fuel (v.writeChars ++ rest) = (v.document, rest)
  | v, _, 0, _, enough, _ => by
    obtain ⟨c, more, written, _⟩ := writeChars_eq_cons v
    rw [written] at enough
    exact absurd enough (Nat.not_succ_le_zero _)
  | .null, _, fuel + 1, _, _, _ => rfl
  | .bool true, _, fuel + 1, _, _, _ => rfl
  | .bool false, _, fuel + 1, _, _, _ => rfl
  | .int _, fits, fuel + 1, _, _, stops => value_int fits fuel stops
  | .string text, _, fuel + 1, rest, _, _ => by
    show value (fuel + 1) (quote text ++ rest) = _
    rw [writeChars_string]
    show (match string? (text.toList.flatMap escape ++ '\x22' :: rest) with
      | some (text, rest) => (string text, rest)
      | none => (.broken, [])) = _
    rw [string?_flatMap_escape]
    rfl
  | .array [], _, fuel + 1, _, _, _ => rfl
  | .array (item :: items), fits, fuel + 1, rest, enough, _ => by
    have text : (Value.array (item :: items)).writeChars ++ rest =
        '[' :: (item.writeChars ++ (writeItems items ++ rest)) := by
      simp [Value.writeChars]
    have shorter : (item.writeChars ++ writeItems items).length ≤ fuel := by
      simp only [Value.writeChars, List.length_append, List.length_cons] at enough ⊢
      omega
    have read := items_writeItems item items fits.1 fits.2 fuel rest shorter
    obtain ⟨c, more, written, noSpace, noEnd⟩ := writeChars_eq_cons item
    rw [written, List.cons_append] at read
    rw [text, written, List.cons_append, value_array noSpace noEnd, read]
    rfl
  | .object [], _, fuel + 1, _, _, _ => rfl
  | .object ((key, member) :: members), fits, fuel + 1, rest, enough, _ => by
    have text : (Value.object ((key, member) :: members)).writeChars ++ rest =
        '\x7b' :: (quote key ++ ':' :: (member.writeChars ++ (writeMembers members ++ rest))) := by
      simp [Value.writeChars]
    have shorter : (quote key).length + member.writeChars.length +
        (writeMembers members).length < fuel := by
      simp only [Value.writeChars, List.length_append, List.length_cons] at enough
      omega
    have read := members_writeMembers key member members fits.1 fits.2 fuel rest shorter
    rw [writeChars_string] at read
    rw [text, writeChars_string]
    show (object (Document.members fuel ('\x22' :: _)).1 (Document.members fuel ('\x22' :: _)).2.1,
      (Document.members fuel ('\x22' :: _)).2.2) = _
    rw [read]
    rfl

theorem items_writeItems : ∀ (item : Value) (items : List Value), item.Fits → AllFit items →
    ∀ (fuel : Nat) (rest : List Char), (item.writeChars ++ writeItems items).length ≤ fuel →
    Document.items fuel (item.writeChars ++ (writeItems items ++ rest)) =
      (item.document :: documents items, true, rest)
  | item, items, _, _, 0, _, enough => by
    have some_end := one_le_length_writeItems items
    rw [List.length_append] at enough
    omega
  | item, items, fits, others, fuel + 1, rest, enough => by
    have some_end := one_le_length_writeItems items
    rw [List.length_append] at enough
    have read := value_writeChars item fits fuel (writeItems items ++ rest) (by omega)
      (stops_writeItems items rest)
    rw [Document.items, read]
    match items, others with
    | [], _ => rfl
    | next :: items, others =>
      have shorter : (next.writeChars ++ writeItems items).length ≤ fuel := by
        simp only [writeItems, List.length_append, List.length_cons] at enough ⊢
        omega
      have more := items_writeItems next items others.1 others.2 fuel rest shorter
      have text : writeItems (next :: items) ++ rest =
          ',' :: (next.writeChars ++ (writeItems items ++ rest)) := by
        simp [writeItems]
      rw [text]
      show (item.document :: (Document.items fuel (next.writeChars ++ _)).1,
        (Document.items fuel (next.writeChars ++ _)).2.1,
        (Document.items fuel (next.writeChars ++ _)).2.2) = _
      rw [more]
      rfl

theorem members_writeMembers : ∀ (key : String) (member : Value)
    (members : List (String × Value)), member.Fits → MembersFit members →
    ∀ (fuel : Nat) (rest : List Char),
    (quote key).length + member.writeChars.length + (writeMembers members).length < fuel →
    Document.members fuel
        (quote key ++ ':' :: (member.writeChars ++ (writeMembers members ++ rest))) =
      ((some key, member.document) :: memberDocuments members, true, rest)
  | _, _, _, _, _, 0, _, enough => absurd enough (Nat.not_lt_zero _)
  | key, member, members, fits, others, fuel + 1, rest, enough => by
    have some_end := one_le_length_writeMembers members
    have read := value_writeChars member fits fuel (writeMembers members ++ rest) (by omega)
      (stops_writeMembers members rest)
    rw [writeChars_string, Document.members]
    show (match string? (key.toList.flatMap escape ++ '\x22' :: (':' :: _)) with
      | none => ([], false, [])
      | some (key, rest) => _) = _
    rw [string?_flatMap_escape]
    show (match skipSpace (value fuel (member.writeChars ++ _)).2 with
      | ',' :: rest =>
        ((some key, (value fuel (member.writeChars ++ _)).1) :: (Document.members fuel rest).1,
          (Document.members fuel rest).2.1, (Document.members fuel rest).2.2)
      | '\x7d' :: rest => ([(some key, (value fuel (member.writeChars ++ _)).1)], true, rest)
      | _ => ([(some key, (value fuel (member.writeChars ++ _)).1)], false, [])) = _
    rw [read]
    match members, others with
    | [], _ => rfl
    | (next, value) :: members, others =>
      have shorter : (quote next).length + value.writeChars.length +
          (writeMembers members).length < fuel := by
        simp only [writeMembers, List.length_append, List.length_cons] at enough
        omega
      have more := members_writeMembers next value members others.1 others.2 fuel rest shorter
      have text : writeMembers ((next, value) :: members) ++ rest =
          ',' :: (quote next ++ ':' :: (value.writeChars ++ (writeMembers members ++ rest))) := by
        simp [writeMembers]
      rw [text]
      show ((some key, member.document) :: (Document.members fuel (quote next ++ _)).1,
        (Document.members fuel (quote next ++ _)).2.1,
        (Document.members fuel (quote next ++ _)).2.2) = _
      rw [more]
      rfl

end

/-- **Reading what was written** gives the document of the value, and nothing is left. -/
theorem read_write {v : Value} (fits : v.Fits) : Document.read v.write = (v.document, true) := by
  have read := value_writeChars v fits (2 * v.writeChars.length + 2) [] (by omega) stops_nil
  rw [List.append_nil] at read
  rw [Document.read, Value.write, String.toList_ofList]
  simp only [read]
  rfl

end Document

/-- A reader of the front of a text meets the document of the value that was written. -/
theorem Reader.runFront_write {α : Type} (reader : Reader α) {v : Value} (fits : v.Fits) :
    reader.runFront v.write = reader v.document := by
  rw [Reader.runFront, Document.read_write fits]

/-- An integer of 64 bits is read as it was. -/
theorem Reader.int64_document {n : Int} (inRange : IntegerRange.int64.contains n = true) :
    Reader.int64 (Value.int n).document = .ok n := by
  obtain ⟨least, greatest⟩ := IntegerRange.int64_contains.mp inRange
  by_cases nonneg : 0 ≤ n
  · have size : n.toNat < Nat.pow 2 63 := by
      have signed : Nat.pow 2 63 = 9223372036854775808 := rfl
      omega
    have back : ((n.toNat : Nat) : Int) = n := by omega
    simp only [Value.document, Number.ofInt, if_pos nonneg, Reader.int64, if_pos size, back]
  · simp only [Value.document, Number.ofInt, if_neg nonneg, Reader.int64]

theorem Value.fits_int {n : Int} (inRange : IntegerRange.int64.contains n = true) :
    (Value.int n).Fits := by
  obtain ⟨least, greatest⟩ := IntegerRange.int64_contains.mp inRange
  have last : IntegerRange.word64.greatest = 18446744073709551615 := rfl
  exact ⟨least, by omega⟩

end Passbook.Json
