/-
**Every percent encoding is decoded.**

* `Percent.Spells text bytes` — each byte is written as a character that may stand for itself in a
  part of a path, or as a percent sign and two hexadecimal digits of either case.
* `Spells.ascii` and `Spells.apart` — such a text is ASCII and has no character that ends a part of
  a path.
* **`Spells.decode`** — it is decoded to the bytes that it spells.
* `spells_encode` — what is encoded is such a text; `not_mem_encode` — it has no character that
  needs to be escaped anywhere.
-/

import Passbook.Proofs.Text.Utf8
import Passbook.Text.Percent

namespace Passbook.Text

/-! ### Digits -/

/-- The ASCII characters can be gone through one by one. -/
theorem forall_ascii {P : Char → Prop} (each : ∀ n < 0x80, P (Char.ofNat n)) {c : Char}
    (ascii : c.toNat < 0x80) : P c :=
  Char.ofNat_toNat c ▸ each c.toNat ascii

/-- Reads the digit that stands for a number. -/
theorem hexDigit?_digitChar {n : Nat} (small : n < 16) : hexDigit? (Nat.digitChar n) = some n := by
  have each : ∀ n < 16, hexDigit? (Nat.digitChar n) = some n := by decide
  exact each n small

theorem toNat_le_of_le {c last : Char} (below : c ≤ last) : c.toNat ≤ last.toNat :=
  UInt32.le_iff_toNat_le.mp (Char.le_def.mp below)

theorem ascii_of_hexDigit? {c : Char} {n : Nat} (digit : hexDigit? c = some n) :
    c.toNat < 0x80 := by
  unfold hexDigit? at digit
  by_cases decimal : '0' ≤ c ∧ c ≤ '9'
  · exact Nat.lt_of_le_of_lt (toNat_le_of_le decimal.2) (by decide)
  rw [if_neg decimal] at digit
  by_cases lower : 'a' ≤ c ∧ c ≤ 'f'
  · exact Nat.lt_of_le_of_lt (toNat_le_of_le lower.2) (by decide)
  rw [if_neg lower] at digit
  by_cases upper : 'A' ≤ c ∧ c ≤ 'F'
  · exact Nat.lt_of_le_of_lt (toNat_le_of_le upper.2) (by decide)
  · rw [if_neg upper] at digit
    cases digit

namespace Percent

/-- A character that may stand for itself in a part of a path. -/
def isBare (c : Char) : Bool :=
  c.isAlphanum || "-._~!$&\x27()*+,;=:@".toList.contains c

/-- The characters spell the bytes. -/
inductive Spells : List Char → List UInt8 → Prop
  | nil : Spells [] []
  | bare {c : Char} {rest : List Char} {bytes : List UInt8} : isBare c = true →
    Spells rest bytes → Spells (c :: rest) (c.toNat.toUInt8 :: bytes)
  | escaped {high low : Char} {h l : Nat} {rest : List Char} {bytes : List UInt8} :
    hexDigit? high = some h → hexDigit? low = some l → Spells rest bytes →
    Spells ('%' :: high :: low :: rest) ((h * 16 + l).toUInt8 :: bytes)

theorem ascii_of_isBare {c : Char} (bare : isBare c = true) : c.toNat < 0x80 := by
  unfold isBare at bare
  rcases Bool.or_eq_true_iff.mp bare with alphanumeric | marked
  · rcases Bool.or_eq_true_iff.mp alphanumeric with letter | digit
    · rcases Bool.or_eq_true_iff.mp letter with upper | lower
      · have below : c ≤ 'Z' := (of_decide_eq_true upper).2
        exact Nat.lt_of_le_of_lt (toNat_le_of_le below) (by decide)
      · have below : c ≤ 'z' := of_decide_eq_true (Bool.and_eq_true_iff.mp lower).2
        exact Nat.lt_of_le_of_lt (toNat_le_of_le below) (by decide)
    · have below : c ≤ '9' := of_decide_eq_true (Bool.and_eq_true_iff.mp digit).2
      exact Nat.lt_of_le_of_lt (toNat_le_of_le below) (by decide)
  · have each : "-._~!$&\x27()*+,;=:@".toList.all (fun mark => mark.toNat < 0x80) = true := rfl
    have small := List.all_eq_true.mp each c (List.contains_iff_mem.mp marked)
    exact of_decide_eq_true small

namespace Spells

variable {text : List Char} {bytes : List UInt8}

theorem ascii (spells : Spells text bytes) : ∀ c ∈ text, c.toNat < 0x80 := by
  induction spells with
  | nil => exact fun _ member => by cases member
  | bare stands _ ih =>
    intro c member
    rcases List.mem_cons.mp member with rfl | later
    · exact ascii_of_isBare stands
    · exact ih c later
  | escaped high low _ ih =>
    intro c member
    rcases List.mem_cons.mp member with rfl | member
    · decide
    rcases List.mem_cons.mp member with rfl | member
    · exact ascii_of_hexDigit? high
    rcases List.mem_cons.mp member with rfl | member
    · exact ascii_of_hexDigit? low
    · exact ih c member

/-- A character that is neither bare nor part of an escape does not occur. -/
theorem apart (spells : Spells text bytes) {other : Char} (notBare : isBare other = false)
    (noSign : other ≠ '%') (noDigit : hexDigit? other = none) : other ∉ text := by
  induction spells with
  | nil => exact List.not_mem_nil
  | bare stands _ ih =>
    intro member
    rcases List.mem_cons.mp member with rfl | later
    · rw [stands] at notBare
      cases notBare
    · exact ih later
  | escaped high low _ ih =>
    intro member
    rcases List.mem_cons.mp member with same | member
    · exact noSign same
    rcases List.mem_cons.mp member with rfl | member
    · rw [high] at noDigit
      cases noDigit
    rcases List.mem_cons.mp member with rfl | member
    · rw [low] at noDigit
      cases noDigit
    · exact ih member

theorem ne_nil (spells : Spells text bytes) (some_byte : bytes ≠ []) : text ≠ [] := by
  cases spells with
  | nil => exact absurd rfl some_byte
  | bare _ _ => exact List.cons_ne_nil _ _
  | escaped _ _ _ => exact List.cons_ne_nil _ _

end Spells

/-! ### Decoding -/

theorem encode_of_ascii {text : List Char} (ascii : ∀ c ∈ text, c.toNat < 0x80) :
    Utf8.encode text = text.map fun c => c.toNat.toUInt8 := by
  induction text with
  | nil => rfl
  | cons c rest ih =>
    have one : Utf8.encodeChar c = [c.toNat.toUInt8] := if_pos (ascii c List.mem_cons_self)
    rw [Utf8.encode, List.flatMap_cons, one, List.map_cons]
    exact congrArg _ (ih fun other member => ascii other (List.mem_cons_of_mem _ member))

/-- A byte that is no percent sign is left as it is. -/
theorem decode_cons_of_ne {b : UInt8} (noSign : b ≠ sign) (rest : List UInt8) :
    decode (b :: rest) = b :: decode rest := by
  match rest with
  | [] => rfl
  | [_] => rfl
  | _ :: _ :: _ => rw [decode, if_neg noSign]

theorem ofNat_toUInt8 {c : Char} (ascii : c.toNat < 0x80) :
    Char.ofNat c.toNat.toUInt8.toNat = c := by
  rw [Utf8.toNat_toUInt8 (by omega), Char.ofNat_toNat]

/-- **A text is decoded to the bytes that it spells.** -/
theorem Spells.decode {text : List Char} {bytes : List UInt8} (spells : Spells text bytes) :
    Percent.decode (Utf8.encode text) = bytes := by
  rw [encode_of_ascii spells.ascii]
  induction spells with
  | nil => rfl
  | @bare c rest bytes stands _ ih =>
    have noSign : c.toNat.toUInt8 ≠ sign := by
      intro same
      have code : c.toNat.toUInt8.toNat = sign.toNat := congrArg UInt8.toNat same
      have its : c = '%' := by
        rw [← ofNat_toUInt8 (ascii_of_isBare stands), code]
        rfl
      rw [its] at stands
      cases stands
    rw [List.map_cons, decode_cons_of_ne noSign, ih]
  | @escaped high low h l rest bytes first second _ ih =>
    have value : byte? high.toNat.toUInt8 low.toNat.toUInt8 = some (h * 16 + l).toUInt8 := by
      rw [byte?, ofNat_toUInt8 (ascii_of_hexDigit? first),
        ofNat_toUInt8 (ascii_of_hexDigit? second), first, second]
    have unfolded : Percent.decode
        (sign :: high.toNat.toUInt8 :: low.toNat.toUInt8 :: rest.map fun c => c.toNat.toUInt8) =
        (h * 16 + l).toUInt8 :: Percent.decode (rest.map fun c => c.toNat.toUInt8) := by
      rw [Percent.decode, if_pos rfl, value]
    exact unfolded.trans (congrArg _ ih)

/-! ### Encoding -/

/-- A plain byte is that of a letter, of a digit or of one of four marks. -/
theorem isPlain_cases {b : UInt8} (plain : isPlain b = true) :
    (Char.ofNat b.toNat).isAlphanum = true ∨ Char.ofNat b.toNat ∈ ['-', '_', '.', '~'] := by
  simpa [isPlain, or_assoc] using plain

theorem isBare_of_isPlain {b : UInt8} (plain : isPlain b = true) :
    isBare (Char.ofNat b.toNat) = true := by
  rcases isPlain_cases plain with alphanumeric | marked
  · rw [isBare, alphanumeric, Bool.true_or]
  · have each : ['-', '_', '.', '~'].all isBare = true := by decide
    exact List.all_eq_true.mp each _ marked

theorem spells_encodeByte (b : UInt8) {rest : List Char} {bytes : List UInt8}
    (spells : Spells rest bytes) : Spells (encodeByte b ++ rest) (b :: bytes) := by
  have small : b.toNat < 256 := b.toNat_lt
  unfold encodeByte
  by_cases plain : isPlain b = true
  · rw [if_pos plain]
    have code : (Char.ofNat b.toNat).toNat.toUInt8 = b := by
      rw [Utf8.toNat_ofNat small, Utf8.toUInt8_toNat]
    have stands := Spells.bare (isBare_of_isPlain plain) spells
    rw [code] at stands
    exact stands
  · rw [if_neg plain]
    have digits := Spells.escaped (hexDigit?_digitChar (by omega : b.toNat / 16 < 16))
      (hexDigit?_digitChar (by omega : b.toNat % 16 < 16)) spells
    rw [Nat.div_add_mod', Utf8.toUInt8_toNat] at digits
    exact digits

/-- **What is encoded spells the bytes of the text.** -/
theorem spells_encode (text : String) :
    Spells (encode text).toList (Utf8.encode text.toList) := by
  rw [encode, String.toList_ofList]
  generalize Utf8.encode text.toList = bytes
  induction bytes with
  | nil => exact .nil
  | cons b rest ih =>
    rw [List.flatMap_cons]
    exact spells_encodeByte b ih

/-- A text of characters that stand for themselves spells its own bytes. -/
theorem spells_of_bare {text : List Char} (bare : ∀ c ∈ text, isBare c = true) :
    Spells text (Utf8.encode text) := by
  rw [encode_of_ascii fun c member => ascii_of_isBare (bare c member)]
  induction text with
  | nil => exact .nil
  | cons c rest ih =>
    exact .bare (bare c List.mem_cons_self) (ih fun other member => bare other (.tail c member))

/-- A character that may stand in what is encoded. -/
def isWritten (c : Char) : Bool :=
  c.isAlphanum || "-_.~%".toList.contains c

theorem isWritten_digitChar {n : Nat} (small : n < 16) : isWritten (Nat.digitChar n) = true := by
  have each : ∀ n < 16, isWritten (Nat.digitChar n) = true := by decide
  exact each n small

theorem isWritten_of_isPlain {b : UInt8} (plain : isPlain b = true) :
    isWritten (Char.ofNat b.toNat) = true := by
  rcases isPlain_cases plain with alphanumeric | marked
  · rw [isWritten, alphanumeric, Bool.true_or]
  · have each : ['-', '_', '.', '~'].all isWritten = true := by decide
    exact List.all_eq_true.mp each _ marked

/-- What is encoded has only such characters. -/
theorem isWritten_of_mem_encode {text : String} {c : Char} (member : c ∈ (encode text).toList) :
    isWritten c = true := by
  rw [encode, String.toList_ofList] at member
  obtain ⟨b, _, inside⟩ := List.mem_flatMap.mp member
  have small : b.toNat < 256 := b.toNat_lt
  unfold encodeByte at inside
  by_cases plain : isPlain b = true
  · rw [if_pos plain] at inside
    rw [List.mem_singleton.mp inside]
    exact isWritten_of_isPlain plain
  · rw [if_neg plain] at inside
    rcases List.mem_cons.mp inside with rfl | inside
    · decide
    rcases List.mem_cons.mp inside with rfl | inside
    · exact isWritten_digitChar (by omega)
    · rw [List.mem_singleton.mp inside]
      exact isWritten_digitChar (by omega)

theorem not_mem_encode {other : Char} (apart : isWritten other = false) (text : String) :
    other ∉ (encode text).toList := by
  intro member
  rw [isWritten_of_mem_encode member] at apart
  cases apart

end Percent

end Passbook.Text
