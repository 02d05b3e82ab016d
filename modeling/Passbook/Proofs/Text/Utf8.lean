/-
**UTF-8 is read as it is written.**

* `continue?_cons`, `lead?_of_two`, `lead?_of_three`, `lead?_of_four` — what the first byte of a
  character announces, and how each further byte is taken.
* `step_encodeChar` — one character is read off its own bytes, whatever follows them.
* `lead?_eq_some`, `encodeChar_of_step` — a character is read off nothing but its own bytes.
* `encode_ascii` — ASCII bytes are those of the characters with their numbers.
* **`decode?_encode`**, `decodeLossy_encode` — the bytes of a text spell the text, and
  `decode?_eq_some_iff` — they are the only ones that do.
-/

import Passbook.Text.Utf8

namespace Passbook.Text.Utf8

/-! ### Bytes -/

theorem toNat_toUInt8 {n : Nat} (small : n < 256) : n.toUInt8.toNat = n := by
  simp [Nat.mod_eq_of_lt small]

theorem toUInt8_toNat (b : UInt8) : b.toNat.toUInt8 = b := by
  simp

theorem toUInt8_eq {n : Nat} {b : UInt8} (same : n = b.toNat) : n.toUInt8 = b :=
  same ▸ toUInt8_toNat b

theorem toNat_ofNat_of_valid {n : Nat} (valid : n.isValidChar) : (Char.ofNat n).toNat = n := by
  rw [Char.ofNat, dif_pos valid]
  rfl

theorem toNat_ofNat {n : Nat} (small : n < 256) : (Char.ofNat n).toNat = n :=
  toNat_ofNat_of_valid (.inl (by omega))

/-- A further byte within the bounds is taken. -/
theorem continue?_cons {bits least greatest following n : Nat} {rest : List UInt8}
    (small : n < 256) (above : least ≤ n) (below : n ≤ greatest) :
    continue? bits least greatest (following + 1) (n.toUInt8 :: rest) =
      continue? (bits * 0x40 + (n - 0x80)) 0x80 0xBF following rest := by
  rw [continue?, toNat_toUInt8 small, if_pos ⟨above, below⟩]

/-- The code points of characters are those below the last that are no surrogates. -/
theorem toNat_cases (c : Char) :
    c.toNat < 0xD800 ∨ (0xDFFF < c.toNat ∧ c.toNat < 0x110000) :=
  c.valid

/-! ### Characters of several bytes -/

section Leads

variable {n : Nat}

theorem lead?_of_two (least : 0x80 ≤ n) (greatest : n < 0x800) :
    lead? (0xC0 + n / 0x40) = some ⟨n / 0x40, 0x80, 0xBF, 1⟩ := by
  rw [lead?, if_pos (by omega), Nat.add_sub_cancel_left]

/-- The second byte of a character of three bytes lies within the bounds of its lead. -/
theorem lead?_of_three (least : 0x800 ≤ n) (greatest : n < 0x10000)
    (character : n < 0xD800 ∨ 0xDFFF < n) :
    ∃ low high, lead? (0xE0 + n / 0x1000) = some ⟨n / 0x1000, low, high, 2⟩ ∧
      low ≤ 0x80 + n / 0x40 % 0x40 ∧ 0x80 + n / 0x40 % 0x40 ≤ high := by
  unfold lead?
  rw [if_neg (by omega)]
  by_cases first : n / 0x1000 = 0
  · exact ⟨0xA0, 0xBF, by simp [first], by omega, by omega⟩
  by_cases surrogate : n / 0x1000 = 0xD
  · exact ⟨0x80, 0x9F, by simp [surrogate], by omega, by omega⟩
  · refine ⟨0x80, 0xBF, ?_, by omega, by omega⟩
    rw [if_neg (by omega), if_neg (by omega), if_pos (by omega), Nat.add_sub_cancel_left]

/-- The second byte of a character of four bytes lies within the bounds of its lead. -/
theorem lead?_of_four (least : 0x10000 ≤ n) (greatest : n < 0x110000) :
    ∃ low high, lead? (0xF0 + n / 0x40000) = some ⟨n / 0x40000, low, high, 3⟩ ∧
      low ≤ 0x80 + n / 0x1000 % 0x40 ∧ 0x80 + n / 0x1000 % 0x40 ≤ high := by
  unfold lead?
  rw [if_neg (by omega), if_neg (by omega), if_neg (by omega), if_neg (by omega)]
  by_cases first : n / 0x40000 = 0
  · exact ⟨0x90, 0xBF, by simp [first], by omega, by omega⟩
  by_cases last : n / 0x40000 = 4
  · exact ⟨0x80, 0x8F, by simp [last], by omega, by omega⟩
  · refine ⟨0x80, 0xBF, ?_, by omega, by omega⟩
    rw [if_neg (by omega), if_pos (by omega), Nat.add_sub_cancel_left]

end Leads

/-- A character that a byte announces is read off it and the bytes that follow. -/
theorem step_of_lead {n : Nat} {lead : Lead} {rest : List UInt8} (small : n < 256)
    (several : 0x80 ≤ n) (announced : lead? n = some lead) :
    step n.toUInt8 rest = continue? lead.bits lead.least lead.greatest lead.following rest := by
  rw [step, toNat_toUInt8 small, if_neg (by omega), announced]

/-- **One character** is read off its own bytes. -/
theorem step_encodeChar (c : Char) (rest : List UInt8) :
    ∃ b more, encodeChar c = b :: more ∧ step b (more ++ rest) = (some c, rest) := by
  have valid := toNat_cases c
  unfold encodeChar
  by_cases one : c.toNat < 0x80
  · refine ⟨c.toNat.toUInt8, [], if_pos one, ?_⟩
    rw [step, toNat_toUInt8 (by omega), if_pos one, Char.ofNat_toNat]
    rfl
  simp only [if_neg one]
  by_cases two : c.toNat < 0x800
  · refine ⟨_, _, if_pos two, ?_⟩
    have announced := lead?_of_two (by omega : 0x80 ≤ c.toNat) two
    rw [step_of_lead (by omega) (by omega) announced]
    show continue? (c.toNat / 0x40) 0x80 0xBF 1 (_ :: rest) = _
    rw [continue?_cons (by omega) (by omega) (by omega), continue?]
    have bits : c.toNat / 0x40 * 0x40 + (0x80 + c.toNat % 0x40 - 0x80) = c.toNat := by omega
    rw [bits, Char.ofNat_toNat]
  simp only [if_neg two]
  by_cases three : c.toNat < 0x10000
  · refine ⟨_, _, if_pos three, ?_⟩
    obtain ⟨low, high, announced, above, below⟩ :=
      lead?_of_three (by omega : 0x800 ≤ c.toNat) three (by omega)
    rw [step_of_lead (by omega) (by omega) announced]
    show continue? _ _ _ 2 (_ :: _ :: rest) = _
    rw [continue?_cons (by omega) above below, continue?_cons (by omega) (by omega) (by omega),
      continue?]
    have bits : (c.toNat / 0x1000 * 0x40 + (0x80 + c.toNat / 0x40 % 0x40 - 0x80)) * 0x40 +
        (0x80 + c.toNat % 0x40 - 0x80) = c.toNat := by omega
    rw [bits, Char.ofNat_toNat]
  · refine ⟨_, _, if_neg three, ?_⟩
    obtain ⟨low, high, announced, above, below⟩ :=
      lead?_of_four (by omega : 0x10000 ≤ c.toNat) (by omega)
    rw [step_of_lead (by omega) (by omega) announced]
    show continue? _ _ _ 3 (_ :: _ :: _ :: rest) = _
    rw [continue?_cons (by omega) above below, continue?_cons (by omega) (by omega) (by omega),
      continue?_cons (by omega) (by omega) (by omega), continue?]
    have bits : ((c.toNat / 0x40000 * 0x40 + (0x80 + c.toNat / 0x1000 % 0x40 - 0x80)) * 0x40 +
        (0x80 + c.toNat / 0x40 % 0x40 - 0x80)) * 0x40 + (0x80 + c.toNat % 0x40 - 0x80) =
        c.toNat := by omega
    rw [bits, Char.ofNat_toNat]

/-! ### Characters that were read -/

section Taken

variable {bits least greatest following : Nat} {bytes left : List UInt8} {c : Char}

/-- The byte that was taken lies within the bounds. -/
theorem continue?_eq_some
    (taken : continue? bits least greatest (following + 1) bytes = (some c, left)) :
    ∃ b rest, bytes = b :: rest ∧ least ≤ b.toNat ∧ b.toNat ≤ greatest ∧
      continue? (bits * 0x40 + (b.toNat - 0x80)) 0x80 0xBF following rest = (some c, left) := by
  cases bytes with
  | nil => cases taken
  | cons b rest =>
    rw [continue?] at taken
    split at taken
    · rename_i within
      exact ⟨b, rest, rfl, within.1, within.2, taken⟩
    · cases taken

/-- What the first byte of a character of several bytes says of it and of the second one. -/
theorem lead?_eq_some {n : Nat} {lead : Lead} (announced : lead? n = some lead) :
    (0xC2 ≤ n ∧ n ≤ 0xDF ∧ lead = ⟨n - 0xC0, 0x80, 0xBF, 1⟩) ∨
    (0xE0 ≤ n ∧ n ≤ 0xEF ∧ lead.bits = n - 0xE0 ∧ lead.following = 2 ∧
      0x80 ≤ lead.least ∧ lead.greatest ≤ 0xBF ∧ (n = 0xE0 → 0xA0 ≤ lead.least) ∧
      (n = 0xED → lead.greatest ≤ 0x9F)) ∨
    (0xF0 ≤ n ∧ n ≤ 0xF4 ∧ lead.bits = n - 0xF0 ∧ lead.following = 3 ∧
      0x80 ≤ lead.least ∧ lead.greatest ≤ 0xBF ∧ (n = 0xF0 → 0x90 ≤ lead.least) ∧
      (n = 0xF4 → lead.greatest ≤ 0x8F)) := by
  unfold lead? at announced
  by_cases two : 0xC2 ≤ n ∧ n ≤ 0xDF
  · rw [if_pos two] at announced
    obtain rfl := Option.some.inj announced
    exact .inl ⟨two.1, two.2, rfl⟩
  rw [if_neg two] at announced
  by_cases first : n = 0xE0
  · rw [if_pos first] at announced
    obtain rfl := Option.some.inj announced
    exact .inr (.inl (by simp [first]))
  rw [if_neg first] at announced
  by_cases surrogate : n = 0xED
  · rw [if_pos surrogate] at announced
    obtain rfl := Option.some.inj announced
    exact .inr (.inl (by simp [surrogate]))
  rw [if_neg surrogate] at announced
  by_cases three : 0xE1 ≤ n ∧ n ≤ 0xEF
  · rw [if_pos three] at announced
    obtain rfl := Option.some.inj announced
    exact .inr (.inl ⟨by omega, three.2, rfl, rfl, Nat.le_refl _, Nat.le_refl _,
      fun same => absurd same first, fun same => absurd same surrogate⟩)
  rw [if_neg three] at announced
  by_cases first : n = 0xF0
  · rw [if_pos first] at announced
    obtain rfl := Option.some.inj announced
    exact .inr (.inr (by simp [first]))
  rw [if_neg first] at announced
  by_cases four : 0xF1 ≤ n ∧ n ≤ 0xF3
  · rw [if_pos four] at announced
    obtain rfl := Option.some.inj announced
    exact .inr (.inr ⟨by omega, by omega, rfl, rfl, Nat.le_refl _, Nat.le_refl _,
      fun same => absurd same first, fun same => by omega⟩)
  rw [if_neg four] at announced
  by_cases last : n = 0xF4
  · rw [if_pos last] at announced
    obtain rfl := Option.some.inj announced
    exact .inr (.inr (by simp [last]))
  · rw [if_neg last] at announced
    cases announced

/-- **One character** is read off nothing but its own bytes. -/
theorem encodeChar_of_step {b : UInt8} {rest : List UInt8} (read : step b rest = (some c, left)) :
    encodeChar c ++ left = b :: rest := by
  unfold step at read
  by_cases one : b.toNat < 0x80
  · rw [if_pos one] at read
    cases read
    rw [encodeChar, toNat_ofNat b.toNat_lt, if_pos one, toUInt8_toNat]
    rfl
  rw [if_neg one] at read
  cases announced : lead? b.toNat with
  | none =>
    simp only [announced] at read
    cases read
  | some lead =>
    simp only [announced] at read
    rcases lead?_eq_some announced with ⟨above, below, rfl⟩ |
      ⟨above, below, bits, following, least, greatest, first, surrogate⟩ |
      ⟨above, below, bits, following, least, greatest, first, last⟩
    · dsimp only at read
      obtain ⟨b₁, rest, rfl, above₁, below₁, read⟩ := continue?_eq_some read
      rw [continue?] at read
      obtain ⟨same, rfl⟩ := Prod.mk.inj read
      obtain rfl := Option.some.inj same
      unfold encodeChar
      rw [toNat_ofNat_of_valid (.inl (by omega)), if_neg (by omega), if_pos (by omega)]
      exact List.cons_eq_cons.mpr ⟨toUInt8_eq (by omega),
        List.cons_eq_cons.mpr ⟨toUInt8_eq (by omega), rfl⟩⟩
    · rw [following] at read
      obtain ⟨b₁, rest, rfl, above₁, below₁, read⟩ := continue?_eq_some read
      obtain ⟨b₂, rest, rfl, above₂, below₂, read⟩ := continue?_eq_some read
      rw [continue?, bits] at read
      obtain ⟨same, rfl⟩ := Prod.mk.inj read
      obtain rfl := Option.some.inj same
      unfold encodeChar
      rw [toNat_ofNat_of_valid (by unfold Nat.isValidChar; omega), if_neg (by omega),
        if_neg (by omega), if_pos (by omega)]
      exact List.cons_eq_cons.mpr ⟨toUInt8_eq (by omega),
        List.cons_eq_cons.mpr ⟨toUInt8_eq (by omega),
          List.cons_eq_cons.mpr ⟨toUInt8_eq (by omega), rfl⟩⟩⟩
    · rw [following] at read
      obtain ⟨b₁, rest, rfl, above₁, below₁, read⟩ := continue?_eq_some read
      obtain ⟨b₂, rest, rfl, above₂, below₂, read⟩ := continue?_eq_some read
      obtain ⟨b₃, rest, rfl, above₃, below₃, read⟩ := continue?_eq_some read
      rw [continue?, bits] at read
      obtain ⟨same, rfl⟩ := Prod.mk.inj read
      obtain rfl := Option.some.inj same
      unfold encodeChar
      rw [toNat_ofNat_of_valid (by unfold Nat.isValidChar; omega), if_neg (by omega),
        if_neg (by omega), if_neg (by omega)]
      exact List.cons_eq_cons.mpr ⟨toUInt8_eq (by omega),
        List.cons_eq_cons.mpr ⟨toUInt8_eq (by omega),
          List.cons_eq_cons.mpr ⟨toUInt8_eq (by omega),
            List.cons_eq_cons.mpr ⟨toUInt8_eq (by omega), rfl⟩⟩⟩⟩

end Taken

/-! ### Texts -/

/-- ASCII bytes are the bytes of the characters with their numbers. -/
theorem encode_ascii : ∀ {bytes : List UInt8}, (∀ b ∈ bytes, b.toNat < 0x80) →
    encode (bytes.map fun b => Char.ofNat b.toNat) = bytes
  | [], _ => rfl
  | b :: bytes, ascii => by
    have small : b.toNat < 0x80 := ascii b List.mem_cons_self
    have rest := encode_ascii fun other among => ascii other (.tail _ among)
    rw [encode] at rest ⊢
    rw [List.map_cons, List.flatMap_cons, rest, encodeChar, toNat_ofNat b.toNat_lt, if_pos small,
      toUInt8_toNat, List.singleton_append]

theorem encode_ne_nil {text : List Char} (some_char : text ≠ []) : encode text ≠ [] := by
  cases text with
  | nil => exact absurd rfl some_char
  | cons c rest =>
    obtain ⟨b, more, written, _⟩ := step_encodeChar c []
    rw [encode, List.flatMap_cons, written]
    exact List.cons_ne_nil _ _

theorem decodeEach_encode (text : List Char) : decodeEach (encode text) = text.map some := by
  induction text with
  | nil => rw [encode, List.flatMap_nil, decodeEach, List.map_nil]
  | cons c rest ih =>
    obtain ⟨b, more, written, read⟩ := step_encodeChar c (encode rest)
    rw [encode, List.flatMap_cons, written, List.cons_append, decodeEach]
    rw [show rest.flatMap encodeChar = encode rest from rfl, read, ih, List.map_cons]

/-- **The bytes of a text spell the text.** -/
theorem decode?_encode (text : List Char) : decode? (encode text) = some text := by
  rw [decode?, decodeEach_encode]
  induction text with
  | nil => rfl
  | cons c rest ih =>
    rw [List.map_cons, List.mapM_cons, ih]
    rfl

/-- **What bytes spell** is the text whose bytes they are. -/
theorem decode?_eq_some_iff {bytes : List UInt8} {text : List Char} :
    decode? bytes = some text ↔ encode text = bytes := by
  constructor
  · rw [decode?]
    induction bytes using decodeEach.induct generalizing text with
    | case1 =>
      intro read
      rw [decodeEach] at read
      cases read
      rfl
    | case2 b rest ih =>
      intro read
      rw [decodeEach, List.mapM_cons] at read
      obtain ⟨c, first, read⟩ := Option.bind_eq_some_iff.mp read
      obtain ⟨others, later, same⟩ := Option.bind_eq_some_iff.mp read
      cases same
      have taken : step b rest = (some c, (step b rest).2) := Prod.ext first rfl
      rw [encode, List.flatMap_cons, ← encodeChar_of_step taken]
      exact congrArg (encodeChar c ++ ·) (ih later)
  · rintro rfl
    exact decode?_encode text

/-- Nothing has to be replaced in the bytes of a text. -/
theorem decodeLossy_encode (text : List Char) : decodeLossy (encode text) = text := by
  rw [decodeLossy, decodeEach_encode, List.map_map]
  exact List.map_id text

end Passbook.Text.Utf8
