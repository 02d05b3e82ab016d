/-
**UTF-8.**

`encode` writes the bytes of a character. `step` reads one character off the front of some bytes, or
the longest run of bytes that begins a character without completing it; at least one byte is taken.
`decode?` wants every character to be complete, `fault?` says where the first one is that is not,
and `decodeLossy` puts the replacement character in the place of such ones.
-/

namespace Passbook.Text.Utf8

/-- What stands in a text where bytes could not be read. -/
def replacement : Char := '\ufffd'

def encodeChar (c : Char) : List UInt8 :=
  let n := c.toNat
  if n < 0x80 then [n.toUInt8]
  else if n < 0x800 then [(0xC0 + n / 0x40).toUInt8, (0x80 + n % 0x40).toUInt8]
  else if n < 0x10000 then
    [(0xE0 + n / 0x1000).toUInt8, (0x80 + n / 0x40 % 0x40).toUInt8, (0x80 + n % 0x40).toUInt8]
  else
    [(0xF0 + n / 0x40000).toUInt8, (0x80 + n / 0x1000 % 0x40).toUInt8,
      (0x80 + n / 0x40 % 0x40).toUInt8, (0x80 + n % 0x40).toUInt8]

def encode (text : List Char) : List UInt8 :=
  text.flatMap encodeChar

/-- What a first byte announces: the bits it holds, the bounds of the second byte, and the number of
bytes that follow it. -/
structure Lead where
  bits : Nat
  least : Nat
  greatest : Nat
  following : Nat

/-- The leads of characters of more than one byte. The bounds shut out the longer spellings of
characters, the surrogates, and what lies beyond the last code point. -/
def lead? (b : Nat) : Option Lead :=
  if 0xC2 ≤ b ∧ b ≤ 0xDF then some ⟨b - 0xC0, 0x80, 0xBF, 1⟩
  else if b = 0xE0 then some ⟨0, 0xA0, 0xBF, 2⟩
  else if b = 0xED then some ⟨0xD, 0x80, 0x9F, 2⟩
  else if 0xE1 ≤ b ∧ b ≤ 0xEF then some ⟨b - 0xE0, 0x80, 0xBF, 2⟩
  else if b = 0xF0 then some ⟨0, 0x90, 0xBF, 3⟩
  else if 0xF1 ≤ b ∧ b ≤ 0xF3 then some ⟨b - 0xF0, 0x80, 0xBF, 3⟩
  else if b = 0xF4 then some ⟨4, 0x80, 0x8F, 3⟩
  else none

/-- Reads `following` more bytes onto `bits`, the next one between the bounds. Gives the character
when all are there, and what is left in any case. -/
def continue? (bits least greatest : Nat) : Nat → List UInt8 → Option Char × List UInt8
  | 0, bytes => (some (Char.ofNat bits), bytes)
  | _ + 1, [] => (none, [])
  | following + 1, b :: rest =>
    if least ≤ b.toNat ∧ b.toNat ≤ greatest then
      continue? (bits * 0x40 + (b.toNat - 0x80)) 0x80 0xBF following rest
    else (none, b :: rest)

theorem continue?_length_le (bits least greatest following : Nat) (bytes : List UInt8) :
    (continue? bits least greatest following bytes).2.length ≤ bytes.length := by
  induction following generalizing bits least greatest bytes with
  | zero => simp [continue?]
  | succ following ih =>
    cases bytes with
    | nil => simp [continue?]
    | cons b rest =>
      unfold continue?
      split
      · exact Nat.le_trans (ih ..) (by simp)
      · exact Nat.le_refl _

/-- Reads one character after the byte `b`. -/
def step (b : UInt8) (rest : List UInt8) : Option Char × List UInt8 :=
  if b.toNat < 0x80 then (some (Char.ofNat b.toNat), rest)
  else
    match lead? b.toNat with
    | none => (none, rest)
    | some lead => continue? lead.bits lead.least lead.greatest lead.following rest

theorem step_length_le (b : UInt8) (rest : List UInt8) : (step b rest).2.length ≤ rest.length := by
  unfold step
  split
  · exact Nat.le_refl _
  · split
    · exact Nat.le_refl _
    · exact continue?_length_le ..

/-- The characters read from the bytes, with nothing where bytes begin no character. -/
def decodeEach : List UInt8 → List (Option Char)
  | [] => []
  | b :: rest => (step b rest).1 :: decodeEach (step b rest).2
termination_by bytes => bytes.length
decreasing_by exact Nat.lt_succ_of_le (step_length_le b rest)

/-- The text that the bytes spell, if all of them belong to characters. -/
def decode? (bytes : List UInt8) : Option (List Char) :=
  (decodeEach bytes).mapM id

/-- A run of bytes that spells no character. -/
structure Fault where
  index : Nat
  /-- The length of the run; nothing when only further bytes could tell. -/
  length : Option Nat
  deriving DecidableEq, Repr

def Fault.message : Fault → String
  | ⟨index, some length⟩ => s!"invalid utf-8 sequence of {length} bytes from index {index}"
  | ⟨index, none⟩ => s!"incomplete utf-8 byte sequence from index {index}"

/-- The first fault of the bytes, the first of which has the given index. -/
def fault? (index : Nat) : List UInt8 → Option Fault
  | [] => none
  | b :: rest =>
    let left := (step b rest).2
    let length := rest.length + 1 - left.length
    if (step b rest).1.isSome then fault? (index + length) left
    else if (lead? b.toNat).isSome && left.isEmpty then some ⟨index, none⟩
    else some ⟨index, some length⟩
termination_by bytes => bytes.length
decreasing_by exact Nat.lt_succ_of_le (step_length_le b rest)

def decodeLossy (bytes : List UInt8) : List Char :=
  (decodeEach bytes).map (·.getD replacement)

end Passbook.Text.Utf8
