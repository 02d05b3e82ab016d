/-
**Reading JSON text.**

`Document.read` takes a text apart as far as it is JSON. What is read before a mistake is kept, in
its place; the mistake itself is a `broken` part, an array or object that is not closed, or text
after the document's end. A reader of documents that goes through the parts in order therefore meets
its own problems and the mistakes of the text in the order in which they were written.

A string with an escaped half of a character pair has no text, and a number too large for double
precision has no value; both are sound as parts of a document that nobody looks into.
-/

import Passbook.Decimal.Shortest
import Passbook.Text.Numeral
import Passbook.Text.Percent

namespace Passbook.Json

open Decimal (Binary64)
open Text (hexDigit?)
open Text.Numeral (digit?)

/-- The value of a number in a text. A fraction, an exponent and the sign of a zero make it a
floating-point number, and so does an integer that does not fit 64 bits. -/
inductive Number where
  | unsigned (n : Nat)
  | negative (n : Int)
  | float (x : Binary64)
  | outOfRange
  deriving DecidableEq, Repr

/-- What kind of value was found, as told in messages. -/
inductive Found where
  | null
  | boolean (b : Bool)
  | integer (n : Int)
  | float (x : Binary64)
  | string (text : String)
  | sequence
  | map
  deriving DecidableEq, Repr

inductive Document where
  | null
  | bool (b : Bool)
  | number (n : Number)
  | string (text : Option String)
  | array (items : List Document) (closed : Bool)
  | object (members : List (Option String × Document)) (closed : Bool)
  | broken

/-- The blanks that may stand between the parts of a text. -/
def isSpace (c : Char) : Bool :=
  c == ' ' || c == '\n' || c == '\t' || c == '\r'

def skipSpace (text : List Char) : List Char :=
  text.dropWhile isSpace

/-! ### Numbers -/

/-- A number with its digits taken apart, as far as 64 bits hold them: it stands for
`significand · 10^power`. -/
structure Scientific where
  significand : Nat
  power : Int

/-- Appends a digit to a significand unless it would not fit 64 bits. -/
def Scientific.push? (significand digit : Nat) : Option Nat :=
  if significand * 10 + digit < Nat.pow 2 64 then some (significand * 10 + digit) else none

/-- Reads digits before the point. Those that no longer fit count as zeros, as do all after the
first of them. -/
def wholeDigits (significand : Nat) : List Char → Scientific × List Char
  | [] => (⟨significand, 0⟩, [])
  | c :: rest =>
    match digit? c with
    | none => (⟨significand, 0⟩, c :: rest)
    | some d =>
      match Scientific.push? significand d with
      | some more => wholeDigits more rest
      | none =>
        let zeros := (c :: rest).takeWhile fun c => (digit? c).isSome
        (⟨significand, zeros.length⟩, (c :: rest).drop zeros.length)

/-- Reads digits after the point. Those that no longer fit are dropped, with all after them. -/
def fractionDigits (x : Scientific) : List Char → Scientific × List Char
  | [] => (x, [])
  | c :: rest =>
    match digit? c with
    | none => (x, c :: rest)
    | some d =>
      match Scientific.push? x.significand d with
      | some more => fractionDigits ⟨more, x.power - 1⟩ rest
      | none => (x, (c :: rest).dropWhile fun c => (digit? c).isSome)

/-- The greatest exponent of ten that is kept as it is. -/
def greatestExponent : Int := 2147483647

/-- Keeps an exponent within 32 bits. -/
def clampExponent (power : Int) : Int :=
  max (-2147483648) (min greatestExponent power)

/-- The value of a decimal with an exponent of `digits`. -/
def withExponent (x : Scientific) (down : Bool) (digits : List Char) : Option Binary64 :=
  let exponent : Int := digits.foldl (fun value c => value * 10 + (digit? c).getD 0) 0
  if greatestExponent < exponent then
    if x.significand = 0 ∨ down then some Binary64.zero else none
  else
    Binary64.scaled x.significand
      (clampExponent (if down then x.power - exponent else x.power + exponent))

/-- Reads an exponent after its letter, if one stands here, and gives the value. -/
def exponentPart (x : Scientific) (text : List Char) : Option (Option Binary64 × List Char) :=
  match text with
  | 'e' :: rest | 'E' :: rest =>
    let (down, rest) := match rest with
      | '+' :: rest => (false, rest)
      | '-' :: rest => (true, rest)
      | _ => (false, rest)
    let digits := rest.takeWhile fun c => (digit? c).isSome
    if digits.isEmpty then none
    else some (withExponent x down digits, rest.drop digits.length)
  | _ => some (Binary64.scaled x.significand x.power, text)

/-- A floating-point value with its sign. -/
def Number.ofBinary (negative : Bool) : Option Binary64 → Number
  | some x => .float (if negative then x.neg else x)
  | none => .outOfRange

/-- The value of an integer whose digits fit 64 bits. -/
def Number.ofWhole (negative : Bool) (n : Nat) : Number :=
  if !negative then .unsigned n
  else if 0 < n ∧ n ≤ Nat.pow 2 63 then .negative (-n)
  else .ofBinary true (Binary64.nearest n 1)

/-- Reads a number after its sign; nothing when the digits are not those of a number. -/
def number? (negative : Bool) (text : List Char) : Option (Number × List Char) := do
  let (whole, rest) ← match text with
    | '0' :: rest =>
      match rest with
      | c :: _ => if (digit? c).isSome then none else some (⟨0, 0⟩, rest)
      | [] => some (⟨0, 0⟩, rest)
    | c :: _ => if (digit? c).isSome then some (wholeDigits 0 text) else none
    | [] => none
  match rest with
  | '.' :: digits =>
    match digits with
    | [] => none
    | c :: _ =>
      if (digit? c).isNone then none
      else
        let (x, rest) := fractionDigits whole digits
        let (value, rest) ← exponentPart x rest
        return (.ofBinary negative value, rest)
  | 'e' :: _ | 'E' :: _ =>
    let (value, rest) ← exponentPart whole rest
    return (.ofBinary negative value, rest)
  | _ =>
    if whole.power = 0 then return (.ofWhole negative whole.significand, rest)
    else return (.ofBinary negative (Binary64.scaled whole.significand whole.power), rest)

/-! ### Strings -/

/-- A piece of a string: a character, or a unit of 16 bits given by an escape. -/
inductive Piece where
  | char (c : Char)
  | unit (n : Nat)
  deriving DecidableEq, Repr

/-- The character that a short escape stands for. -/
def shortEscape? : Char → Option Char
  | '\x22' => some '\x22'
  | '\\' => some '\\'
  | '/' => some '/'
  | 'b' => some '\x08'
  | 'f' => some '\x0c'
  | 'n' => some '\n'
  | 'r' => some '\r'
  | 't' => some '\t'
  | _ => none

/-- The unit written by four hexadecimal digits. -/
def unit? (a b c d : Char) : Option Nat :=
  match hexDigit? a, hexDigit? b, hexDigit? c, hexDigit? d with
  | some a, some b, some c, some d => some (((a * 16 + b) * 16 + c) * 16 + d)
  | _, _, _, _ => none

/-- Puts a piece before those of the rest. -/
def withPiece (piece : Piece) : Option (List Piece × List Char) → Option (List Piece × List Char) :=
  Option.map fun (pieces, rest) => (piece :: pieces, rest)

/-- Reads the pieces of a string up to its closing quote. -/
def pieces? : List Char → Option (List Piece × List Char)
  | [] => none
  | '\x22' :: rest => some ([], rest)
  | '\\' :: 'u' :: a :: b :: c :: d :: rest =>
    match unit? a b c d with
    | some n => withPiece (.unit n) (pieces? rest)
    | none => none
  | '\\' :: e :: rest =>
    match shortEscape? e with
    | some c => withPiece (.char c) (pieces? rest)
    | none => none
  | c :: rest => if c = '\\' ∨ c.toNat < 0x20 then none else withPiece (.char c) (pieces? rest)

def isHighUnit (n : Nat) : Bool :=
  0xD800 ≤ n && n ≤ 0xDBFF

def isLowUnit (n : Nat) : Bool :=
  0xDC00 ≤ n && n ≤ 0xDFFF

/-- The text of the pieces, a high and a low unit making one character; nothing when one of the two
stands alone. -/
def joinPieces? : List Piece → Option (List Char)
  | [] => some []
  | .char c :: rest => (joinPieces? rest).map (c :: ·)
  | .unit high :: .unit low :: rest =>
    if isHighUnit high then
      if isLowUnit low then
        (joinPieces? rest).map
          (Char.ofNat ((high - 0xD800) * 0x400 + (low - 0xDC00) + 0x10000) :: ·)
      else none
    else if isLowUnit high then none
    else (joinPieces? (.unit low :: rest)).map (Char.ofNat high :: ·)
  | .unit n :: rest =>
    if isHighUnit n || isLowUnit n then none else (joinPieces? rest).map (Char.ofNat n :: ·)

/-- Reads a string after its opening quote: its text, if it has one, and what follows. -/
def string? (text : List Char) : Option (Option String × List Char) :=
  (pieces? text).map fun (pieces, rest) => ((joinPieces? pieces).map String.ofList, rest)

/-! ### Documents -/

namespace Document

/-- The kind of value that a document starts with; nothing for a mistake. -/
def found? : Document → Option Found
  | null => some .null
  | bool b => some (.boolean b)
  | number (.unsigned n) => some (.integer n)
  | number (.negative n) => some (.integer n)
  | number (.float x) => some (.float x)
  | number .outOfRange => none
  | string text => text.map .string
  | array _ _ => some .sequence
  | object _ _ => some .map
  | broken => none

mutual

/-- Reads a value; `fuel` bounds the depth of calls. Nothing is left of a text with a mistake. -/
def value (fuel : Nat) (text : List Char) : Document × List Char :=
  match fuel with
  | 0 => (.broken, [])
  | fuel + 1 =>
    match skipSpace text with
    | 'n' :: 'u' :: 'l' :: 'l' :: rest => (.null, rest)
    | 't' :: 'r' :: 'u' :: 'e' :: rest => (.bool true, rest)
    | 'f' :: 'a' :: 'l' :: 's' :: 'e' :: rest => (.bool false, rest)
    | '\x22' :: rest =>
      match string? rest with
      | some (text, rest) => (.string text, rest)
      | none => (.broken, [])
    | '[' :: rest =>
      match skipSpace rest with
      | ']' :: rest => (.array [] true, rest)
      | rest =>
        let (items, closed, rest) := items fuel rest
        (.array items closed, rest)
    | '\x7b' :: rest =>
      match skipSpace rest with
      | '\x7d' :: rest => (.object [] true, rest)
      | rest =>
        let (members, closed, rest) := members fuel rest
        (.object members closed, rest)
    | '-' :: rest =>
      match number? true rest with
      | some (n, rest) => (.number n, rest)
      | none => (.broken, [])
    | rest =>
      match number? false rest with
      | some (n, rest) => (.number n, rest)
      | none => (.broken, [])

/-- Reads one or more items and the end of their array. -/
def items (fuel : Nat) (text : List Char) : List Document × Bool × List Char :=
  match fuel with
  | 0 => ([], false, [])
  | fuel + 1 =>
    let (item, rest) := value fuel text
    match skipSpace rest with
    | ',' :: rest =>
      let (more, closed, rest) := items fuel rest
      (item :: more, closed, rest)
    | ']' :: rest => ([item], true, rest)
    | _ => ([item], false, [])

/-- Reads one or more members and the end of their object. -/
def members (fuel : Nat) (text : List Char) :
    List (Option String × Document) × Bool × List Char :=
  match fuel with
  | 0 => ([], false, [])
  | fuel + 1 =>
    match skipSpace text with
    | '\x22' :: rest =>
      match string? rest with
      | none => ([], false, [])
      | some (key, rest) =>
        match skipSpace rest with
        | ':' :: rest =>
          let (member, rest) := value fuel rest
          match skipSpace rest with
          | ',' :: rest =>
            let (more, closed, rest) := members fuel rest
            ((key, member) :: more, closed, rest)
          | '\x7d' :: rest => ([(key, member)], true, rest)
          | _ => ([(key, member)], false, [])
        | _ => ([(key, .broken)], false, [])
    | _ => ([], false, [])

end

/-- Reads a whole text: the document, and whether nothing but blanks follows it. -/
def read (text : String) : Document × Bool :=
  let chars := text.toList
  let (document, rest) := value (2 * chars.length + 2) chars
  (document, rest.all isSpace)

mutual

/-- No part of the document is a mistake. -/
def isSound : Document → Bool
  | null | bool _ | number _ | string _ => true
  | array items closed => closed && allSound items
  | object members closed => closed && allMembersSound members
  | broken => false

def allSound : List Document → Bool
  | [] => true
  | item :: items => isSound item && allSound items

def allMembersSound : List (Option String × Document) → Bool
  | [] => true
  | (_, value) :: members => isSound value && allMembersSound members

end

end Document

end Passbook.Json
