/-
**Instants as text.**

`write` gives the text of an instant in universal time, `YYYY-MM-DDTHH:MM:SSZ`, with 0, 3, 6 or 9
digits of a second, the fewest that lose nothing; a year outside 0 to 9999 carries its sign.

`read` takes that form and the looser ones: digits without padding, blanks between the parts, a
blank or a small letter for the letters, an offset from universal time with or without its colon,
and digits of a second past the ninth, which are dropped. The text is read from left to right and
the first problem is the one reported; whether the date exists is asked at the end.
-/

import Passbook.Text.Blank
import Passbook.Text.Numeral
import Passbook.Time.Instant

namespace Passbook.Time

/-- Why a text is not the text of an instant. -/
inductive TimeError where
  | tooShort
  | invalid
  | outOfRange
  | impossible
  | trailing
  deriving DecidableEq, Repr

def TimeError.message : TimeError → String
  | tooShort => "premature end of input"
  | invalid => "input contains invalid characters"
  | outOfRange => "input is out of range"
  | impossible => "no possible date and time matching input"
  | trailing => "trailing input"

namespace Rfc3339

open Text

/-! ### Scanning -/

/-- A step of reading: it takes characters off the front of the text or fails. -/
abbrev Scan := StateT (List Char) (Except TimeError)

def skipBlanks : Scan Unit :=
  modify trimStart

/-- The value of digits written in base ten. -/
def valueOf (digits : List Char) : Nat :=
  digits.foldl (fun value c => value * 10 + (Numeral.digit? c).getD 0) 0

/-- The longest run of digits at the front of the text, of at most `width` of them. -/
def leadingDigits (width : Option Nat) (text : List Char) : List Char :=
  let digits := text.takeWhile fun c => (Numeral.digit? c).isSome
  match width with
  | some width => digits.take width
  | none => digits

/-- Reads one or more digits. -/
def number (width : Option Nat) : Scan (List Char) := do
  let text ← get
  match leadingDigits width text, text with
  | [], [] => throw .tooShort
  | [], _ => throw .invalid
  | digits, _ =>
    set (text.drop digits.length)
    return digits

/-- Reads the character `c`. -/
def mark (c : Char) : Scan Unit := do
  match ← get with
  | [] => throw .tooShort
  | d :: rest => if d = c then set rest else throw .invalid

/-- Reads at most two digits, with blanks before them, whose value lies between the bounds. -/
def part (least greatest : Nat) : Scan Nat := do
  skipBlanks
  let value := valueOf (← number (some 2))
  if least ≤ value ∧ value ≤ greatest then return value else throw .outOfRange

/-- Reads a year: four digits at most, or any number of them after a sign. -/
def year : Scan Int := do
  skipBlanks
  let value ← match ← get with
    | '-' :: rest => do
      set rest
      pure (-(valueOf (← number none) : Int))
    | '+' :: rest => do
      set rest
      pure (valueOf (← number none) : Int)
    | _ => do pure (valueOf (← number (some 4)) : Int)
  if -2147483648 ≤ value ∧ value < 2147483648 then return value else throw .outOfRange

/-- Reads the digits of a second after its point, if there is one, as nanoseconds. -/
def fraction : Scan Nat := do
  match ← get with
  | '.' :: rest =>
    set rest
    let digits ← number (some 9)
    modify (·.dropWhile fun c => (Numeral.digit? c).isSome)
    return valueOf digits * Nat.pow 10 (9 - digits.length)
  | _ => return 0

/-- Reads two characters; a text with less than two bytes is too short for them. -/
def pair : Scan (Char × Char) := do
  match ← get with
  | [] => throw .tooShort
  | [c] => throw (if c.toNat < 128 then .tooShort else .invalid)
  | c :: d :: rest =>
    set rest
    return (c, d)

/-- Reads an offset from universal time in minutes, after its sign. -/
def offsetMinutes : Scan Nat := do
  let (h, i) ← pair
  let hours ← match Numeral.digit? h, Numeral.digit? i with
    | some tens, some ones => pure (tens * 10 + ones)
    | _, _ => throw .invalid
  modify (·.dropWhile fun c => c == ':' || isBlank c)
  let (m, n) ← pair
  match Numeral.digit? m, Numeral.digit? n with
  | some tens, some ones =>
    if tens < 6 then return hours * 60 + tens * 10 + ones else throw .outOfRange
  | _, _ => throw .invalid

/-- Reads the zone of a time: `Z`, `UTC` in any case, or a sign and an offset. -/
def zone : Scan Int := do
  match ← get with
  | u :: t :: c :: rest =>
    if [u, t, c].map Char.toUpper = ['U', 'T', 'C'] then
      set rest
      return 0
    else signed
  | _ => signed
where
  signed : Scan Int := do
    match ← get with
    | [] => throw .tooShort
    | c :: rest =>
      set rest
      if c = 'Z' ∨ c = 'z' then return 0
      else if c = '+' then return (← offsetMinutes : Nat)
      else if c = '-' ∨ c = '\u2212' then return -((← offsetMinutes : Nat) : Int)
      else throw .invalid

/-! ### Reading -/

/-- The parts of a written time, as they were read. -/
structure Parts where
  year : Int
  month : Nat
  day : Nat
  hour : Nat
  minute : Nat
  /-- At most 60, which stands for a leap second. -/
  second : Nat
  nano : Nat
  /-- Minutes ahead of universal time. -/
  offset : Int
  deriving Repr

def parts : Scan Parts := do
  let year ← year
  skipBlanks
  mark '-'
  let month ← part 1 12
  skipBlanks
  mark '-'
  let day ← part 1 31
  match ← get with
  | [] => throw .tooShort
  | c :: rest => if c = 'T' ∨ c = 't' ∨ c = ' ' then set rest else throw .invalid
  let hour ← part 0 23
  skipBlanks
  mark ':'
  let minute ← part 0 59
  skipBlanks
  mark ':'
  let second ← part 0 60
  let nano ← fraction
  skipBlanks
  let offset ← zone
  return { year, month, day, hour, minute, second, nano, offset }

/-- The years in which instants can be told. -/
def knownYear (year : Int) : Bool :=
  -262143 ≤ year && year ≤ 262142

/-- The instant that the parts tell. -/
def Parts.instant (p : Parts) : Except TimeError Instant :=
  match Date.of? p.year p.month p.day with
  | none => .error .outOfRange
  | some date =>
    if !knownYear p.year then .error .outOfRange
    else
      let leap := p.second == 60
      let second := p.hour * 3600 + p.minute * 60 + if leap then 59 else p.second
      let nano := p.nano + if leap then 1000000000 else 0
      if valid : second < 86400 ∧ nano < 2000000000 ∧ (1000000000 ≤ nano → second % 60 = 59) then
        if p.offset ≤ -1440 ∨ 1440 ≤ p.offset then .error .outOfRange
        else
          let shown : Instant := ⟨date, second, nano, valid.1, valid.2.1, valid.2.2⟩
          let instant := Instant.ofLocal shown p.offset
          if knownYear instant.date.year then .ok instant else .error .impossible
      else .error .outOfRange

def read (text : String) : Except TimeError Instant := do
  let (parts, rest) ← parts.run text.toList
  if isAllBlank rest then parts.instant else throw .trailing

/-! ### Writing -/

def writeYear (year : Int) : List Char :=
  if 0 ≤ year ∧ year ≤ 9999 then Numeral.padded 4 year.toNat
  else (if year < 0 then '-' else '+') :: Numeral.padded 4 year.natAbs

/-- The digits of a second after its point, with the point; nothing for a whole second. -/
def writeFraction (nano : Nat) : List Char :=
  if nano = 0 then []
  else if nano % 1000000 = 0 then '.' :: Numeral.padded 3 (nano / 1000000)
  else if nano % 1000 = 0 then '.' :: Numeral.padded 6 (nano / 1000)
  else '.' :: Numeral.padded 9 nano

def write (instant : Instant) : String :=
  let leap := if 1000000000 ≤ instant.nano then 1 else 0
  String.ofList <|
    writeYear instant.date.year ++ '-' :: Numeral.padded 2 instant.date.month ++
    '-' :: Numeral.padded 2 instant.date.day ++
    'T' :: Numeral.padded 2 (instant.second / 3600) ++
    ':' :: Numeral.padded 2 (instant.second / 60 % 60) ++
    ':' :: Numeral.padded 2 (instant.second % 60 + leap) ++
    writeFraction (instant.nano % 1000000000) ++ ['Z']

end Rfc3339

end Passbook.Time
