/-
**Addresses of hosts.**

An `Ip` is the address of a host. `readV4?` takes four decimal numbers with points between them, and
`readV6?` eight hexadecimal ones with colons between them. In the latter a run of zeros may be left
out between two colons, and the last two numbers may be written as four decimal ones.
-/

import Passbook.Text.Numeral
import Passbook.Text.Percent
import Passbook.Text.Split

namespace Passbook.Internet

inductive Ip where
  /-- Four numbers below 2 ^ 8. -/
  | v4 (octets : List Nat)
  /-- Eight numbers below 2 ^ 16. -/
  | v6 (groups : List Nat)
  deriving DecidableEq, Repr

namespace Ip

/-- The number that decimal digits write, if it is not above `greatest`. -/
def decimal? (greatest : Nat) (text : List Char) : Option Nat := do
  let digits ← text.mapM Text.Numeral.digit?
  let n := digits.foldl (fun n digit => n * 10 + digit) 0
  if text.isEmpty || greatest < n then none else some n

/-- A number below 2 ^ 8, without zeros in front. -/
def octet? (text : List Char) : Option Nat :=
  if text.head? = some '0' ∧ text ≠ ['0'] then none else decimal? 255 text

def octets? (text : List Char) : Option (List Nat) := do
  let octets ← (Text.split '.' text).mapM octet?
  if octets.length = 4 then some octets else none

def readV4? (text : List Char) : Option Ip :=
  (octets? text).map .v4

/-- A number of one to four hexadecimal digits. -/
def group? (text : List Char) : Option Nat := do
  let digits ← text.mapM Text.hexDigit?
  if text.isEmpty || 4 < text.length then none
  else some (digits.foldl (fun n digit => n * 16 + digit) 0)

/-- Two groups written as four decimal numbers. -/
def mixed? (text : List Char) : Option (List Nat) := do
  match ← octets? text with
  | [a, b, c, d] => some [a * 256 + b, c * 256 + d]
  | _ => none

/-- Groups from their written forms, the last of which may stand for two. -/
def groupsOf? : List (List Char) → Option (List Nat)
  | [] => some []
  | [last] => (group? last).map ([·]) <|> mixed? last
  | text :: rest => do
    let group ← group? text
    let groups ← groupsOf? rest
    return group :: groups

/-- Groups with colons between them; nothing at all is no groups. -/
def groups? (text : List Char) : Option (List Nat) :=
  if text.isEmpty then some [] else groupsOf? (Text.split ':' text)

/-- A text up to the first two colons in a row, and what follows them. -/
def cutAtGap : List Char → List Char × Option (List Char)
  | ':' :: ':' :: rest => ([], some rest)
  | c :: rest =>
    let (before, after) := cutAtGap rest
    (c :: before, after)
  | [] => ([], none)

def readV6? (text : List Char) : Option Ip :=
  match cutAtGap text with
  | (whole, none) => do
    let groups ← groups? whole
    if groups.length = 8 then some (.v6 groups) else none
  | (head, some tail) => do
    let front ← if head.isEmpty then some [] else (Text.split ':' head).mapM group?
    let back ← groups? tail
    if front.length + back.length ≤ 7 then
      some (.v6 (front ++ List.replicate (8 - front.length - back.length) 0 ++ back))
    else none

def read? (text : List Char) : Option Ip :=
  readV4? text <|> readV6? text

/-- The octets of an address of four numbers that stands in the place of one of eight. -/
def mappedOctets? : List Nat → Option (List Nat)
  | [0, 0, 0, 0, 0, 0xFFFF, a, b] => some [a / 256, a % 256, b / 256, b % 256]
  | _ => none

/-- Octets with which any machine may listen: those of itself, and those of many machines at
once. -/
def areListened (octets : List Nat) : Bool :=
  octets == [0, 0, 0, 0] || octets == [255, 255, 255, 255] ||
    octets.head?.any fun first => first == 127 || (224 ≤ first && first < 240)

end Ip

end Passbook.Internet
