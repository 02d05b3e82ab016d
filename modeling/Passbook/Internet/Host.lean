/-
**Hosts of URLs.**

A `Host` is a name or an address. `ofText` takes a name as it is written, so long as none of its
characters has a meaning of its own. `ofDomain` reads a domain, whose bytes may be percent-encoded;
a domain whose last part is a number must be an address of four numbers, of which the last ones may
be written as one.
-/

import Passbook.Internet.Domain
import Passbook.Internet.Ip

namespace Passbook.Internet

/-- Why a text is no host. -/
inductive HostError where
  | empty
  | v4
  | v6
  /-- A character that has a meaning of its own. -/
  | character
  | domain
  deriving DecidableEq, Repr

def HostError.message : HostError → String
  | empty => "empty host"
  | v4 => "invalid IPv4 address"
  | v6 => "invalid IPv6 address"
  | character => "invalid domain character"
  | domain => "invalid international domain name"

inductive Host where
  | name (text : List Char)
  | ip (ip : Ip)
  deriving DecidableEq, Repr

namespace Host

/-- A character that no host may have. -/
def isReserved (c : Char) : Bool :=
  " #/:<>?@[\\]^|".toList.contains c || c == '\x00' || c == '\t' || c == '\n' || c == '\r'

/-- A host between brackets, the first of which is taken off already. -/
def bracketed (text : List Char) : Except HostError Host :=
  if text.getLast? = some ']' then
    match Ip.readV6? text.dropLast with
    | some address => .ok (.ip address)
    | none => .error .v6
  else .error .v6

/-- Reads a host whose name stands for itself. -/
def ofText : List Char → Except HostError Host
  | '[' :: rest => bracketed rest
  | text => if text.any isReserved then .error .character else .ok (.name text)

/-! ### Addresses of four numbers -/

/-- The number that digits write in a base up to 16; no digits are zero. -/
def ofDigits? (base : Nat) (digits : List Char) : Option Nat := do
  let digits ← digits.mapM Text.hexDigit?
  if digits.all (· < base) then some (digits.foldl (fun n digit => n * base + digit) 0) else none

/-- A number, in base 16 behind `0x` and in base 8 behind any other zero. -/
def number? : List Char → Option Nat
  | [] => none
  | '0' :: 'x' :: digits => ofDigits? 16 digits
  | '0' :: c :: digits => ofDigits? 8 (c :: digits)
  | digits => ofDigits? 10 digits

/-- The parts of a name; a point at its end begins no part. -/
def parts (name : List Char) : List (List Char) :=
  let parts := Text.split '.' name
  if 1 < parts.length ∧ parts.getLast? = some [] then parts.dropLast else parts

def endsInNumber (name : List Char) : Bool :=
  let last := ((parts name).getLast?).getD []
  (!last.isEmpty && last.all Char.isDigit) || (number? last).isSome

/-- The octets of an address, of which the last number stands for all that are not written. -/
def octets? : Nat → List Nat → Option (List Nat)
  | 0, _ => none
  | _, [] => none
  | octets + 1, [last] =>
    if last < 256 ^ (octets + 1) then
      some ((List.range (octets + 1)).reverse.map fun place => last / 256 ^ place % 256)
    else none
  | octets + 1, n :: rest =>
    if n < 256 then (octets? octets rest).map (n :: ·) else none

def v4? (name : List Char) : Option Ip := do
  return .v4 (← octets? 4 (← (parts name).mapM number?))

/-! ### Domains -/

/-- A character that no domain may have. -/
def isReservedInDomain (c : Char) : Bool :=
  isReserved c || c == '%' || c < ' ' || c == '\x7f'

/-- The name of a domain, whose escapes are decoded first. -/
def domain? (text : List Char) : Option (List Char) := do
  let decoded ← Text.Utf8.decode? (Text.Percent.decode (Text.Utf8.encode text))
  Domain.read? isReservedInDomain decoded

/-- Reads the host of a domain. -/
def ofDomain : List Char → Except HostError Host
  | [] => .error .empty
  | '[' :: rest => bracketed rest
  | text =>
    match domain? text with
    | none => .error .domain
    | some [] => .error .empty
    | some domain =>
      if endsInNumber domain then
        match v4? domain with
        | some address => .ok (.ip address)
        | none => .error .v4
      else .ok (.name domain)

end Host

end Passbook.Internet
