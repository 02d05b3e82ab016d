/-
**Socket addresses.**

An `Address` is a host and a port with a colon between them. `read?` takes the host in numbers only;
one of hexadecimal numbers stands between square brackets, where a scope may follow it behind a
percent sign. `Address.listen` says at which addresses a program may listen whatever networks the
machine is in.
-/

import Passbook.Internet.Ip

namespace Passbook.Server

open Internet (Ip)

structure Address where
  host : Ip
  /-- The number of the device on whose network the host is; zero when none is meant. -/
  scope : Nat := 0
  port : Nat
  deriving DecidableEq, Repr

/-- Why a program may not listen at an address. -/
inductive ListenError where
  | noDevice
  | invalid
  /-- The address is not this machine's own. -/
  | notOwn
  deriving DecidableEq, Repr

def ListenError.message : ListenError → String
  | noDevice => "No such device (os error 19)"
  | invalid => "Invalid argument (os error 22)"
  | notOwn => "Cannot assign requested address (os error 99)"

namespace Address

/-- A host between brackets, with its scope. -/
def bracketed? (text : List Char) : Option (Ip × Nat) :=
  match Text.cut '%' text with
  | (host, none) => (Ip.readV6? host).map (·, 0)
  | (host, some scope) => do
    let scope ← Ip.decimal? 4294967295 scope
    return (← Ip.readV6? host, scope)

def port? (text : List Char) : Option Nat :=
  Ip.decimal? 65535 text

/-- Reads a host and a port with a colon between them. -/
def read? : List Char → Option Address
  | '[' :: text =>
    match Text.cut ']' text with
    | (host, some (':' :: port)) => do
      let (host, scope) ← bracketed? host
      return { host, scope, port := ← port? port }
    | _ => none
  | text =>
    match Text.cut ':' text with
    | (host, some port) => do return { host := ← Ip.readV4? host, port := ← port? port }
    | _ => none

/-- The only device that every machine has leads back to it. -/
def ownDevice : Nat := 1

/-- Listens at an address of eight numbers. One that begins with `ff` is of many machines, and one
from `fe80` to `febf` is on the network of a device, which its scope must name. -/
def listenV6 (groups : List Nat) (scope : Nat) : Except ListenError Unit :=
  let first := groups.headD 0
  if 0xFF00 ≤ first then .error .invalid
  else if 0xFE80 ≤ first ∧ first < 0xFEC0 then
    .error (if scope = 0 then .invalid else if scope = ownDevice then .notOwn else .noDevice)
  else if groups = List.replicate 8 0 ∨ groups = List.replicate 7 0 ++ [1] then .ok ()
  else if (Ip.mappedOctets? groups).any Ip.areListened then .ok ()
  else .error .notOwn

def listen (address : Address) : Except ListenError Unit :=
  match address.host with
  | .v4 octets => if Ip.areListened octets then .ok () else .error .notOwn
  | .v6 groups => listenV6 groups address.scope

end Address

end Passbook.Server
