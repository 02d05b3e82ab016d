/-
**Routes.**

A `Resource` is what a path names, with the parts of the path that vary as they are written there;
no such part is empty at the end of a path. An `Action` is what a method does with a resource.
`Resource.ofPath?` fails where there is nothing, and `Resource.action?` where the resource does not
know the method.
-/

import Passbook.Text.Split

namespace Passbook.Http

/-- A part of a path as it is written. -/
abbrev Segment := List Char

inductive Resource where
  | users
  | user (username : Segment)
  | accounts
  | account (id : Segment)
  | accountEntries (id : Segment)
  | transfers
  | transfer (id : Segment)
  | entry (id : Segment)
  deriving DecidableEq, Repr

inductive Action where
  | register
  | showUser (username : Segment)
  | changeProfile (username : Segment)
  | openAccount
  | listAccounts
  | showAccount (id : Segment)
  | listEntries (id : Segment)
  | pay
  | listTransfers
  | showTransfer (id : Segment)
  | showEntry (id : Segment)
  deriving DecidableEq, Repr

namespace Resource

/-- The resource of a collection's own path. -/
def collection? : String → Option Resource
  | "users" => some .users
  | "accounts" => some .accounts
  | "transfers" => some .transfers
  | _ => none

/-- The resource in a collection that goes by a key. -/
def member? : String → Segment → Option Resource
  | "users", key => some (.user key)
  | "accounts", key => some (.account key)
  | "transfers", key => some (.transfer key)
  | "entries", key => some (.entry key)
  | _, _ => none

def ofSegments? : List Segment → Option Resource
  | [name] => collection? (String.ofList name)
  | [name, key] => if key.isEmpty then none else member? (String.ofList name) key
  | [name, key, part] =>
    if name = "accounts".toList ∧ part = "entries".toList then some (.accountEntries key) else none
  | _ => none

def ofPath? (path : List Char) : Option Resource :=
  match Text.split '/' path with
  | [] :: segments => ofSegments? segments
  | _ => none

/-- What a method does; a method that only asks for the head of a response does what the one that
asks for all of it does. -/
def action? : Resource → String → Option Action
  | users, "POST" => some .register
  | user username, "GET" | user username, "HEAD" => some (.showUser username)
  | user username, "PATCH" => some (.changeProfile username)
  | accounts, "POST" => some .openAccount
  | accounts, "GET" | accounts, "HEAD" => some .listAccounts
  | account id, "GET" | account id, "HEAD" => some (.showAccount id)
  | accountEntries id, "GET" | accountEntries id, "HEAD" => some (.listEntries id)
  | transfers, "POST" => some .pay
  | transfers, "GET" | transfers, "HEAD" => some .listTransfers
  | transfer id, "GET" | transfer id, "HEAD" => some (.showTransfer id)
  | entry id, "GET" | entry id, "HEAD" => some (.showEntry id)
  | _, _ => none

end Resource

end Passbook.Http
