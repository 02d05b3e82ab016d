/-
**The plan of a load test.**

A load test moves the same amount many times between two new accounts, to and fro.
`Plan.ofArguments` reads how many transfers and connections are wanted; `settings` opens the
accounts, `movement` is the transfer of a number, and `fire` makes the transfers in any order.
-/

import Passbook.Store.Transfer

namespace Passbook.LoadTest

structure Plan where
  transfers : Nat
  connections : Nat
  deriving DecidableEq, Repr

namespace Plan

/-- What follows the first occurrence of a flag. -/
def valueAfter (flag : String) : List String → Option String
  | [] => none
  | argument :: rest => if argument = flag then rest.head? else valueAfter flag rest

/-- The number given for a flag; one that cannot be read counts as not given. -/
def number? (flag : String) (arguments : List String) : Option Nat := do
  let text ← valueAfter flag arguments
  let n ← (Text.Numeral.read .word64 text.toList).toOption
  return n.toNat

/-- The number of connections is cut to 32 bits. -/
def ofArguments (arguments : List String) : Plan where
  transfers := (number? "--transfers" arguments).getD 1000
  connections := (number? "--connections" arguments).getD 10 % Nat.pow 2 32

end Plan

/-- The balance with which each account is opened. -/
def openingBalance : Int := 1000000

/-- What each transfer moves. -/
def amount : Int := 10

/-- The numbers of the two accounts. -/
structure Pair where
  first : Int
  second : Int
  deriving DecidableEq, Repr

/-- Stores a new user of the given name with two accounts. -/
def settings (username : String) : Work Pair := do
  let _ ← Work.createUser ⟨username, "Load Test", s!"{username}@load.test"⟩
  let first ← Work.createAccount ⟨username, openingBalance, .usd⟩
  let second ← Work.createAccount ⟨username, openingBalance, .eur⟩
  return ⟨first.id, second.id⟩

/-- The transfers of even number go from the first account to the second, the others back. -/
def movement (pair : Pair) (n : Nat) : Movement :=
  if n % 2 = 0 then ⟨pair.first, pair.second, amount⟩ else ⟨pair.second, pair.first, amount⟩

/-- Makes the transfers of the given numbers one after another; gives each number's outcome. -/
def fire (pair : Pair) (order : List Nat) (ledger : Ledger) :
    List (Nat × Except StoreError Settlement) × Ledger :=
  let (outcomes, ledger) := ledger.transferAll (order.map (movement pair))
  (order.zip outcomes, ledger)

end Passbook.LoadTest
