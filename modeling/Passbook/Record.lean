/-
**Stored records.**

Users own accounts; a transfer moves an amount from one account to another and leaves an entry on
each of them, a debit on the source and a credit on the target. A `Settlement` is a transfer with
its two entries and the two accounts as they stand after it.
-/

import Passbook.Currency
import Passbook.Time.Instant

namespace Passbook

open Time (Instant)

structure User where
  username : String
  fullName : String
  email : String
  createdAt : Instant
  deriving DecidableEq

structure Account where
  id : Int
  owner : String
  balance : Int
  currency : Currency
  createdAt : Instant
  deriving DecidableEq

structure Transfer where
  id : Int
  source : Int
  target : Int
  amount : Int
  createdAt : Instant
  deriving DecidableEq

/-- One side of a transfer: what it adds to an account. -/
structure Entry where
  id : Int
  transfer : Int
  account : Int
  amount : Int
  createdAt : Instant
  deriving DecidableEq

def Entry.isDebit (entry : Entry) : Bool :=
  entry.amount < 0

structure Settlement where
  transfer : Transfer
  debit : Entry
  credit : Entry
  source : Account
  target : Account
  deriving DecidableEq

/-- The two entries cancel, belong to the transfer and stand on its two accounts. -/
def Settlement.isBalanced (settlement : Settlement) : Bool :=
  settlement.debit.amount + settlement.credit.amount == 0 &&
    settlement.debit.transfer == settlement.transfer.id &&
    settlement.credit.transfer == settlement.transfer.id &&
    settlement.debit.account == settlement.transfer.source &&
    settlement.credit.account == settlement.transfer.target

end Passbook
