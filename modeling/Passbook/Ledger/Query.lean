/-
**Statements on the tables.**

A `Query` is one statement with its parameters, and `Query.Answer` the type of what it answers. The
accounts that a statement answers are rows as they are stored: their currency is a text.
-/

import Passbook.Ledger.Error
import Passbook.Order
import Passbook.Record

namespace Passbook.Ledger

open Time (Instant)

/-- An account as it is stored. -/
structure AccountRow where
  id : Int
  owner : String
  balance : Int
  currency : String
  createdAt : Instant
  deriving DecidableEq

inductive Query where
  | insertUser (user : NewUser)
  | findUser (username : String)
  | updateUser (change : ProfileChange)
  | insertAccount (owner : String) (balance : Int) (currency : String)
  | findAccount (id : Int)
  | listAccounts (rows : AccountRows)
  | addBalance (change : BalanceChange)
  | insertTransfer (movement : Movement)
  | findTransfer (id : Int)
  | listTransfers (rows : TransferRows)
  | insertEntry (posting : Posting)
  | findEntry (id : Int)
  | listEntries (rows : EntryRows)
  | sumEntries (account : Int)
  deriving DecidableEq

/-- What a statement does to its table. -/
inductive Verb where
  | insert
  | select
  | update
  | begin
  | commit
  | rollback
  deriving DecidableEq, Repr

namespace Query

def Answer : Query → Type
  | insertUser _ => User
  | findUser _ => Option User
  | updateUser _ => Option User
  | insertAccount _ _ _ => AccountRow
  | findAccount _ => Option AccountRow
  | listAccounts _ => List AccountRow
  | addBalance _ => Option AccountRow
  | insertTransfer _ => Transfer
  | findTransfer _ => Option Transfer
  | listTransfers _ => List Transfer
  | insertEntry _ => Entry
  | findEntry _ => Option Entry
  | listEntries _ => List Entry
  | sumEntries _ => Int

def table : Query → Table
  | insertUser _ | findUser _ | updateUser _ => .users
  | insertAccount _ _ _ | findAccount _ | listAccounts _ | addBalance _ => .accounts
  | insertTransfer _ | findTransfer _ | listTransfers _ => .transfers
  | insertEntry _ | findEntry _ | listEntries _ | sumEntries _ => .entries

def verb : Query → Verb
  | insertUser _ | insertAccount _ _ _ | insertTransfer _ | insertEntry _ => .insert
  | updateUser _ | addBalance _ => .update
  | findUser _ | findAccount _ | listAccounts _ | findTransfer _ | listTransfers _ | findEntry _
  | listEntries _ | sumEntries _ => .select

/-- A statement that leaves every row as it is. -/
def isRead (query : Query) : Bool :=
  query.verb == .select

/-- The texts among the parameters. -/
def texts : Query → List String
  | insertUser user => [user.username, user.fullName, user.email]
  | findUser username => [username]
  | updateUser change =>
    change.username :: change.patch.fullName.toList ++ change.patch.email.toList
  | insertAccount owner _ currency => [owner, currency]
  | listAccounts rows => [rows.owner]
  | _ => []

/-- Some text holds the character U+0000, which the database stores nowhere. -/
def hasNul (query : Query) : Bool :=
  query.texts.any fun text => text.toList.contains '\x00'

end Query

/-- What the database was seen to execute. -/
inductive Event where
  | begin
  | commit
  | rollback
  | query (query : Query)
  deriving DecidableEq

def Event.verb : Event → Verb
  | begin => .begin
  | commit => .commit
  | rollback => .rollback
  | query q => q.verb

def Event.table? : Event → Option Table
  | query q => some q.table
  | _ => none

end Passbook.Ledger
