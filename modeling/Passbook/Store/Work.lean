/-
**Work on the store.**

A `Work` is a script of statements that ends with a value or a failure of the store. A statement
that fails ends the work unless the work catches the failure. The operations here are one statement
each; an account is loaded from its row, which fails when its currency is not one of ours.

`Ledger.transact` does a work in a transaction: it commits when the work succeeds and rolls back
when it fails.
-/

import Passbook.Ledger.Session
import Passbook.Script
import Passbook.Store.Error

namespace Passbook

open Ledger (Query AccountRow Session)

abbrev Ledger.Query.Reply (query : Query) : Type :=
  Except DatabaseError query.Answer

abbrev Work (α : Type) : Type :=
  ExceptT StoreError (Script Query Query.Reply) α

/-- The account that a row holds. -/
def Ledger.AccountRow.load (row : AccountRow) : Except DatabaseError Account :=
  match Currency.ofCode? row.currency with
  | some currency => .ok ⟨row.id, row.owner, row.balance, currency, row.createdAt⟩
  | none => .error (.missingColumn "FromRow: try_from failed")

/-- The row that holds an account. -/
def Account.toRow (account : Account) : AccountRow :=
  ⟨account.id, account.owner, account.balance, account.currency.code, account.createdAt⟩

namespace Work

/-- Executes one statement. -/
def ask (query : Query) : Work query.Answer :=
  ExceptT.mk (.ask query fun reply => .done (reply.mapError .database))

/-- Loads accounts from their rows. -/
def load (outcome : Except DatabaseError α) : Work α :=
  ExceptT.mk (.done (outcome.mapError .database))

/-- Does the work and gives its outcome, whether it failed or not. -/
def outcome (work : Work α) : Work (Except StoreError α) :=
  ExceptT.mk (work.run.bind fun result => .done (.ok result))

/-! ### Statements -/

def createUser (user : NewUser) : Work User :=
  ask (.insertUser user)

def findUser (username : String) : Work (Option User) :=
  ask (.findUser username)

def updateUser (change : ProfileChange) : Work (Option User) :=
  ask (.updateUser change)

def createAccount (opening : AccountOpening) : Work Account := do
  load (← ask (.insertAccount opening.owner opening.balance opening.currency.code)).load

def findAccount (id : Int) : Work (Option Account) := do
  match ← ask (.findAccount id) with
  | some row => some <$> load row.load
  | none => return none

def listAccounts (rows : AccountRows) : Work (List Account) := do
  load ((← ask (.listAccounts rows)).mapM AccountRow.load)

/-- Adds to the balance of an account that must be there. -/
def addBalance (change : BalanceChange) : Work Account := do
  match ← ask (.addBalance change) with
  | some row => load row.load
  | none => throw (.accountNotFound change.account)

def createTransfer (movement : Movement) : Work Transfer :=
  ask (.insertTransfer movement)

def findTransfer (id : Int) : Work (Option Transfer) :=
  ask (.findTransfer id)

def listTransfers (rows : TransferRows) : Work (List Transfer) :=
  ask (.listTransfers rows)

def createEntry (posting : Posting) : Work Entry :=
  ask (.insertEntry posting)

def findEntry (id : Int) : Work (Option Entry) :=
  ask (.findEntry id)

def listEntries (rows : EntryRows) : Work (List Entry) :=
  ask (.listEntries rows)

def sumEntries (account : Int) : Work Int :=
  ask (.sumEntries account)

end Work

namespace Ledger

/-- Does a work, each statement on its own. -/
def perform (work : Work α) (ledger : Ledger) : Except StoreError α × Ledger :=
  Script.run Ledger.query work.run ledger

/-- Ends a transaction after its work. -/
def Session.conclude (session : Session) : Except StoreError α → Except StoreError α × Ledger
  | .ok value =>
    match session.commit with
    | (.ok _, ledger) => (.ok value, ledger)
    | (.error error, ledger) => (.error (.database error), ledger)
  | .error cause =>
    match session.rollback with
    | (.ok _, ledger) => (.error cause, ledger)
    | (.error failure, ledger) => (.error (.rollback cause failure), ledger)

/-- Does a work in a transaction. -/
def transact (work : Work α) (ledger : Ledger) : Except StoreError α × Ledger :=
  match ledger.begin with
  | (.error error, ledger) => (.error (.database error), ledger)
  | (.ok session, _) =>
    let (result, session) := Script.run Session.query work.run session
    session.conclude result

end Ledger

end Passbook
