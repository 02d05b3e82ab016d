/-
**Tables of rows.**

`Tables` holds the rows of users, accounts, transfers and entries, each in the order in which they
were stored. `Tables.apply` is the effect of a statement: its answer and the tables after it, or the
reason why it is refused, which leaves the tables as they were. A new row is checked for the sign of
its amount first, then for unique keys, then for the rows that it names, in the order of columns.
-/

import Passbook.Ledger.Query
import Passbook.Text.Numeral

namespace Passbook.Ledger

open Time (Instant)

structure Tables where
  users : List User
  accounts : List AccountRow
  transfers : List Transfer
  entries : List Entry
  deriving DecidableEq

namespace Tables

/-- Tables without rows. -/
def empty : Tables := ⟨[], [], [], []⟩

/-! ### Rows by key -/

def user? (tables : Tables) (username : String) : Option User :=
  tables.users.find? fun user => user.username == username

def account? (tables : Tables) (id : Int) : Option AccountRow :=
  tables.accounts.find? fun account => account.id == id

def transfer? (tables : Tables) (id : Int) : Option Transfer :=
  tables.transfers.find? fun transfer => transfer.id == id

def entry? (tables : Tables) (id : Int) : Option Entry :=
  tables.entries.find? fun entry => entry.id == id

def accountsOf (tables : Tables) (owner : String) : List AccountRow :=
  tables.accounts.filter fun account => account.owner == owner

/-- The transfers that come from one account or go to the other. -/
def transfersBetween (tables : Tables) (source target : Int) : List Transfer :=
  tables.transfers.filter fun transfer => transfer.source == source || transfer.target == target

def entriesOf (tables : Tables) (account : Int) : List Entry :=
  tables.entries.filter fun entry => entry.account == account

/-- What amounts add up to. -/
def sum : List Int → Int
  | [] => 0
  | amount :: rest => amount + sum rest

/-- What the entries of an account add up to. -/
def entrySum (tables : Tables) (account : Int) : Int :=
  sum ((tables.entriesOf account).map (·.amount))

/-- The sum of all balances. -/
def total (tables : Tables) : Int :=
  sum (tables.accounts.map (·.balance))

/-! ### Effects -/

/-- The rows of a window. The offset is looked at before the limit. -/
def cut (window : Window) (rows : List α) : Except Refusal (List α) :=
  if window.offset < 0 then .error .negativeOffset
  else if window.limit < 0 then .error .negativeLimit
  else .ok ((rows.drop window.offset.toNat).take window.limit.toNat)

def insertUser (new : NewUser) (now : Instant) (tables : Tables) : Except Refusal (User × Tables) :=
  if tables.users.any fun user => user.username == new.username then
    .error (.duplicate "users_pkey")
  else if tables.users.any fun user => user.email == new.email then
    .error (.duplicate "users_email_key")
  else
    let user : User := ⟨new.username, new.fullName, new.email, now⟩
    .ok (user, { tables with users := tables.users ++ [user] })

/-- The profile of a user after a patch. -/
def patched (user : User) (patch : ProfilePatch) : User :=
  { user with
    fullName := patch.fullName.getD user.fullName
    email := patch.email.getD user.email }

def updateUser (change : ProfileChange) (tables : Tables) :
    Except Refusal (Option User × Tables) :=
  match tables.user? change.username with
  | none => .ok (none, tables)
  | some user =>
    let updated := patched user change.patch
    if tables.users.any fun other =>
        other.username != change.username && other.email == updated.email then
      .error (.duplicate "users_email_key")
    else
      let users := tables.users.map fun row =>
        if row.username = change.username then updated else row
      .ok (some updated, { tables with users })

def insertAccount (id : Int) (owner : String) (balance : Int) (currency : String) (now : Instant)
    (tables : Tables) : Except Refusal (AccountRow × Tables) :=
  if tables.accounts.any fun account => account.owner == owner && account.currency == currency then
    .error (.duplicate "accounts_owner_currency_key")
  else if (tables.user? owner).isNone then
    .error (.missingReference .accounts "accounts_owner_fkey")
  else
    let account : AccountRow := ⟨id, owner, balance, currency, now⟩
    .ok (account, { tables with accounts := tables.accounts ++ [account] })

/-- Adds to a balance; nothing happens to an account that is not there. -/
def addBalance (change : BalanceChange) (tables : Tables) :
    Except Refusal (Option AccountRow × Tables) :=
  match tables.account? change.account with
  | none => .ok (none, tables)
  | some account =>
    let updated := { account with balance := account.balance + change.amount }
    if Text.IntegerRange.int64.contains updated.balance then
      let accounts := tables.accounts.map fun row =>
        if row.id = change.account then updated else row
      .ok (some updated, { tables with accounts })
    else .error .outOfRange

def insertTransfer (id : Int) (movement : Movement) (now : Instant) (tables : Tables) :
    Except Refusal (Transfer × Tables) :=
  if movement.amount ≤ 0 then .error (.amountCheck .transfers)
  else if (tables.account? movement.source).isNone then
    .error (.missingReference .transfers "transfers_from_account_id_fkey")
  else if (tables.account? movement.target).isNone then
    .error (.missingReference .transfers "transfers_to_account_id_fkey")
  else
    let transfer : Transfer := ⟨id, movement.source, movement.target, movement.amount, now⟩
    .ok (transfer, { tables with transfers := tables.transfers ++ [transfer] })

def insertEntry (id : Int) (posting : Posting) (now : Instant) (tables : Tables) :
    Except Refusal (Entry × Tables) :=
  if posting.amount = 0 then .error (.amountCheck .entries)
  else if (tables.transfer? posting.transfer).isNone then
    .error (.missingReference .entries "entries_transfer_id_fkey")
  else if (tables.account? posting.account).isNone then
    .error (.missingReference .entries "entries_account_id_fkey")
  else
    let entry : Entry := ⟨id, posting.transfer, posting.account, posting.amount, now⟩
    .ok (entry, { tables with entries := tables.entries ++ [entry] })

/-- An answer that leaves the tables as they are. -/
def reading (tables : Tables) (answer : Except Refusal α) : Except Refusal (α × Tables) :=
  answer.map fun value => (value, tables)

/-- The effect of a statement; `id` is the number of the row that it inserts. -/
def apply (id : Int) (now : Instant) (tables : Tables) :
    (query : Query) → Except Refusal (query.Answer × Tables)
  | .insertUser new => tables.insertUser new now
  | .findUser username => .ok (tables.user? username, tables)
  | .updateUser change => tables.updateUser change
  | .insertAccount owner balance currency => tables.insertAccount id owner balance currency now
  | .findAccount account => .ok (tables.account? account, tables)
  | .listAccounts rows => tables.reading (cut rows.window (tables.accountsOf rows.owner))
  | .addBalance change => tables.addBalance change
  | .insertTransfer movement => tables.insertTransfer id movement now
  | .findTransfer transfer => .ok (tables.transfer? transfer, tables)
  | .listTransfers rows =>
    tables.reading (cut rows.window (tables.transfersBetween rows.source rows.target))
  | .insertEntry posting => tables.insertEntry id posting now
  | .findEntry entry => .ok (tables.entry? entry, tables)
  | .listEntries rows => tables.reading (cut rows.window (tables.entriesOf rows.account))
  | .sumEntries account =>
    let sum := tables.entrySum account
    if Text.IntegerRange.int64.contains sum then .ok (sum, tables) else .error .outOfRange

end Tables

end Passbook.Ledger
