/-
**Why a statement fails.**

A `Refusal` is the database's reason for not carrying out a statement, with its SQLSTATE code and
its message. A `DatabaseError` is what the program on the other end of the connection sees of a
failure, be it a refusal, a lost connection or an unreadable row.
-/

namespace Passbook

namespace Ledger

inductive Table where
  | users
  | accounts
  | transfers
  | entries
  deriving DecidableEq, Repr

def Table.name : Table → String
  | users => "users"
  | accounts => "accounts"
  | transfers => "transfers"
  | entries => "entries"

inductive Refusal where
  /-- A row's amount is not of the sign that its table asks for. -/
  | amountCheck (table : Table)
  /-- The values of a unique key are taken. -/
  | duplicate (key : String)
  /-- A column names a row that is not there. -/
  | missingReference (table : Table) (key : String)
  | outOfRange
  | negativeOffset
  | negativeLimit
  | nulInText
  | missingTable (table : Table)
  /-- An earlier statement of the transaction was refused. -/
  | aborted
  /-- Any other reason. -/
  | other (code message : String)
  deriving DecidableEq, Repr

namespace Refusal

def code : Refusal → String
  | amountCheck _ => "23514"
  | duplicate _ => "23505"
  | missingReference _ _ => "23503"
  | outOfRange => "22003"
  | negativeOffset => "2201X"
  | negativeLimit => "2201W"
  | nulInText => "22021"
  | missingTable _ => "42P01"
  | aborted => "25P02"
  | other code _ => code

def message : Refusal → String
  | amountCheck table =>
    let name := table.name
    s!"new row for relation \"{name}\" violates check constraint \"{name}_amount_check\""
  | duplicate key => s!"duplicate key value violates unique constraint \"{key}\""
  | missingReference table key =>
    s!"insert or update on table \"{table.name}\" violates foreign key constraint \"{key}\""
  | outOfRange => "bigint out of range"
  | negativeOffset => "OFFSET must not be negative"
  | negativeLimit => "LIMIT must not be negative"
  | nulInText => "invalid byte sequence for encoding \"UTF8\": 0x00"
  | missingTable table => s!"relation \"{table.name}\" does not exist"
  | aborted =>
    "current transaction is aborted, commands ignored until end of transaction block"
  | other _ message => message

end Refusal

end Ledger

inductive DatabaseError where
  | rejected (code : Option String) (message : String)
  | connectionLost
  | poolClosed
  | poolTimedOut
  | noRow
  | workerCrashed
  | protocol (reason : String)
  | missingColumn (name : String)
  /-- Any other failure on this end of the connection, with those below it. -/
  | other (message : String) (sources : List String)
  deriving DecidableEq, Repr

namespace DatabaseError

def ofRefusal (refusal : Ledger.Refusal) : DatabaseError :=
  rejected (some refusal.code) refusal.message

/-- What the other end of a lost connection left behind. -/
def lostReason : String :=
  "expected to read 5 bytes, got 0 bytes at EOF"

def message : DatabaseError → String
  | rejected _ message => s!"error returned from database: {message}"
  | connectionLost => s!"error communicating with database: {lostReason}"
  | poolClosed => "attempted to acquire a connection on a closed pool"
  | poolTimedOut => "pool timed out while waiting for an open connection"
  | noRow => "no rows returned by a query that expected to return at least one row"
  | workerCrashed => "attempted to communicate with a crashed background worker"
  | protocol reason => s!"encountered unexpected or invalid data: {reason}"
  | missingColumn name => s!"no column found for name: {name}"
  | other message _ => message

/-- The messages of the failures below this one. -/
def sources : DatabaseError → List String
  | rejected _ message => [message]
  | connectionLost => [lostReason]
  | other _ sources => sources
  | _ => []

/-- The SQLSTATE code of a refusal. -/
def code? : DatabaseError → Option String
  | rejected code _ => code
  | _ => none

end DatabaseError

end Passbook
