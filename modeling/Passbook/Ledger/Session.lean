/-
**Transactions.**

A `Session` is a connection inside a transaction: the ledger as the transaction sees it, the tables
to go back to, and how the transaction stands. Once a statement has been refused the transaction is
aborted and executes no further one; once the connection is lost the transaction is gone with it.

`Session.commit` keeps the tables of an open transaction. It undoes an aborted one and reports
success all the same; a commit or rollback that fails undoes everything.
-/

import Passbook.Ledger.Basic

namespace Passbook.Ledger

/-- How a transaction stands. -/
inductive Standing where
  | running
  | aborted
  | lost
  deriving DecidableEq, Repr

structure Session where
  ledger : Ledger
  /-- The tables as they were when the transaction began. -/
  saved : Option Tables
  standing : Standing

/-- Begins a transaction. -/
def begin (ledger : Ledger) : Except DatabaseError Session × Ledger :=
  match ledger.access.check with
  | .error error => (.error error, ledger)
  | .ok _ =>
    match ledger.note .begin with
    | (some failure, ledger) => (.error failure.error, ledger)
    | (none, ledger) => (.ok ⟨ledger, ledger.tables, .running⟩, ledger)

namespace Session

/-- The ledger with the tables as they were when the transaction began. -/
def undone (session : Session) : Ledger :=
  { session.ledger with tables := session.saved }

/-- How the transaction stands after a failure. -/
def afterFailure (session : Session) : Failure → Session
  | .refused _ => { session with standing := .aborted }
  | .disconnected => { session with ledger := session.undone, standing := .lost }

/-- Executes a statement in the transaction. -/
def query (query : Query) (session : Session) : Except DatabaseError query.Answer × Session :=
  match session.standing with
  | .lost => (.error .connectionLost, session)
  | .aborted =>
    (.error (.ofRefusal (if query.hasNul then .nulInText else .aborted)), session)
  | .running =>
    match session.ledger.attempt query with
    | (.ok answer, ledger) => (.ok answer, { session with ledger })
    | (.error failure, ledger) =>
      (.error failure.error, { session with ledger }.afterFailure failure)

/-- Ends the transaction so that its effects stay. -/
def commit (session : Session) : Except DatabaseError Unit × Ledger :=
  match session.standing with
  | .lost => (.error .connectionLost, session.undone)
  | standing =>
    match session.ledger.note .commit with
    | (some failure, ledger) => (.error failure.error, { session with ledger }.undone)
    | (none, ledger) =>
      (.ok (), if standing = .aborted then { session with ledger }.undone else ledger)

/-- Ends the transaction without effect. -/
def rollback (session : Session) : Except DatabaseError Unit × Ledger :=
  match session.standing with
  | .lost => (.error .connectionLost, session.undone)
  | _ =>
    match session.ledger.note .rollback with
    | (some failure, ledger) => (.error failure.error, { session with ledger }.undone)
    | (none, ledger) => (.ok (), { session with ledger }.undone)

end Session

end Passbook.Ledger
