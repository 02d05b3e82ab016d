/-
**The ledger.**

A `Ledger` is the whole state of the database: its tables, once they are laid out, the numbers it
has handed out, its clock, the faults that wait for statements, and a journal of what it executed.
A number handed out is never taken back, whatever becomes of its row.

`Ledger.attempt` executes one statement. A statement with U+0000 in a text or on a table that is not
there is refused before it is executed; one that meets a fault takes no number and has no effect.
`Ledger.query` is a statement on its own, outside of any transaction.
-/

import Passbook.Ledger.Fault
import Passbook.Ledger.Tables

namespace Passbook

open Time (Instant)

namespace Ledger

/-- The last number handed out for each table whose rows are numbered. -/
structure Serials where
  accounts : Int := 0
  transfers : Int := 0
  entries : Int := 0
  deriving DecidableEq, Repr

/-- The number for the row that a statement inserts, and the numbers handed out after it. -/
def Serials.take (serials : Serials) : Query → Int × Serials
  | .insertAccount .. =>
    (serials.accounts + 1, { serials with accounts := serials.accounts + 1 })
  | .insertTransfer _ =>
    (serials.transfers + 1, { serials with transfers := serials.transfers + 1 })
  | .insertEntry _ =>
    (serials.entries + 1, { serials with entries := serials.entries + 1 })
  | _ => (0, serials)

/-- Whether connections to the database are given out. -/
inductive Access where
  | granted
  /-- None is given out any more. -/
  | closed
  /-- None can be made. -/
  | unreachable
  deriving DecidableEq, Repr

/-- Takes a connection. -/
def Access.check : Access → Except DatabaseError Unit
  | granted => .ok ()
  | closed => .error .poolClosed
  | unreachable => .error .poolTimedOut

end Ledger

structure Ledger where
  /-- Nothing until the tables are laid out. -/
  tables : Option Ledger.Tables := none
  serials : Ledger.Serials := {}
  clock : Instant := .newYear2024
  faults : List Ledger.Fault := []
  /-- What was executed, the latest first. -/
  journal : List Ledger.Event := []
  access : Ledger.Access := .granted

namespace Ledger

/-- A database without tables. -/
def blank : Ledger := {}

/-- A database whose tables are laid out and hold no rows. -/
def fresh : Ledger := { tables := some .empty }

/-- Notes an event in the journal, and the failure that it meets. -/
def note (event : Event) (ledger : Ledger) : Option Failure × Ledger :=
  let (failure, faults) := Fault.meet event ledger.faults
  (failure, { ledger with faults, journal := event :: ledger.journal })

/-- Carries out a statement on the tables; an inserted row takes its number in any case. -/
def carryOut (query : Query) (tables : Tables) (ledger : Ledger) :
    Except Failure query.Answer × Ledger :=
  let (id, serials) := ledger.serials.take query
  match tables.apply id ledger.clock query with
  | .error refusal => (.error (.refused refusal), { ledger with serials })
  | .ok (answer, tables) => (.ok answer, { ledger with serials, tables := some tables })

/-- Executes one statement. -/
def attempt (query : Query) (ledger : Ledger) : Except Failure query.Answer × Ledger :=
  if query.hasNul then (.error (.refused .nulInText), ledger)
  else
    match ledger.tables with
    | none => (.error (.refused (.missingTable query.table)), ledger)
    | some tables =>
      match ledger.note (.query query) with
      | (some failure, ledger) => (.error failure, ledger)
      | (none, ledger) => ledger.carryOut query tables

/-- Executes a statement on its own. -/
def query (query : Query) (ledger : Ledger) : Except DatabaseError query.Answer × Ledger :=
  match ledger.access.check with
  | .error error => (.error error, ledger)
  | .ok _ =>
    let (outcome, ledger) := ledger.attempt query
    (outcome.mapError Failure.error, ledger)

end Ledger

end Passbook
