/-
**Laying out the tables.**

`Ledger.migrate` lays out the tables in a transaction of its own, unless they are there already.
`Ledger.hasSchema` asks whether they are there.
-/

import Passbook.Ledger.Basic

namespace Passbook

/-- The tables could not be laid out. -/
structure MigrationError where
  cause : DatabaseError
  deriving DecidableEq, Repr

namespace MigrationError

def message (problem : MigrationError) : String :=
  s!"while executing migrations: {problem.cause.message}"

def sources (problem : MigrationError) : List String :=
  problem.cause.message :: problem.cause.sources

end MigrationError

namespace Ledger

/-- Asks the database for a sign of life. -/
def ping (ledger : Ledger) : Except DatabaseError Unit :=
  ledger.access.check

def hasSchema (ledger : Ledger) : Except DatabaseError Bool :=
  ledger.access.check.map fun _ => ledger.tables.isSome

def migrate (ledger : Ledger) : Except MigrationError Unit × Ledger :=
  match ledger.access.check with
  | .error error => (.error ⟨error⟩, ledger)
  | .ok _ =>
    if ledger.tables.isSome then (.ok (), ledger)
    else
      match ledger.note .begin with
      | (some failure, ledger) => (.error ⟨failure.error⟩, ledger)
      | (none, ledger) =>
        match ledger.note .commit with
        | (some failure, ledger) => (.error ⟨failure.error⟩, ledger)
        | (none, ledger) => (.ok (), { ledger with tables := some .empty })

end Ledger

end Passbook
