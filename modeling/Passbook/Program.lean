/-
**How programs end.**

A program that fails says so with a `ProgramError`, a message with the messages of the failures
below it. `ProgramError.lines` is what it writes: the message, and under a heading of their own the
failures below, numbered if there are several. An `Ending` is all that a caller sees of a program.
-/

import Passbook.Connection
import Passbook.Ledger.Schema
import Passbook.Store.Error
import Passbook.Text.Split

namespace Passbook

structure ProgramError where
  message : String
  sources : List String := []
  deriving DecidableEq, Repr

namespace ProgramError

def ofDatabase (error : DatabaseError) : ProgramError :=
  ⟨error.message, error.sources⟩

def ofStore (error : StoreError) : ProgramError :=
  ⟨error.message, error.sources⟩

def ofMigration (error : MigrationError) : ProgramError :=
  ⟨error.message, error.sources⟩

/-- A line without the carriage return that may stand at its end. -/
def withoutReturn (line : List Char) : List Char :=
  if line.getLast? = some '\r' then line.dropLast else line

/-- The lines of a text. -/
def linesOf (text : String) : List String :=
  (Text.split '\n' text.toList).map fun line => String.ofList (withoutReturn line)

/-- A text with `lead` before its first line and `margin` before the others. -/
def indented (lead margin text : String) : List String :=
  match linesOf text with
  | [] => []
  | first :: rest => (lead ++ first) :: rest.map (margin ++ ·)

/-- What stands before the source of a number: the number in five columns. -/
def numberLead (n : Nat) : String :=
  let digits := toString n
  String.ofList (List.replicate (5 - digits.length) ' ') ++ digits ++ ": "

/-- The lines of the sources. -/
def sourceLines : List String → List String
  | [] => []
  | [source] => "" :: "Caused by:" :: indented "    " "    " source
  | sources =>
    "" :: "Caused by:" :: sources.zipIdx.flatMap fun (source, n) =>
      indented (numberLead n) "       " source

def lines (error : ProgramError) : List String :=
  linesOf s!"Error: {error.message}" ++ sourceLines error.sources

end ProgramError

structure Ending where
  code : Nat
  /-- The lines written in the course of the work. -/
  output : List String
  /-- The lines written of what went wrong. -/
  errors : List String
  deriving DecidableEq, Repr

/-- Ends with the lines written so far and a result. -/
def Ending.ofResult (output errors : List String) : Except ProgramError Unit → Ending
  | .ok _ => ⟨0, output, errors⟩
  | .error error => ⟨1, output, errors ++ error.lines⟩

/-! ### Reaching the database -/

/-- Opens a pool of connections to the database at an address. A pool without a single connection
waits for one in vain. -/
def openPool (address : String) (connections : Nat) (ledger : Ledger) : Except ProgramError Unit :=
  match Connection.check address with
  | .error error => .error ⟨error.message, error.reasons⟩
  | .ok _ =>
    if connections = 0 then .error (.ofDatabase .poolTimedOut) else ledger.ping.mapError .ofDatabase

end Passbook
