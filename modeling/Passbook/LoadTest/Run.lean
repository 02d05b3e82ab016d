/-
**Running a load test.**

`LoadTest.run` connects, lays out the tables, makes the transfers of its plan and reports. The
transfers may be made in any order; their failures are reported in the order of their numbers.
`start` comes to the transfers, `fired` makes them and `conclude` reports, so that the time that
passes between can be taken.
-/

import Passbook.LoadTest.Report

namespace Passbook.LoadTest

/-- What a load test is given from outside. -/
structure Surroundings where
  /-- The address of the database, if it is known. -/
  database : Option String
  /-- The name of the new user. -/
  username : String
  /-- The order in which so many transfers are made. -/
  order : Nat → List Nat := List.range
  /-- How long the transfers take, in microseconds. -/
  elapsed : Nat := 0

def heading (plan : Plan) : List String :=
  [s!"Load Test - {plan.transfers} concurrent transfers", "Connecting to database..."]

def isSuccess : Except StoreError Settlement → Bool
  | .ok _ => true
  | .error _ => false

/-- The lines of a transfer that failed. -/
def failureLines : Except StoreError Settlement → List String
  | .ok _ => []
  | .error error => ProgramError.linesOf s!"Transfer failed: {error.message}"

/-- The outcomes in the order of their numbers. -/
def outcomes (numbered : List (Nat × Except StoreError Settlement)) :
    List (Except StoreError Settlement) :=
  (numbered.mergeSort fun a b => a.1 ≤ b.1).map (·.2)

/-- How many transfers succeeded and failed. -/
def counted (around : Surroundings) (plan : Plan)
    (numbered : List (Nat × Except StoreError Settlement)) : Tally :=
  ⟨plan.transfers, (outcomes numbered).countP isSuccess,
    (outcomes numbered).length - (outcomes numbered).countP isSuccess, around.elapsed⟩

/-- The lines of the transfers that failed. -/
def reported (numbered : List (Nat × Except StoreError Settlement)) : List String :=
  (outcomes numbered).flatMap failureLines

/-- Makes the transfers of a plan, in the order that is given for so many. -/
def fired (around : Surroundings) (plan : Plan) (pair : Pair) (ledger : Ledger) :
    List (Nat × Except StoreError Settlement) × Ledger :=
  fire pair (around.order plan.transfers) ledger

/-- Looks at the two accounts after the transfers, and reports. -/
def conclude (around : Surroundings) (plan : Plan) (pair : Pair)
    (numbered : List (Nat × Except StoreError Settlement)) (ledger : Ledger) :
    Ending × Ledger :=
  let tally := counted around plan numbered
  match ledger.perform (Findings.gather pair) with
  | (.error error, ledger) =>
    (.ofResult (heading plan) (reported numbered) (.error (.ofStore error)), ledger)
  | (.ok findings, ledger) =>
    let (checks, result) := verdict pair tally findings
    (.ofResult (heading plan ++ resultLines pair tally findings ++ checks) (reported numbered)
      result, ledger)

/-- Makes the transfers and reports, given the two accounts. -/
def trial (around : Surroundings) (plan : Plan) (pair : Pair) (ledger : Ledger) :
    Ending × Ledger :=
  let (numbered, ledger) := fired around plan pair ledger
  conclude around plan pair numbered ledger

/-- Opens the two accounts. -/
def prepare (address username : String) (plan : Plan) (ledger : Ledger) :
    Except ProgramError Pair × Ledger :=
  match openPool address plan.connections ledger with
  | .error error => (.error error, ledger)
  | .ok _ =>
    match ledger.migrate with
    | (.error error, ledger) => (.error (.ofMigration error), ledger)
    | (.ok _, ledger) =>
      let (pair, ledger) := ledger.perform (settings username)
      (pair.mapError .ofStore, ledger)

/-- Comes to the transfers, with the two accounts, or ends before them. -/
def start (around : Surroundings) (plan : Plan) (ledger : Ledger) : Except Ending Pair × Ledger :=
  match around.database with
  | none => (.error (.ofResult [] [] (.error ⟨"environment variable not found", []⟩)), ledger)
  | some address =>
    let (prepared, ledger) := prepare address around.username plan ledger
    (prepared.mapError fun error => .ofResult (heading plan) [] (.error error), ledger)

/-- Runs a load test on the database. -/
def run (around : Surroundings) (arguments : List String) (ledger : Ledger) : Ending × Ledger :=
  let plan := Plan.ofArguments arguments
  match start around plan ledger with
  | (.error ending, ledger) => (ending, ledger)
  | (.ok pair, ledger) => trial around plan pair ledger

end Passbook.LoadTest
