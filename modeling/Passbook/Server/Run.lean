/-
**Running the server.**

`Server.start` reads the configuration and gets everything ready: the address, the database, its
tables, and the demonstration data if they are wanted. The first step that fails ends the program.
`Server.run` then answers requests one after another until it is told to stop, and ends well.
-/

import Passbook.Config
import Passbook.Program
import Passbook.Server.Address
import Passbook.Server.Site
import Passbook.Store.Seed

namespace Passbook.Server

open Http (Request Response Uuid)

/-- The address on which a configuration asks to listen. -/
def Address.ofConfig (config : Config) : Except ProgramError Address :=
  match Address.read? (s!"{config.host}:{config.port}").toList with
  | some address => .ok address
  | none => .error ⟨"invalid socket address syntax", []⟩

/-- Listens at an address. -/
def listen (address : Address) : Except ProgramError Unit :=
  address.listen.mapError fun error => ⟨error.message, []⟩

/-- Lays out the tables if that is wanted; they must be there afterwards. -/
def prepareTables (config : Config) (ledger : Ledger) : Except ProgramError Unit × Ledger :=
  let (laid, ledger) := if config.migrates then ledger.migrate else (.ok (), ledger)
  match laid with
  | .error error => (.error (.ofMigration error), ledger)
  | .ok _ =>
    match ledger.hasSchema with
    | .error error => (.error (.ofDatabase error), ledger)
    | .ok true => (.ok (), ledger)
    | .ok false => (.error ⟨"Database schema incomplete", []⟩, ledger)

/-- Stores the demonstration data if that is wanted. -/
def prepareData (config : Config) (ledger : Ledger) : Except ProgramError Unit × Ledger :=
  if config.seeds then
    match ledger.seed with
    | (.ok _, ledger) => (.ok (), ledger)
    | (.error error, ledger) => (.error (.ofStore error), ledger)
  else (.ok (), ledger)

/-- Checks what can be checked without the tables. -/
def connect (lookup : Config.Lookup) (ledger : Ledger) :
    Except ProgramError (Config × Address) := do
  let config ← (Config.load lookup).mapError fun problem => ⟨problem.message, []⟩
  let address ← Address.ofConfig config
  openPool config.databaseAddress config.connections.toNat ledger
  return (config, address)

/-- Gets everything ready. -/
def start (lookup : Config.Lookup) (ledger : Ledger) : Except ProgramError Config × Ledger :=
  match connect lookup ledger with
  | .error error => (.error error, ledger)
  | .ok (config, address) =>
    match prepareTables config ledger with
    | (.error error, ledger) => (.error error, ledger)
    | (.ok _, ledger) =>
      match prepareData config ledger with
      | (.error error, ledger) => (.error error, ledger)
      | (.ok _, ledger) => ((listen address).map fun _ => config, ledger)

/-- Answers requests one after another. -/
def serveAll (policy : SelfTransferPolicy) (fresh : Uuid) :
    List Request → Ledger → List Response × Ledger
  | [], ledger => ([], ledger)
  | request :: rest, ledger =>
    let (response, ledger) := (respond policy fresh request).run Ledger.answer ledger
    let (responses, ledger) := serveAll policy fresh rest ledger
    (response :: responses, ledger)

/-- Starts, answers the requests and stops. -/
def run (lookup : Config.Lookup) (fresh : Uuid) (requests : List Request) (ledger : Ledger) :
    Ending × List Response × Ledger :=
  match start lookup ledger with
  | (.error error, ledger) => (.ofResult [] [] (.error error), [], ledger)
  | (.ok config, ledger) =>
    (.ofResult [] [] (.ok ()), serveAll config.selfTransfer fresh requests ledger)

end Passbook.Server
