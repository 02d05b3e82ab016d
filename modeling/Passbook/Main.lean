/-
**The command line.**

`load-test` runs a load test with the arguments that follow it, and `serve` the server, which takes
its requests line by line from standard input. Both work on a database of their own that lasts as
long as they do; its clock starts with the year 2024.
-/

import Passbook.LoadTest.Run
import Passbook.Server.Line
import Passbook.Server.Run

namespace Passbook.Main

open Http (Uuid)

/-- The settings that are set in the environment. -/
def environment : IO Config.Lookup := do
  let names := ["DATABASE_URL", "DATABASE_MAX_CONNECTIONS", "HOST", "PORT", "ENVIRONMENT",
    "SELF_TRANSFER_POLICY", "RUN_MIGRATIONS", "SEED_DATABASE"]
  let values ← names.mapM fun name => return (name, ← IO.getEnv name)
  return fun name => (values.lookup name).join

/-- Draws an identifier. -/
def freshUuid : IO Uuid := do
  let digits ← (List.range 32).mapM fun _ =>
    return (⟨(← IO.rand 0 15) % 16, Nat.mod_lt _ (by decide)⟩ : Fin 16)
  return (Uuid.ofDigits? digits).getD .nil

/-- Sets the clock of a database that was opened `began` nanoseconds after the machine started. -/
def wind (began : Nat) (ledger : Ledger) : IO Ledger := do
  let elapsed := ((← IO.monoNanosNow) - began) / 1000
  return { ledger with clock := .ofMicros (1704067200000000 + elapsed) }

def report (ending : Ending) : IO UInt32 := do
  ending.output.forM IO.println
  ending.errors.forM IO.eprintln
  return ending.code.toUInt32

/-- Runs a load test, and takes the time of its transfers. -/
def loadTest (arguments : List String) : IO UInt32 := do
  let lookup ← environment
  let letters ← (List.range 8).mapM fun _ => return Nat.digitChar (← IO.rand 0 15)
  let around : LoadTest.Surroundings :=
    { database := lookup "DATABASE_URL", username := "load_" ++ String.ofList letters }
  let plan := LoadTest.Plan.ofArguments arguments
  match LoadTest.start around plan .blank with
  | (.error ending, _) => report ending
  | (.ok pair, ledger) =>
    let began ← IO.monoNanosNow
    let (numbered, ledger) ← IO.lazyPure fun _ => LoadTest.fired around plan pair ledger
    let elapsed := ((← IO.monoNanosNow) - began) / 1000
    report (LoadTest.conclude { around with elapsed } plan pair numbered ledger).1

/-- Answers requests until there are no more lines. -/
partial def answerLines (config : Config) (began : Nat) (ledger : Ledger) : IO Unit := do
  let line ← (← IO.getStdin).getLine
  if line.isEmpty then return
  match Server.Line.request? line.trimAscii.toString with
  | none => answerLines config began ledger
  | some request =>
    let dialogue := Server.respond config.selfTransfer (← freshUuid) request
    let (response, ledger) := dialogue.run Ledger.answer (← wind began ledger)
    IO.println (Server.Line.response response)
    answerLines config began ledger

def serve : IO UInt32 := do
  let began ← IO.monoNanosNow
  match Server.start (← environment) (← wind began .blank) with
  | (.error error, _) => report (.ofResult [] [] (.error error))
  | (.ok config, ledger) =>
    answerLines config began ledger
    return 0

end Passbook.Main

def main (arguments : List String) : IO UInt32 :=
  match arguments with
  | "load-test" :: rest => Passbook.Main.loadTest rest
  | ["serve"] => Passbook.Main.serve
  | _ => do
    IO.eprintln "usage: (load-test [--transfers N] [--connections N] | serve)"
    return 2
