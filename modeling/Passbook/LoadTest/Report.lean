/-
**The findings of a load test.**

After the transfers the test looks at both balances and at what the entries of each account add up
to. `Findings.conserved` says that the balances are the opening ones plus the entries and that the
entries cancel; `Findings.netIsExpected` that the transfers to and fro cancel too, all but the last
of an odd number, unless some of them failed.
-/

import Passbook.LoadTest.Plan
import Passbook.Program

namespace Passbook.LoadTest

structure Findings where
  firstBalance : Option Int
  secondBalance : Option Int
  firstNet : Int
  secondNet : Int
  deriving DecidableEq, Repr

namespace Findings

/-- Looks at both accounts. -/
def gather (pair : Pair) : Work Findings := do
  let first ← Work.findAccount pair.first
  let second ← Work.findAccount pair.second
  let firstNet ← Work.sumEntries pair.first
  let secondNet ← Work.sumEntries pair.second
  return ⟨first.map (·.balance), second.map (·.balance), firstNet, secondNet⟩

def conserved (findings : Findings) : Bool :=
  findings.firstBalance == some (openingBalance + findings.firstNet) &&
    findings.secondBalance == some (openingBalance + findings.secondNet) &&
    findings.firstNet + findings.secondNet == 0

/-- The net change on the first account when no transfer failed. -/
def expectedNet (transfers : Nat) : Int :=
  -((transfers % 2 : Nat) : Int) * amount

def netIsExpected (transfers failures : Nat) (findings : Findings) : Bool :=
  failures != 0 || findings.firstNet == expectedNet transfers

end Findings

/-- How many transfers succeeded and failed, and how long they took, in microseconds. -/
structure Tally where
  transfers : Nat
  successes : Nat
  failures : Nat
  elapsed : Nat
  deriving DecidableEq, Repr

namespace Tally

/-- The time in seconds, to the nearest hundredth. -/
def timeText (tally : Tally) : String :=
  let hundredths := (tally.elapsed + 5000) / 10000
  let places := String.ofList (Text.Numeral.padded 2 (hundredths % 100))
  s!"{hundredths / 100}.{places}s"

/-- The successful transfers in a second, to the nearest whole one. -/
def rateText (tally : Tally) : String :=
  let elapsed := max tally.elapsed 1
  s!"{(tally.successes * 1000000 + elapsed / 2) / elapsed} transfers/sec"

end Tally

/-- The text of a balance, which there may not be. -/
def balanceText : Option Int → String
  | some balance => s!"Some({balance})"
  | none => "None"

/-- The lines of what was found. -/
def resultLines (pair : Pair) (tally : Tally) (findings : Findings) : List String :=
  let firstBalance := balanceText findings.firstBalance
  let secondBalance := balanceText findings.secondBalance
  ["", "=== Load Test Results ===", s!"Total transfers: {tally.transfers}",
    s!"Successful: {tally.successes}", s!"Failed: {tally.failures}", s!"Time: {tally.timeText}",
    s!"Rate: {tally.rateText}",
    s!"Account {pair.first} balance: {firstBalance} (entries net {findings.firstNet})",
    s!"Account {pair.second} balance: {secondBalance} (entries net {findings.secondNet})"]

/-- The lines of the two checks, up to the one that is not passed. -/
def verdict (pair : Pair) (tally : Tally) (findings : Findings) :
    List String × Except ProgramError Unit :=
  if !findings.conserved then ([], .error ⟨"balances do not match the recorded entries", []⟩)
  else if !findings.netIsExpected tally.transfers tally.failures then
    let expected := Findings.expectedNet tally.transfers
    let net := findings.firstNet
    (["Conservation check passed"],
      .error ⟨s!"net change on account {pair.first} is {net}, expected {expected}", []⟩)
  else (["Conservation check passed", "Net balance check passed"], .ok ())

end Passbook.LoadTest
