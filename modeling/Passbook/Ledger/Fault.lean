/-
**Faults in waiting.**

A `Fault` waits for a statement of its verb and table and then fails it once, after letting a number
of such statements pass. Only the first waiting fault that concerns a statement takes note of it.
-/

import Passbook.Ledger.Query

namespace Passbook.Ledger

/-- How a statement fails. -/
inductive Failure where
  | refused (refusal : Refusal)
  | disconnected
  deriving DecidableEq, Repr

def Failure.error : Failure → DatabaseError
  | refused refusal => .ofRefusal refusal
  | disconnected => .connectionLost

structure Fault where
  verb : Verb
  /-- No table for the statements that begin and end transactions. -/
  table : Option Table
  /-- How many statements to let pass. -/
  skip : Nat
  failure : Failure
  deriving DecidableEq, Repr

def Fault.concerns (fault : Fault) (event : Event) : Bool :=
  fault.verb == event.verb && fault.table == event.table?

/-- The failure that a statement meets, if any, and the faults that wait on. -/
def Fault.meet (event : Event) : List Fault → Option Failure × List Fault
  | [] => (none, [])
  | fault :: rest =>
    if fault.concerns event then
      if fault.skip = 0 then (some fault.failure, rest)
      else (none, { fault with skip := fault.skip - 1 } :: rest)
    else
      let (failure, rest) := meet event rest
      (failure, fault :: rest)

end Passbook.Ledger
