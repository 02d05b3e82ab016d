/-
**Dialogues with the store.**

What the service does for one request is a `Dialogue`: a script of calls to the store that ends with
a value or an error of the service. A call is one statement on its own or one whole transfer;
between two calls of a dialogue, calls of others may be answered.

`Ledger.answer` answers a call, and `Ledger.serve` plays a dialogue without interruption.
-/

import Passbook.Service.Error
import Passbook.Store.Transfer

namespace Passbook

open Ledger (Query)

inductive Call where
  | query (query : Query)
  | transfer (movement : Movement)
  deriving DecidableEq

def Call.Reply : Call → Type
  | query q => q.Reply
  | transfer _ => Except StoreError Settlement

abbrev Dialogue (α : Type) : Type :=
  ExceptT ServiceError (Script Call Call.Reply) α

namespace Dialogue

/-- A dialogue that calls nothing. -/
def ofExcept (result : Except ServiceError α) : Dialogue α :=
  ExceptT.mk (.done result)

/-- Does a work outside of any transaction, each statement a call, and gives its outcome. -/
def outcome (work : Work α) : Dialogue (Except StoreError α) :=
  ExceptT.mk <| (work.run.rephrase Call.query fun _ reply => reply).bind fun result =>
    .done (.ok result)

/-- Does a work outside of any transaction. -/
def store (work : Work α) : Dialogue α := do
  ofExcept ((← outcome work).mapError .store)

/-- Moves money in a transaction. -/
def transfer (movement : Movement) : Dialogue Settlement :=
  ExceptT.mk (.ask (.transfer movement) fun reply => .done (reply.mapError .store))

end Dialogue

namespace Ledger

/-- Answers a call. -/
def answer : (call : Call) → Ledger → call.Reply × Ledger
  | .query query, ledger => ledger.query query
  | .transfer movement, ledger => ledger.transfer movement

/-- Plays a dialogue without interruption. -/
def serve (dialogue : Dialogue α) (ledger : Ledger) : Except ServiceError α × Ledger :=
  Script.run Ledger.answer dialogue.run ledger

end Ledger

end Passbook
