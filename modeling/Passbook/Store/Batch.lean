/-
**Several works in one transaction.**

A batch does works one after another in one transaction and gives their outcomes. The first failure
ends a batch, and is then its result, unless the batch is tolerant; after the works the batch itself
may still be made to fail.
-/

import Passbook.Store.Work

namespace Passbook

open Ledger (Query)

structure Batch (α : Type) where
  works : List (Work α)
  /-- A failure is an outcome like any other. -/
  tolerant : Bool
  /-- How the batch ends when all works are done. -/
  verdict : Except StoreError Unit

namespace Batch

/-- The outcomes of the works and the result of the batch. -/
def script (tolerant : Bool) (verdict : Except StoreError Unit) :
    List (Work α) → Script Query Query.Reply (List (Except StoreError α) × Except StoreError Unit)
  | [] => .done ([], verdict)
  | work :: rest => work.run.bind fun outcome =>
    match outcome, tolerant with
    | .error error, false => .done ([], .error error)
    | outcome, _ => (script tolerant verdict rest).bind fun (outcomes, result) =>
      .done (outcome :: outcomes, result)

end Batch

/-- Does a batch; gives the outcomes of its works and its result. -/
def Ledger.batch (batch : Batch α) (ledger : Ledger) :
    List (Except StoreError α) × Except StoreError Unit × Ledger :=
  match ledger.begin with
  | (.error error, ledger) => ([], .error (.database error), ledger)
  | (.ok session, _) =>
    let ((outcomes, result), session) :=
      (Batch.script batch.tolerant batch.verdict batch.works).run Session.query session
    (outcomes, session.conclude result)

end Passbook
