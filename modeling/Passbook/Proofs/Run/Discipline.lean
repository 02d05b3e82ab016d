/-
**No transaction is left open.**

Whatever is done with a ledger, each transaction is over before anything else is executed: a
statement on its own is never executed inside a transaction that an earlier operation left behind.

* `Operation.remarks` — what an operation leaves in the journal; `Operation.run_records`.
* **`Operation.closed`** — an operation leaves the connection outside of any transaction.
* `Ledger.runAll`, `Ledger.remarksOf` — operations one after another; `runAll_closed`.
* **`transaction_discipline`** — the statements of a transfer, of any transaction, and of a run.
* `uncommitted_without_rollback` — after a commit that fails there is no rollback.
-/

import Passbook.Proofs.Money.AnyOrder
import Passbook.Proofs.Store.Statements

namespace Passbook

open Ledger (Query Remark Records Closed)

namespace Ledger

/-! ### Dialogues -/

/-- What a call leaves in the journal. -/
def remarksOfCall : Call → Ledger → List Remark
  | .query query, ledger => ledger.ownRemarks query
  | .transfer movement, ledger => ledger.transferRemarks movement

/-- What a dialogue leaves in the journal. -/
def remarksIn {α : Type} (dialogue : Script Call Call.Reply α) (ledger : Ledger) : List Remark :=
  dialogue.notes answer remarksOfCall ledger

/-- A statement on its own is in place outside of any transaction. -/
theorem closed_own (query : Query) (ledger : Ledger) : Closed (ledger.ownRemarks query) := by
  unfold ownRemarks remarks
  cases ledger.access.check with
  | error problem => exact .nil
  | ok _ =>
    dsimp only
    split
    · exact .nil
    · rfl

/-- The journal has grown by remarks that are closed. -/
structure Leaves (before after : Ledger) (remarks : List Remark) : Prop where
  records : Records before after remarks
  closed : Closed remarks

theorem Leaves.nil (ledger : Ledger) : Leaves ledger ledger [] :=
  ⟨.nil ledger, .nil⟩

theorem Leaves.append {first second third : Ledger} {before after : List Remark}
    (earlier : Leaves first second before) (later : Leaves second third after) :
    Leaves first third (before ++ after) :=
  ⟨earlier.records.append later.records, earlier.closed.append later.closed⟩

theorem transact_leaves {α : Type} (work : Work α) (ledger : Ledger) :
    Leaves ledger (ledger.transact work).2 (ledger.transactionRemarks work) :=
  ⟨transact_records work ledger, closed_transaction work ledger⟩

theorem query_leaves (query : Query) (ledger : Ledger) :
    Leaves ledger (ledger.query query).2 (ledger.ownRemarks query) :=
  ⟨query_records query ledger, closed_own query ledger⟩

theorem transfer_leaves (movement : Movement) (ledger : Ledger) :
    Leaves ledger (ledger.transfer movement).2 (ledger.transferRemarks movement) :=
  ⟨transfer_records movement ledger, closed_transfer movement ledger⟩

theorem dialogue_leaves {α : Type} (dialogue : Script Call Call.Reply α) (ledger : Ledger) :
    Leaves ledger (dialogue.run answer ledger).2 (ledger.remarksIn dialogue) := by
  refine Script.run_keeps (fun past state => Leaves ledger state past)
    (fun past call state _ so_far => so_far.append ?_) (Script.asks_true dialogue) (.nil ledger)
  cases call with
  | query query => exact query_leaves query state
  | transfer movement => exact transfer_leaves movement state

/-! ### Laying out the tables -/

/-- What it leaves in the journal to lay out the tables. -/
def migrationRemarks (ledger : Ledger) : List Remark :=
  match ledger.access.check with
  | .error _ => []
  | .ok _ =>
    if ledger.tables.isSome then []
    else
      match ledger.note .begin with
      | (some failure, _) => [⟨.begin, some failure⟩]
      | (none, ledger) => [⟨.begin, none⟩, ⟨.commit, (ledger.note .commit).1⟩]

theorem migrate_leaves (ledger : Ledger) :
    Leaves ledger ledger.migrate.2 ledger.migrationRemarks := by
  unfold migrationRemarks migrate
  cases ledger.access.check with
  | error problem => exact .nil ledger
  | ok _ =>
    by_cases laid : ledger.tables.isSome = true
    · simp only [if_pos laid]
      exact .nil ledger
    · simp only [if_neg laid]
      obtain ⟨failure, faults, noted, _⟩ := ledger.note_eq .begin
      rw [noted]
      cases failure with
      | some failure => exact ⟨rfl, rfl⟩
      | none =>
        obtain ⟨failure, faults, noted, _⟩ := note_eq .commit
          { ledger with faults, journal := .begin :: ledger.journal }
        simp only [noted]
        cases failure with
        | some failure => exact ⟨rfl, rfl⟩
        | none => exact ⟨rfl, rfl⟩

end Ledger

/-! ### Operations -/

namespace Operation

/-- What an operation leaves in the journal. -/
def remarks : Operation → Ledger → List Remark
  | perform work, ledger => work.run.notes Ledger.query Ledger.ownRemarks ledger
  | transact work, ledger => ledger.transactionRemarks work
  | transfer movement, ledger => ledger.transferRemarks movement
  | seed, ledger => ledger.transactionRemarks (Seed.seedAll Seed.demos)
  | migrate, ledger => ledger.migrationRemarks
  | register user, ledger => ledger.remarksIn (Service.register user).run
  | changeProfile change, ledger => ledger.remarksIn (Service.changeProfile change).run
  | openAccount account, ledger => ledger.remarksIn (Service.openAccount account).run
  | pay policy order, ledger => ledger.remarksIn (Service.pay policy order).run
  | request policy fresh asked, ledger => ledger.remarksIn (Http.Api.respond policy fresh asked)
  | surround _ _ _, _ => []

/-- **Every operation** leaves its connection outside of any transaction. -/
theorem leaves (operation : Operation) (ledger : Ledger) :
    ledger.Leaves (operation.run ledger) (operation.remarks ledger) := by
  cases operation with
  | perform work =>
    exact Script.run_keeps (fun past state => ledger.Leaves state past)
      (fun past query state _ so_far => so_far.append (Ledger.query_leaves query state))
      (Script.asks_true work.run) (.nil ledger)
  | transact work => exact Ledger.transact_leaves work ledger
  | transfer movement => exact Ledger.transfer_leaves movement ledger
  | seed => exact Ledger.transact_leaves _ ledger
  | migrate => exact ledger.migrate_leaves
  | register _ | changeProfile _ | openAccount _ | pay _ _ | request _ _ _ =>
    exact Ledger.dialogue_leaves _ ledger
  | surround clock faults access => exact ⟨rfl, .nil⟩

end Operation

namespace Ledger

/-- The ledger after operations, one after another. -/
def runAll : List Operation → Ledger → Ledger
  | [], ledger => ledger
  | operation :: rest, ledger => runAll rest (operation.run ledger)

/-- What operations leave in the journal, one after another. -/
def remarksOf : List Operation → Ledger → List Remark
  | [], _ => []
  | operation :: rest, ledger => operation.remarks ledger ++ remarksOf rest (operation.run ledger)

/-- **So does every run.** -/
theorem runAll_leaves (operations : List Operation) (ledger : Ledger) :
    Leaves ledger (runAll operations ledger) (remarksOf operations ledger) := by
  induction operations generalizing ledger with
  | nil => exact .nil ledger
  | cons operation rest ih => exact (operation.leaves ledger).append (ih _)

end Ledger

/-- **Transactions.** A transfer in a ledger that a run leads to takes one of its courses, and
changes its two balances in their order; every work in a transaction takes one of the courses of
transactions; and after any operations no transaction is open. -/
theorem transaction_discipline :
    (∀ (past : List Ledger.Exchange) (ledger : Ledger), Reachable Call.Typed past ledger →
      ∀ movement : Movement,
        Records ledger (ledger.transfer movement).2 (ledger.transferRemarks movement) ∧
        movement.Course ledger (ledger.transferRemarks movement) (ledger.transfer movement).1) ∧
    (∀ movement : Movement,
      [movement.orderedChanges.1, movement.orderedChanges.2].Perm
        [movement.debit, movement.credit] ∧
      movement.orderedChanges.1.account ≤ movement.orderedChanges.2.account ∧
      (movement.source = movement.target →
        movement.orderedChanges = (movement.credit, movement.debit))) ∧
    (∀ (α : Type) (work : Work α) (ledger : Ledger),
      Records ledger (ledger.transact work).2 (ledger.transactionRemarks work) ∧
      Ledger.Course (ledger.transactionRemarks work) (ledger.transact work).1) ∧
    ∀ (operations : List Operation) (ledger : Ledger),
      Records ledger (ledger.runAll operations) (ledger.remarksOf operations) ∧
        Closed (ledger.remarksOf operations) := by
  refine ⟨fun past ledger reachable movement => ?_,
    fun movement => movement.orderedChanges_in_order,
    fun α work ledger => ⟨Ledger.transact_records work ledger, Ledger.transact_course work ledger⟩,
    fun operations ledger => ?_⟩
  · have typed : ledger.rows.Typed := (Ledger.Tables.typed.of_reachable reachable).holds
    exact ⟨Ledger.transfer_records movement ledger,
      Ledger.transfer_course fun row stored => (typed row stored).2⟩
  · obtain ⟨records, closed⟩ := Ledger.runAll_leaves operations ledger
    exact ⟨records, closed⟩

/-- A payment to an account with a smaller number, from the demonstration data. -/
theorem transaction_discipline_demonstration :
    (demonstration.transferRemarks ⟨4, 1, 30⟩).map Remark.event =
      [.begin, .query (.insertTransfer ⟨4, 1, 30⟩), .query (.insertEntry ⟨1, 4, -30⟩),
        .query (.insertEntry ⟨1, 1, 30⟩), .query (.addBalance ⟨1, 30⟩),
        .query (.addBalance ⟨4, -30⟩), .commit] ∧
    Records demonstration (demonstration.transfer ⟨4, 1, 30⟩).2
      (demonstration.transferRemarks ⟨4, 1, 30⟩) ∧
    Movement.Course ⟨4, 1, 30⟩ demonstration (demonstration.transferRemarks ⟨4, 1, 30⟩)
      (demonstration.transfer ⟨4, 1, 30⟩).1 := by
  have reachable : Reachable Call.Typed _ demonstration := .step .seed .fresh trivial
  exact ⟨by decide, transaction_discipline.1 _ _ reachable ⟨4, 1, 30⟩⟩

/-- The demonstration data, with a fault in wait for a commit. -/
def interrupted : Ledger :=
  (Operation.surround .newYear2024
    [⟨.commit, none, 0, .refused (.other "40001" "could not serialize access")⟩] .granted).run
    demonstration

/-- **After a commit that fails there is no rollback**: the transfer fails, and the commit is the
last statement. -/
theorem uncommitted_without_rollback :
    (∃ past, Reachable Call.Typed past interrupted) ∧
    (∃ error, (interrupted.transfer ⟨4, 1, 30⟩).1 = .error error) ∧
    (interrupted.transfer ⟨4, 1, 30⟩).2.journal.head? = some .commit ∧
    Ledger.Event.rollback ∉ (interrupted.transfer ⟨4, 1, 30⟩).2.journal := by
  refine ⟨⟨_, .step (.surround _ _ _) (.step .seed .fresh trivial) trivial⟩, ⟨_, rfl⟩, ?_, ?_⟩
  · decide
  · decide

end Passbook
