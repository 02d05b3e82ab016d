/-
**Invariants of runs.**

A `Preserved` relation is one between the statements that were executed so far and the books. It
must bear what each statement does to the numbers, whatever becomes of the rows; what an executed
statement of a kind does to the rows; and what a whole transfer of the kind does to them. Nothing
else happens in a run, since a transaction that fails in any way leaves the rows of its beginning
and only the numbers move (`Kept.undo`). An `Invariant` is such a relation that holds at the start.

* `Kept.transact`, `Kept.transfer`, `Kept.perform`, `Kept.dialogue` — what each kind of operation
  keeps; `Kept.operation` — what an operation keeps whose calls are all of the kind.
* **`Invariant.of_reachable`** — an invariant, and with it the soundness of the books, holds after
  every run.
* `Preserved.of_attempts` — it holds as well where a transfer is attempted inside an operation.
-/

import Passbook.Proofs.Run.Operation

namespace Passbook

open Ledger (Query Books Tables Exchange Session Serials)
open Time (Instant)

/-! ### Invariants -/

/-- A relation between what was executed and the books that calls of a kind keep. -/
structure Preserved (kind : Call → Prop) where
  holds : List Exchange → Books → Prop
  /-- The numbers move by an exchange, and the rows stay. -/
  hear : ∀ {past : List Exchange} {serials later : Serials} {rows : Tables} {exchange : Exchange},
    holds past ⟨serials, rows⟩ → serials.Hands exchange later →
    holds (past ++ [exchange]) ⟨later, rows⟩
  /-- A statement is executed. -/
  apply : ∀ {now : Instant} {past : List Exchange} {before after : Books} {query : Query}
    {answer : query.Answer}, kind (.query query) → before.Sound → holds past before →
    before.execute now query = .ok (answer, after) → holds (past ++ [⟨query, .ok answer⟩]) after
  /-- A transfer is settled. -/
  move : ∀ {now : Instant} {past exchanges : List Exchange} {before after : Books}
    {movement : Movement} {settlement : Settlement}, kind (.transfer movement) → before.Sound →
    holds past before → movement.Settles now before settlement after →
    before.Executes now exchanges after → (∀ exchange ∈ exchanges, exchange.query.MovesMoney) →
    holds (past ++ exchanges) after

/-- A relation that the operations of a run keep, and that holds at the start. -/
structure Invariant (may : Call → Prop) extends Preserved (Call.Permitted may) where
  empty : holds [] ⟨{}, .empty⟩

namespace Preserved

variable {kind : Call → Prop} (preserved : Preserved kind)

/-- The relation holds, and the books are sound. -/
structure Kept (past : List Exchange) (books : Books) : Prop where
  sound : books.Sound
  holds : preserved.holds past books

variable {preserved} {now : Instant} {past exchanges : List Exchange} {before after : Books}
  {α : Type} {ledger : Ledger}

namespace Kept

/-! ### Statements and transactions -/

theorem hear {serials later : Serials} {rows : Tables} {exchange : Exchange}
    (kept : preserved.Kept past ⟨serials, rows⟩) (hands : serials.Hands exchange later) :
    preserved.Kept (past ++ [exchange]) ⟨later, rows⟩ :=
  ⟨kept.sound.later hands.le, preserved.hear kept.holds hands⟩

theorem apply {query : Query} {answer : query.Answer} (kept : preserved.Kept past before)
    (permitted : kind (.query query))
    (executed : before.execute now query = .ok (answer, after)) :
    preserved.Kept (past ++ [⟨query, .ok answer⟩]) after :=
  ⟨kept.sound.execute executed, preserved.apply permitted kept.sound kept.holds executed⟩

theorem executes (kept : preserved.Kept past before)
    (permitted : ∀ exchange ∈ exchanges, kind (.query exchange.query))
    (executes : before.Executes now exchanges after) :
    preserved.Kept (past ++ exchanges) after := by
  induction executes generalizing past with
  | nil books =>
    rw [List.append_nil]
    exact kept
  | @cons query answer rest books next last step _ ih =>
    have later := ih (kept.apply (permitted _ List.mem_cons_self) step)
      fun exchange member => permitted exchange (List.mem_cons_of_mem _ member)
    rw [List.append_assoc] at later
    exact later

/-- **A transaction that is undone** moves nothing but the numbers. -/
theorem undo (kept : preserved.Kept past ledger.books) (work : Work α) :
    preserved.Kept (past ++ ledger.exchanges work)
      ⟨(ledger.transact work).2.serials, ledger.rows⟩ := by
  rcases ledger.transact_cases work with
    ⟨error, after, transacted, _, heard, _, serials, _⟩ | ⟨start, begun, _, heard, transacted⟩
  · rw [heard, transacted, serials, List.append_nil]
    exact kept
  · -- the rows of the start go along with the session, whose statements only move the numbers
    let keeps := fun (past : List Exchange) (session : Session) =>
      preserved.Kept past ⟨session.ledger.serials, ledger.rows⟩
    have start_kept : keeps past start := by
      show preserved.Kept past ⟨start.ledger.serials, ledger.rows⟩
      rw [begun.serials]
      exact kept
    have ran := Script.run_keeps keeps (fun past query session _ kept =>
      Kept.hear kept (session.hands_query query)) (Script.asks_true work.run) start_kept
    obtain ⟨ending, _⟩ := (Script.run Session.query work.run start).2.conclude_ending
      (Script.run Session.query work.run start).1
    rw [heard, transacted, ending.serials]
    exact ran

theorem transact (kept : preserved.Kept past ledger.books) {work : Work α}
    (asks : work.run.Asks fun query => kind (.query query)) :
    preserved.Kept (past ++ ledger.exchanges work) (ledger.transact work).2.books := by
  by_cases lands : ledger.Lands work
  · exact kept.executes (Ledger.kind_of_mem_exchanges _ _ asks) (Ledger.executes_of_lands lands)
  · have same : (ledger.transact work).2.rows = ledger.rows := by
      rw [Ledger.rows, Ledger.rows, Ledger.tables_of_not_lands lands]
    rw [Ledger.books, same]
    exact kept.undo work

theorem query {query : Query} (kept : preserved.Kept past ledger.books)
    (permitted : kind (.query query)) :
    preserved.Kept (past ++ ledger.heard query) (ledger.query query).2.books := by
  unfold Ledger.heard
  rcases ledger.query_cases query with
    ⟨error, after, met, failing⟩ | ⟨answer, after, met, answering⟩
  · rw [met, Ledger.books, failing.rows]
    rcases failing.serials with same | taken
    · rw [same]
      exact Kept.hear kept (.kept error)
    · rw [taken]
      exact Kept.hear kept (.wasted error)
  · rw [met]
    exact kept.apply permitted answering.books

theorem perform (kept : preserved.Kept past ledger.books) {work : Work α}
    (asks : work.run.Asks fun query => kind (.query query)) :
    preserved.Kept (past ++ work.run.notes Ledger.query Ledger.heard ledger)
      (ledger.perform work).2.books := by
  refine Script.run_keeps (fun past (ledger : Ledger) => preserved.Kept past ledger.books)
    (fun past query ledger permitted kept => ?_) asks kept
  exact kept.query permitted

/-! ### Transfers and dialogues -/

theorem transfer (kept : preserved.Kept past ledger.books) {movement : Movement}
    (permitted : kind (.transfer movement)) :
    preserved.Kept (past ++ ledger.transferExchanges movement)
      (ledger.transfer movement).2.books := by
  rcases Ledger.transfer_cases movement kept.sound with
    ⟨settlement, after, met, settles, executes⟩ | ⟨error, after, met, same⟩
  · rw [met]
    refine ⟨kept.sound.executes executes, ?_⟩
    exact preserved.move permitted kept.sound kept.holds settles executes
      (ledger.movesMoney_of_mem movement)
  · have rows : after.rows = ledger.rows := by rw [Ledger.rows, Ledger.rows, same]
    by_cases nothing : movement.amount ≤ 0
    · rw [Ledger.transferExchanges, Ledger.transfer, if_pos nothing, if_pos nothing,
        List.append_nil]
      exact kept
    · rw [Ledger.transfer, if_neg nothing] at met ⊢
      have undone := kept.undo movement.settle
      rw [Ledger.transferExchanges, if_neg nothing, Ledger.books, met, rows]
      rw [met] at undone
      exact undone

theorem call {call : Call} (kept : preserved.Kept past ledger.books)
    (permitted : kind call) :
    preserved.Kept (past ++ ledger.heardOf call) (ledger.answer call).2.books := by
  cases call with
  | query query => exact kept.query permitted
  | transfer movement => exact kept.transfer permitted

theorem dialogue (kept : preserved.Kept past ledger.books) {script : Script Call Call.Reply α}
    (asks : script.Asks kind) :
    preserved.Kept (past ++ ledger.heardIn script) (script.run Ledger.answer ledger).2.books := by
  refine Script.run_keeps (fun past (ledger : Ledger) => preserved.Kept past ledger.books)
    (fun past call ledger permitted kept => ?_) asks kept
  exact kept.call permitted

end Kept

/-! ### Runs -/

/-- **An operation keeps what its calls keep.** -/
theorem Kept.operation (kept : preserved.Kept past ledger.books) {operation : Operation}
    (asks : operation.Asks kind) :
    preserved.Kept (past ++ operation.exchanges ledger) (operation.run ledger).books := by
  cases operation with
  | perform work => exact kept.perform asks
  | transact work => exact kept.transact asks
  | transfer movement => exact kept.transfer asks
  | seed => exact kept.transact asks
  | migrate =>
    show preserved.Kept (past ++ []) ledger.migrate.2.books
    rw [Ledger.migrate_books, List.append_nil]
    exact kept
  | register user => exact kept.dialogue asks
  | changeProfile change => exact kept.dialogue asks
  | openAccount account => exact kept.dialogue asks
  | pay policy order => exact kept.dialogue asks
  | request policy fresh asked => exact kept.dialogue asks
  | surround clock faults access =>
    show preserved.Kept (past ++ []) ledger.books
    rw [List.append_nil]
    exact kept

/-- What is kept holds of each transfer that a call attempts, at the ledger that it meets. -/
theorem Kept.attemptsIn (kept : preserved.Kept past ledger.books)
    {script : Script Call Call.Reply α} (asks : script.Asks kind) :
    ∀ attempt ∈ ledger.attemptsIn script, kind (.transfer attempt.movement) ∧
      ∃ earlier, preserved.Kept earlier attempt.ledger.books := by
  let keeps := fun ledger : Ledger => ∃ earlier, preserved.Kept earlier ledger.books
  refine Script.forall_notes keeps (fun call ledger permitted ⟨earlier, kept⟩ => ?_)
    (fun call ledger permitted here attempt member => ?_) asks ⟨past, kept⟩
  · exact ⟨_, kept.call permitted⟩
  · cases call with
    | query query => cases member
    | transfer movement =>
      rw [List.mem_singleton.mp member]
      exact ⟨permitted, here⟩

/-- **What is kept holds of each transfer that an operation attempts**, at the ledger that it
meets. -/
theorem Kept.of_attempts (kept : preserved.Kept past ledger.books) {operation : Operation}
    (asks : operation.Asks kind) :
    ∀ attempt ∈ operation.attempts ledger, kind (.transfer attempt.movement) ∧
      ∃ earlier, preserved.Kept earlier attempt.ledger.books := by
  cases operation with
  | perform _ | transact _ | seed | migrate | surround _ _ _ =>
    exact fun _ member => by cases member
  | transfer movement =>
    intro attempt member
    rw [List.mem_singleton.mp member]
    exact ⟨asks, past, kept⟩
  | register user => exact kept.attemptsIn asks
  | changeProfile change => exact kept.attemptsIn asks
  | openAccount account => exact kept.attemptsIn asks
  | pay policy order => exact kept.attemptsIn asks
  | request policy fresh asked => exact kept.attemptsIn asks

end Preserved

/-- **An invariant holds after every run**, and the books are sound. -/
theorem Invariant.of_reachable {may : Call → Prop} (invariant : Invariant may)
    {past : List Exchange} {ledger : Ledger} (reachable : Reachable may past ledger) :
    invariant.Kept past ledger.books := by
  induction reachable with
  | blank => exact ⟨Books.sound_empty {}, invariant.empty⟩
  | fresh => exact ⟨Books.sound_empty {}, invariant.empty⟩
  | step operation _ within ih => exact ih.operation (Operation.asks_of_within within)

/-- The books are sound after every run, whatever its works and transfers are. -/
theorem Reachable.sound {may : Call → Prop} {past : List Exchange} {ledger : Ledger}
    (reachable : Reachable may past ledger) : ledger.books.Sound := by
  let anything : Invariant may :=
    { holds := fun _ _ => True
      empty := trivial
      hear := fun _ _ => trivial
      apply := fun _ _ _ _ => trivial
      move := fun _ _ _ _ _ _ => trivial }
  exact (anything.of_reachable reachable).sound

end Passbook
