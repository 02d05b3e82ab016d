/-
**Transactions are all or nothing.**

`Ledger.exchanges work ledger` are the statements of a work in a transaction with their replies, and
`Ledger.inTransaction work ledger` is what the work comes to.

* `Ledger.Lands` — the work succeeds, the database refuses none of its statements, and the commit is
  carried out.
* **`transact_all_or_nothing`** — the rows after a transaction are those of all its statements
  applied one after another if it lands, and those before it otherwise; and a failed work that is
  rolled back gives its own error.
* `batch_eq_transact` — doing a batch is doing one work in a transaction.
-/

import Passbook.Proofs.Ledger.Session
import Passbook.Store.Batch

namespace Passbook.Ledger

/-! ### A work in a transaction -/

variable {α : Type} (work : Work α) (ledger : Ledger)

/-- What a work comes to in a transaction, and the session in which it ends; nothing when no
transaction can be begun. -/
def inTransaction : Option (Except StoreError α × Session) :=
  match ledger.begin with
  | (.error _, _) => none
  | (.ok session, _) => some (Script.run Session.query work.run session)

/-- The statements of a work in a transaction, with the replies to them. -/
def exchanges : List Exchange :=
  match ledger.begin with
  | (.error _, _) => []
  | (.ok session, _) => Script.notes Session.query Session.heard work.run session

/-- A session at its beginning. -/
structure Begun (ledger : Ledger) (session : Session) : Prop where
  running : session.standing = .running
  saved : session.saved = ledger.tables
  tables : session.ledger.tables = ledger.tables
  serials : session.ledger.serials = ledger.serials
  around : Around ledger session.ledger

theorem Begun.books {ledger : Ledger} {session : Session} (begun : Begun ledger session) :
    session.ledger.books = ledger.books := by
  rw [Ledger.books, Ledger.books, begun.serials, rows, rows, begun.tables]

theorem begin_cases :
    (∃ error after, ledger.begin = (.error error, after) ∧ after.tables = ledger.tables ∧
      after.serials = ledger.serials ∧ Around ledger after) ∨
    (∃ session after, ledger.begin = (.ok session, after) ∧ Begun ledger session) := by
  unfold Ledger.begin
  cases ledger.access.check with
  | error error => exact .inl ⟨error, ledger, rfl, rfl, rfl, .refl ledger⟩
  | ok _ =>
    obtain ⟨failure, faults, noted, left, _⟩ := ledger.note_eq .begin
    simp only [noted]
    cases failure with
    | some failure => exact .inl ⟨_, _, rfl, rfl, rfl, rfl, rfl, left⟩
    | none => exact .inr ⟨_, _, rfl, rfl, rfl, rfl, rfl, rfl, rfl, left⟩

/-- The statements of a transaction run to its end, or it does not begin and nothing happens. -/
theorem transact_cases :
    (∃ error after, ledger.transact work = (.error (.database error), after) ∧
      ledger.inTransaction work = none ∧ ledger.exchanges work = [] ∧
      after.tables = ledger.tables ∧ after.serials = ledger.serials ∧ Around ledger after) ∨
    (∃ start, Begun ledger start ∧
      ledger.inTransaction work = some (Script.run Session.query work.run start) ∧
      ledger.exchanges work = Script.notes Session.query Session.heard work.run start ∧
      ledger.transact work = (Script.run Session.query work.run start).2.conclude
        (Script.run Session.query work.run start).1) := by
  unfold transact inTransaction exchanges
  rcases ledger.begin_cases with
    ⟨error, after, met, tables, serials, around⟩ | ⟨start, after, met, begun⟩
  · rw [met]
    exact .inl ⟨error, after, rfl, rfl, rfl, tables, serials, around⟩
  · rw [met]
    exact .inr ⟨start, begun, rfl, rfl, rfl⟩

/-- A transaction leaves clock and access, and of the faults in waiting some may strike. -/
theorem transact_around : Around ledger (ledger.transact work).2 := by
  rcases ledger.transact_cases work with
    ⟨error, after, transacted, _, _, _, _, around⟩ | ⟨start, begun, _, _, transacted⟩
  · rw [transacted]
    exact around
  · obtain ⟨ending, _⟩ := (Script.run Session.query work.run start).2.conclude_ending
      (Script.run Session.query work.run start).1
    rw [transacted]
    exact (begun.around.trans Session.run_around).trans ending.around

/-- Tables that are laid out stay so through a transaction. -/
theorem transact_laid (laid : ledger.tables.isSome = true) :
    (ledger.transact work).2.tables.isSome = true := by
  rcases ledger.transact_cases work with
    ⟨error, after, transacted, _, _, same, _⟩ | ⟨start, begun, _, _, transacted⟩
  · rw [transacted, same]
    exact laid
  · have saved : (Script.run Session.query work.run start).2.saved.isSome = true := by
      rw [Session.run_saved, begun.saved]
      exact laid
    have seen : (Script.run Session.query work.run start).2.ledger.tables.isSome = true :=
      Session.run_laid (begun.tables ▸ laid) (begun.saved ▸ laid)
    obtain ⟨_, kept, undone⟩ := (Script.run Session.query work.run start).2.conclude_ending
      (Script.run Session.query work.run start).1
    rw [transacted]
    by_cases stays : (∃ value, (Script.run Session.query work.run start).1 = .ok value) ∧
        (Script.run Session.query work.run start).2.standing = .running ∧
        (Script.run Session.query work.run start).2.commit.1 = .ok ()
    · rw [kept stays.1 stays.2.1 stays.2.2]
      exact seen
    · rw [undone stays]
      exact saved

/-- The statements of a transaction are such as its work asks. -/
theorem kind_of_mem_exchanges {kind : Query → Prop} (asks : work.run.Asks kind) :
    ∀ exchange ∈ ledger.exchanges work, kind exchange.query := by
  rcases ledger.transact_cases work with ⟨_, _, _, _, heard, _⟩ | ⟨start, _, _, heard, _⟩
  · rw [heard]
    exact fun _ member => by cases member
  · rw [heard]
    refine Script.mem_notes_of_asks (fun query session here exchange member => ?_) asks
    rw [List.mem_singleton.mp member]
    exact here

/-- The work succeeds, the database refuses none of its statements, and the commit that follows them
is carried out. -/
def Lands : Prop :=
  ∃ value session, ledger.inTransaction work = some (.ok value, session) ∧
    (∀ exchange ∈ ledger.exchanges work, exchange.Answered) ∧ session.commit.1 = .ok ()

variable {work ledger}

/-- A transaction that lands gives what its work gives, and keeps the books of its session. -/
theorem transact_of_lands (lands : ledger.Lands work) : ∃ start session value, Begun ledger start ∧
    Script.run Session.query work.run start = (.ok value, session) ∧
    ledger.exchanges work = Script.notes Session.query Session.heard work.run start ∧
    (∀ exchange ∈ Script.notes Session.query Session.heard work.run start, exchange.Answered) ∧
    (ledger.transact work).1 = .ok value ∧
    (ledger.transact work).2.books = session.ledger.books := by
  obtain ⟨value, session, comes, answered, carried⟩ := lands
  rcases ledger.transact_cases work with
    ⟨_, _, _, nothing, _⟩ | ⟨start, begun, ran, heard, transacted⟩
  · rw [nothing] at comes
    cases comes
  · rw [ran, Option.some.injEq] at comes
    rw [heard] at answered
    have running := (Session.run_executes begun.running answered).1
    rw [comes] at running
    rw [transacted, comes]
    obtain ⟨ending, kept, _⟩ := session.conclude_ending (.ok value : Except StoreError α)
    refine ⟨start, session, value, begun, comes, heard, answered,
      Session.conclude_eq_ok.mpr ⟨rfl, carried⟩, ?_⟩
    rw [Ledger.books, Ledger.books, rows, rows, ending.serials,
      kept ⟨value, rfl⟩ running carried]

/-- The books after a transaction that lands are those of its statements. -/
theorem executes_of_lands (lands : ledger.Lands work) :
    ledger.books.Executes ledger.clock (ledger.exchanges work) (ledger.transact work).2.books := by
  obtain ⟨start, session, value, begun, ran, heard, answered, _, books⟩ := transact_of_lands lands
  have executes := (Session.run_executes begun.running answered).2
  rw [ran, begun.books, begun.around.clock] at executes
  rw [heard, books]
  exact executes

/-- A transaction that does not land leaves the tables as they were. -/
theorem tables_of_not_lands (fails : ¬ ledger.Lands work) :
    (ledger.transact work).2.tables = ledger.tables := by
  rcases ledger.transact_cases work with
    ⟨error, after, transacted, _, _, same, _⟩ | ⟨start, begun, ran, heard, transacted⟩
  · rw [transacted]
    exact same
  · rw [transacted]
    obtain ⟨_, _, undone⟩ := (Script.run Session.query work.run start).2.conclude_ending
      (Script.run Session.query work.run start).1
    rw [undone, Session.run_saved, begun.saved]
    rintro ⟨⟨value, succeeds⟩, running, carried⟩
    refine fails ⟨value, (Script.run Session.query work.run start).2, ?_, ?_, carried⟩
    · rw [ran, ← succeeds]
    · rw [heard]
      exact (Session.answered_of_running running).2

/-- A transaction that fails leaves the tables as they were. -/
theorem tables_of_transact_error {error : StoreError}
    (fails : (ledger.transact work).1 = .error error) :
    (ledger.transact work).2.tables = ledger.tables := by
  refine tables_of_not_lands fun lands => ?_
  obtain ⟨_, _, value, _, _, _, _, gives, _⟩ := transact_of_lands lands
  rw [gives] at fails
  cases fails

theorem rows_of_transact_error {error : StoreError}
    (fails : (ledger.transact work).1 = .error error) :
    (ledger.transact work).2.rows = ledger.rows := by
  rw [rows, rows, tables_of_transact_error fails]

/-- With no fault in wait for a commit, a work that succeeds without a refusal lands. -/
theorem lands_of_calm {value : α} {session : Session}
    (comes : ledger.inTransaction work = some (.ok value, session))
    (answered : ∀ exchange ∈ ledger.exchanges work, exchange.Answered)
    (calm : ∀ fault ∈ ledger.faults, fault.verb ≠ .commit) : ledger.Lands work := by
  refine ⟨value, session, comes, answered, ?_⟩
  rcases ledger.transact_cases work with
    ⟨_, _, _, nothing, _⟩ | ⟨start, begun, ran, heard, _⟩
  · rw [nothing] at comes
    cases comes
  · rw [ran, Option.some.injEq] at comes
    rw [heard] at answered
    have running := (Session.run_executes begun.running answered).1
    have around : Around ledger (Script.run Session.query work.run start).2.ledger :=
      begun.around.trans Session.run_around
    rw [comes] at running around
    refine Session.commit_eq_ok running fun fault member => ?_
    obtain ⟨waiting, inside, left⟩ := around.faults fault member
    rw [← left.verb]
    exact calm waiting inside

/-- A transaction that succeeds without a refusal lands. -/
theorem lands_of_ok {value : α} (succeeds : (ledger.transact work).1 = .ok value)
    (answered : ∀ exchange ∈ ledger.exchanges work, exchange.Answered) : ledger.Lands work := by
  rcases ledger.transact_cases work with
    ⟨error, after, transacted, _⟩ | ⟨start, begun, ran, heard, transacted⟩
  · rw [transacted] at succeeds
    cases succeeds
  · rw [transacted, Session.conclude_eq_ok] at succeeds
    refine ⟨value, (Script.run Session.query work.run start).2, ?_, answered, succeeds.2⟩
    rw [ran, ← succeeds.1]

theorem transact_error {cause : StoreError} {session : Session}
    (comes : ledger.inTransaction work = some (.error cause, session))
    (undone : session.rollback.1 = .ok ()) : (ledger.transact work).1 = .error cause := by
  rcases ledger.transact_cases work with
    ⟨_, _, _, nothing, _⟩ | ⟨start, _, ran, _, transacted⟩
  · rw [nothing] at comes
    cases comes
  · rw [ran, Option.some.injEq] at comes
    rw [transacted, comes]
    exact Session.conclude_error undone

/-- **All or nothing.** The rows after a transaction that lands are those of all its statements
applied one after another, with the replies that the work heard; after any other they are those
before it. What stands between a work that succeeds without a refusal and its landing is a failure
of the commit alone. A work that fails and is rolled back gives its own error. -/
theorem transact_all_or_nothing (work : Work α) (ledger : Ledger) :
    (ledger.Lands work →
      (ledger.transact work).2.rows =
        (ledger.books.replay ledger.clock ((ledger.exchanges work).map (·.query))).rows ∧
      ledger.books.Executes ledger.clock (ledger.exchanges work)
        (ledger.transact work).2.books) ∧
    (¬ ledger.Lands work → (ledger.transact work).2.rows = ledger.rows) ∧
    (∀ value session, ledger.inTransaction work = some (.ok value, session) →
      (∀ exchange ∈ ledger.exchanges work, exchange.Answered) →
      (∀ fault ∈ ledger.faults, fault.verb ≠ .commit) → ledger.Lands work) ∧
    (∀ cause session, ledger.inTransaction work = some (.error cause, session) →
      session.rollback.1 = .ok () → (ledger.transact work).1 = .error cause) := by
  refine ⟨fun lands => ?_, fun fails => ?_, fun _ _ => lands_of_calm, fun _ _ => transact_error⟩
  · have executes := executes_of_lands lands
    refine ⟨?_, executes⟩
    rw [← executes.eq_replay]
    rfl
  · rw [rows, rows, tables_of_not_lands fails]

/-- A user to be stored. -/
def bob : NewUser :=
  ⟨"bob", "Bob", "bob@example.com"⟩

/-- Empty tables, with a fault in wait for a commit. -/
def uncommitted : Ledger :=
  { fresh with
    faults := [⟨.commit, none, 0, .refused (.other "40001" "could not serialize access")⟩] }

/-- A work that succeeds without a refusal does not land when its commit fails: the rows are not
those of its statements. -/
theorem transact_uncommitted :
    (∃ value session,
      uncommitted.inTransaction (Work.createUser bob) = some (.ok value, session)) ∧
    (∀ exchange ∈ uncommitted.exchanges (Work.createUser bob), exchange.Answered) ∧
    (uncommitted.transact (Work.createUser bob)).2.rows ≠
      (uncommitted.books.replay uncommitted.clock
        ((uncommitted.exchanges (Work.createUser bob)).map (·.query))).rows := by
  refine ⟨⟨_, _, rfl⟩, fun exchange member => ?_, by decide⟩
  rw [List.mem_singleton.mp member]
  exact ⟨_, rfl⟩

end Passbook.Ledger

/-! ### Batches -/

namespace Passbook

open Ledger (Query)

/-- A batch as one work. -/
def Batch.work {α : Type} (batch : Batch α) : Work Unit :=
  ExceptT.mk <| (Batch.script batch.tolerant batch.verdict batch.works).bind fun outcomes =>
    .done outcomes.2

theorem Ledger.batch_eq_transact {α : Type} (batch : Batch α) (ledger : Ledger) :
    (ledger.batch batch).2 = ledger.transact batch.work := by
  unfold Ledger.batch Ledger.transact
  rcases ledger.begin with ⟨_ | session, after⟩
  · rfl
  · show _ = ((Script.bind _ _).run Ledger.Session.query session).2.conclude
      ((Script.bind _ _).run Ledger.Session.query session).1
    rw [Script.run_bind]
    rfl

end Passbook
