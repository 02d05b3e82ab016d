/-
**Sessions: statements between the beginning and the end of a transaction.**

* `Session.query_cases` — a statement in a transaction. One that fails ends the session's run:
  nothing further is executed, and the rows are those seen so far or those of the start.
* `Session.run_executes` — as long as every statement is answered, the session goes on and its books
  are those of the statements executed one after another.
* `Session.answered_of_running` — a session that still runs has answered everything.
* `Session.conclude_ending` — the end of a transaction keeps the rows of the session exactly when
  the work succeeded, the session still runs and the commit is carried out.
* `Session.conclude_eq_ok` — a success is answered when the work succeeded and the commit raised no
  error; whether the session still runs is not looked at.
-/

import Passbook.Proofs.Ledger.Statement
import Passbook.Proofs.Script

namespace Passbook.Ledger

namespace Session

/-- What a statement and its reply tell. -/
def heard (query : Query) (session : Session) : List Exchange :=
  [⟨query, (session.query query).1⟩]

/-- A statement failed in a session, which does not go on. -/
structure Failing (query : Query) (before after : Session) : Prop where
  standing : after.standing ≠ .running
  saved : after.saved = before.saved
  tables : after.ledger.tables = before.ledger.tables ∨ after.ledger.tables = before.saved
  serials : after.ledger.serials = before.ledger.serials ∨
    after.ledger.serials = (before.ledger.serials.take query).2
  around : Around before.ledger after.ledger

/-- A statement was executed in a session, which goes on. -/
structure Answering (query : Query) (answer : query.Answer) (before after : Session) : Prop where
  ran : before.standing = .running
  runs : after.standing = .running
  saved : after.saved = before.saved
  books : before.ledger.books.execute before.ledger.clock query = .ok (answer, after.ledger.books)
  laid : after.ledger.tables.isSome = true
  around : Around before.ledger after.ledger

theorem query_cases (query : Query) (session : Session) :
    (∃ error after, session.query query = (.error error, after) ∧
      Failing query session after) ∨
    (∃ answer after, session.query query = (.ok answer, after) ∧
      Answering query answer session after) := by
  unfold Session.query
  cases standing : session.standing with
  | lost =>
    refine .inl ⟨_, session, rfl, ?_, rfl, .inl rfl, .inl rfl, .refl _⟩
    simp [standing]
  | aborted =>
    refine .inl ⟨_, session, rfl, ?_, rfl, .inl rfl, .inl rfl, .refl _⟩
    simp [standing]
  | running =>
    rcases session.ledger.attempt_cases query with
      ⟨failure, ledger, met, failing⟩ | ⟨answer, ledger, met, answering⟩
    · rw [met]
      cases failure with
      | refused refusal =>
        exact .inl ⟨_, _, rfl, by simp [afterFailure], rfl, .inl failing.tables, failing.serials,
          failing.around⟩
      | disconnected =>
        exact .inl ⟨_, _, rfl, by simp [afterFailure], rfl, .inr rfl, failing.serials,
          failing.around.clock, failing.around.access, failing.around.faults⟩
    · rw [met]
      exact .inr ⟨answer, _, rfl, standing, rfl, rfl, answering.books, answering.laid,
        answering.around⟩

/-- Whatever becomes of a statement, the numbers move as its exchange says. -/
theorem hands_query (query : Query) (session : Session) :
    session.ledger.serials.Hands ⟨query, (session.query query).1⟩
      (session.query query).2.ledger.serials := by
  rcases session.query_cases query with
    ⟨error, after, met, failing⟩ | ⟨answer, after, met, answering⟩
  · rw [met]
    rcases failing.serials with same | taken
    · rw [same]
      exact .kept error
    · rw [taken]
      exact .wasted error
  · rw [met]
    exact Serials.hands_of_execute answering.books

variable {α : Type} {script : Script Query Query.Reply α} {session : Session}

/-- Where all is answered, the first statement is, and so is all after it. -/
theorem answering_of_answered {query : Query} {next : query.Reply → Script Query Query.Reply α}
    (answered : ∀ exchange ∈ (Script.ask query next).notes Session.query heard session,
      exchange.Answered) :
    ∃ answer after, session.query query = (.ok answer, after) ∧
      Answering query answer session after ∧
      ∀ exchange ∈ (next (.ok answer)).notes Session.query heard after, exchange.Answered := by
  rcases session.query_cases query with ⟨error, after, met, _⟩ | ⟨answer, after, met, answering⟩
  · obtain ⟨answer, unexpected⟩ := answered ⟨query, (session.query query).1⟩ (by simp [heard])
    rw [met] at unexpected
    cases unexpected
  · refine ⟨answer, after, met, answering, fun exchange member => answered exchange ?_⟩
    rw [Script.notes_ask, met]
    exact List.mem_append_right _ member

/-- **As long as all is answered, the statements are executed.** -/
theorem run_executes (running : session.standing = .running)
    (answered : ∀ exchange ∈ script.notes Session.query heard session, exchange.Answered) :
    (script.run Session.query session).2.standing = .running ∧
      session.ledger.books.Executes session.ledger.clock (script.notes Session.query heard session)
        (script.run Session.query session).2.ledger.books := by
  induction script generalizing session with
  | done result => exact ⟨running, .nil _⟩
  | ask query next ih =>
    obtain ⟨answer, after, met, answering, later⟩ := answering_of_answered answered
    obtain ⟨stands, executes⟩ := ih (.ok answer) answering.runs later
    rw [answering.around.clock] at executes
    simp only [Script.run_ask, Script.notes_ask, heard, met, List.singleton_append]
    exact ⟨stands, .cons answering.books executes⟩

/-- **A session that still runs has answered everything.** -/
theorem answered_of_running
    (running : (script.run Session.query session).2.standing = .running) :
    session.standing = .running ∧
      ∀ exchange ∈ script.notes Session.query heard session, exchange.Answered := by
  induction script generalizing session with
  | done result => exact ⟨running, fun _ member => by cases member⟩
  | ask query next ih =>
    rcases session.query_cases query with
      ⟨error, after, met, failing⟩ | ⟨answer, after, met, answering⟩
    · rw [Script.run_ask, met] at running
      exact absurd (ih _ running).1 failing.standing
    · rw [Script.run_ask, met] at running
      refine ⟨answering.ran, fun exchange member => ?_⟩
      rw [Script.notes_ask, heard, met] at member
      rcases List.mem_append.mp member with here | later
      · rw [List.mem_singleton] at here
        subst here
        exact ⟨answer, rfl⟩
      · exact (ih _ running).2 exchange later

theorem run_saved : (script.run Session.query session).2.saved = session.saved := by
  induction script generalizing session with
  | done result => rfl
  | ask query next ih =>
    rw [Script.run_ask, ih]
    rcases session.query_cases query with ⟨_, _, met, failing⟩ | ⟨_, _, met, answering⟩
    · rw [met, failing.saved]
    · rw [met, answering.saved]

theorem run_around : Around session.ledger (script.run Session.query session).2.ledger := by
  induction script generalizing session with
  | done result => exact .refl _
  | ask query next ih =>
    rw [Script.run_ask]
    rcases session.query_cases query with ⟨_, _, met, failing⟩ | ⟨_, _, met, answering⟩
    · rw [met]
      exact failing.around.trans (ih _)
    · rw [met]
      exact answering.around.trans (ih _)

/-- A session whose tables are laid out sees tables throughout. -/
theorem run_laid (laid : session.ledger.tables.isSome = true)
    (saved : session.saved.isSome = true) :
    (script.run Session.query session).2.ledger.tables.isSome = true := by
  induction script generalizing session with
  | done result => exact laid
  | ask query next ih =>
    rw [Script.run_ask]
    rcases session.query_cases query with ⟨_, _, met, failing⟩ | ⟨_, _, met, answering⟩
    · rw [met]
      refine ih _ ?_ (by rw [failing.saved]; exact saved)
      rcases failing.tables with same | undone
      · rw [same]
        exact laid
      · rw [undone]
        exact saved
    · rw [met]
      exact ih _ answering.laid (by rw [answering.saved]; exact saved)

/-! ### The end of a transaction -/

/-- The ledger after a transaction has the rows of the session or those that were saved. -/
structure Ending (session : Session) (after : Ledger) : Prop where
  serials : after.serials = session.ledger.serials
  around : Around session.ledger after

/-- A rollback goes back to the rows that were saved, even if it fails. -/
theorem rollback_ending (session : Session) :
    session.Ending session.rollback.2 ∧ session.rollback.2.tables = session.saved := by
  unfold rollback
  obtain ⟨failure, faults, noted, left, _⟩ := session.ledger.note_eq .rollback
  cases session.standing with
  | lost => exact ⟨⟨rfl, .of_eq rfl rfl rfl⟩, rfl⟩
  | running | aborted =>
    simp only [noted]
    cases failure with
    | some failure => exact ⟨⟨rfl, rfl, rfl, left⟩, rfl⟩
    | none => exact ⟨⟨rfl, rfl, rfl, left⟩, rfl⟩

/-- A commit keeps the rows of a session that still runs, if it is carried out, and only those. -/
theorem commit_ending (session : Session) :
    session.Ending session.commit.2 ∧
      (session.standing = .running → session.commit.1 = .ok () →
        session.commit.2.tables = session.ledger.tables) ∧
      (¬ (session.standing = .running ∧ session.commit.1 = .ok ()) →
        session.commit.2.tables = session.saved) := by
  unfold commit
  obtain ⟨failure, faults, noted, left, _⟩ := session.ledger.note_eq .commit
  cases session.standing with
  | lost => exact ⟨⟨rfl, .of_eq rfl rfl rfl⟩, fun running => (by cases running), fun _ => rfl⟩
  | running =>
    simp only [noted]
    cases failure with
    | some failure =>
      exact ⟨⟨rfl, rfl, rfl, left⟩, fun _ carried => (by cases carried), fun _ => rfl⟩
    | none =>
      exact ⟨⟨rfl, rfl, rfl, left⟩, fun _ _ => rfl, fun fails => absurd ⟨trivial, rfl⟩ fails⟩
  | aborted =>
    simp only [noted]
    cases failure with
    | some failure => exact ⟨⟨rfl, rfl, rfl, left⟩, fun running => (by cases running), fun _ => rfl⟩
    | none => exact ⟨⟨rfl, rfl, rfl, left⟩, fun running => (by cases running), fun _ => rfl⟩

/-- Where no fault waits for a commit, the commit of a session that still runs is carried out. -/
theorem commit_eq_ok {session : Session} (running : session.standing = .running)
    (calm : ∀ fault ∈ session.ledger.faults, fault.verb ≠ .commit) : session.commit.1 = .ok () := by
  obtain ⟨failure, faults, noted, _, strikes, _⟩ := session.ledger.note_eq .commit
  have spared : failure = none := strikes calm
  subst spared
  simp only [commit, running, noted]

theorem conclude_error_ledger (session : Session) (cause : StoreError) :
    (session.conclude (.error cause : Except StoreError α)).2 = session.rollback.2 := by
  unfold conclude
  rcases session.rollback with ⟨_ | _, ledger⟩ <;> rfl

theorem conclude_ok_ledger (session : Session) (value : α) :
    (session.conclude (.ok value : Except StoreError α)).2 = session.commit.2 := by
  unfold conclude
  rcases session.commit with ⟨_ | _, ledger⟩ <;> rfl

/-- **The end of a transaction.** The rows of the session stay exactly when the work succeeded, the
session still runs and the commit is carried out. -/
theorem conclude_ending (session : Session) (result : Except StoreError α) :
    session.Ending (session.conclude result).2 ∧
      ((∃ value, result = .ok value) → session.standing = .running → session.commit.1 = .ok () →
        (session.conclude result).2.tables = session.ledger.tables) ∧
      (¬ ((∃ value, result = .ok value) ∧ session.standing = .running ∧
          session.commit.1 = .ok ()) →
        (session.conclude result).2.tables = session.saved) := by
  cases result with
  | error cause =>
    rw [conclude_error_ledger]
    obtain ⟨ending, undone⟩ := session.rollback_ending
    exact ⟨ending, fun ⟨value, wrong⟩ => (by cases wrong), fun _ => undone⟩
  | ok value =>
    rw [conclude_ok_ledger]
    obtain ⟨ending, kept, undone⟩ := session.commit_ending
    refine ⟨ending, fun _ => kept, fun fails => undone ?_⟩
    exact fun ⟨running, carried⟩ => fails ⟨⟨value, rfl⟩, running, carried⟩

/-- A success is answered only when the work succeeded and the commit raised no error. -/
theorem conclude_eq_ok {session : Session} {result : Except StoreError α} {value : α} :
    (session.conclude result).1 = .ok value ↔
      result = .ok value ∧ session.commit.1 = .ok () := by
  cases result with
  | error cause =>
    unfold conclude
    rcases session.rollback with ⟨_ | _, ledger⟩ <;> simp
  | ok given =>
    unfold conclude
    rcases session.commit with ⟨_ | _, ledger⟩ <;> simp

theorem conclude_error {session : Session} {cause : StoreError}
    (undone : session.rollback.1 = .ok ()) :
    (session.conclude (.error cause : Except StoreError α)).1 = .error cause := by
  unfold conclude
  cases rolled : session.rollback with
  | mk outcome ledger =>
    rw [rolled] at undone
    subst undone
    rfl

end Session

end Passbook.Ledger
