/-
**How transactions of strict works end.**

A strict work that stores no U+0000 ends in a transaction as it does on the books alone, unless the
ledger is in trouble: no connection is given out, or a fault strikes.

* `StoreError.origin` — the first failure, below all rollbacks that failed after it.
* `Ledger.Trouble` — the failures that do not come from the rows.
* `Ledger.Hindrance query ledger error` — what keeps a statement from the rows.
* **`Ledger.hindered_or_refused`** — a statement that fails is hindered, or refused by the rows;
  `query_outcome` — what becomes of a statement.
* **`transact_outcome`** — a transaction gives what its work gives on the books, or it fails, and
  then from trouble or from the failure of the work.
* **`Calm.transact`** — in a calm ledger it gives just what its work gives on the books.
-/

import Passbook.Proofs.Ledger.Failure
import Passbook.Proofs.Store.Strict

namespace Passbook

open Ledger (Query Books Session Failure)
open Time (Instant)

/-- The first failure, below the rollbacks that failed after it. -/
def StoreError.origin : StoreError → StoreError
  | rollback cause _ => cause.origin
  | error => error

theorem StoreError.code?_origin (error : StoreError) : error.origin.code? = error.code? := by
  induction error with
  | rollback cause failure ih => exact ih
  | database _ | commitInterrupted _ | accountNotFound _ | insufficientFunds _ _
  | invalidAmount _ => rfl

variable {α : Type}

namespace Ledger

/-- A statement whose texts can be stored. -/
def Query.Clean (query : Query) : Prop :=
  query.hasNul = false

/-- A failure for want of a connection, or that of a fault in waiting. -/
def Trouble (ledger : Ledger) (error : DatabaseError) : Prop :=
  ledger.access.check = .error error ∨ ∃ fault ∈ ledger.faults, fault.failure.error = error

theorem Trouble.of_around {before after : Ledger} (around : Around before after)
    {fault : Fault} (waiting : fault ∈ after.faults) : before.Trouble fault.failure.error := by
  obtain ⟨earlier, inside, left⟩ := around.faults fault waiting
  exact .inr ⟨earlier, inside, congrArg Failure.error left.failure⟩

/-- Trouble of a ledger was there before. -/
theorem Trouble.earlier {before after : Ledger} (around : Around before after)
    {error : DatabaseError} (trouble : after.Trouble error) : before.Trouble error := by
  rcases trouble with refused | ⟨fault, waiting, rfl⟩
  · exact .inl (around.access ▸ refused)
  · exact .of_around around waiting

theorem Calm.not_trouble {ledger : Ledger} (calm : ledger.Calm) {error : DatabaseError} :
    ¬ ledger.Trouble error := by
  rintro (refused | ⟨fault, waiting, _⟩)
  · rw [calm.granted] at refused
    cases refused
  · rw [calm.faultless] at waiting
    cases waiting

/-- What keeps a statement from the rows: trouble, a text that cannot be stored, or a table that is
not there. -/
inductive Hindrance (query : Query) (ledger : Ledger) : DatabaseError → Prop
  | trouble {error : DatabaseError} (trouble : ledger.Trouble error) :
    Hindrance query ledger error
  | nulInText (hasNul : query.hasNul = true) : Hindrance query ledger (.ofRefusal .nulInText)
  | unlaid (absent : ledger.tables = none) :
    Hindrance query ledger (.ofRefusal (.missingTable query.table))

/-- **A statement that fails** is hindered, or refused by the rows. -/
theorem hindered_or_refused {query : Query} {ledger : Ledger} {error : DatabaseError}
    (fails : (ledger.query query).1 = .error error) :
    Hindrance query ledger error ∨
      ∃ refusal, error = .ofRefusal refusal ∧
        ledger.books.execute ledger.clock query = .error refusal := by
  rcases cause_of_query fails with refused | ⟨failure, rfl, cause⟩
  · exact .inl (.trouble (.inl refused))
  · cases cause with
    | nulInText hasNul => exact .inl (.nulInText hasNul)
    | unlaid absent => exact .inl (.unlaid absent)
    | @struck fault waiting => exact .inl (.trouble (.inr ⟨fault, waiting, rfl⟩))
    | refused refuses => exact .inr ⟨_, rfl, refuses⟩

/-- **A statement** is hindered, or refused by the rows, or executed on them. -/
theorem query_outcome (query : Query) (ledger : Ledger) :
    (∃ error, (ledger.query query).1 = .error error ∧ Hindrance query ledger error ∧
      Failing query ledger (ledger.query query).2) ∨
    (∃ refusal, (ledger.query query).1 = .error (.ofRefusal refusal) ∧
      ledger.books.execute ledger.clock query = .error refusal ∧
      Failing query ledger (ledger.query query).2) ∨
    ∃ answer, (ledger.query query).1 = .ok answer ∧
      Answering query answer ledger (ledger.query query).2 := by
  rcases ledger.query_cases query with
    ⟨error, after, met, failing⟩ | ⟨answer, after, met, answering⟩
  · rcases hindered_or_refused (congrArg Prod.fst met) with hindrance | ⟨refusal, rfl, refuses⟩
    · exact .inl ⟨error, congrArg Prod.fst met, hindrance, by rw [met]; exact failing⟩
    · exact .inr (.inl ⟨refusal, congrArg Prod.fst met, refuses, by rw [met]; exact failing⟩)
  · exact .inr (.inr ⟨answer, congrArg Prod.fst met, by rw [met]; exact answering⟩)

theorem laid_of_attempt {query : Query} {ledger : Ledger} {answer : query.Answer}
    (answered : (ledger.attempt query).1 = .ok answer) : ledger.tables.isSome = true := by
  cases absent : ledger.tables with
  | some _ => rfl
  | none =>
    unfold attempt at answered
    by_cases nul : query.hasNul = true
    · rw [if_pos nul] at answered
      cases answered
    · rw [if_neg nul, absent] at answered
      cases answered

/-- A statement is answered only where tables are laid out. -/
theorem laid_of_answered {query : Query} {ledger : Ledger} {answer : query.Answer}
    (answered : (ledger.query query).1 = .ok answer) : ledger.tables.isSome = true := by
  unfold Ledger.query at answered
  cases access : ledger.access.check with
  | error error =>
    rw [access] at answered
    cases answered
  | ok _ =>
    rw [access] at answered
    exact laid_of_attempt (mapError_eq_ok.mp answered)

/-- Where texts can be stored, trouble or missing tables hinder a statement. -/
theorem Hindrance.reason {query : Query} {ledger : Ledger} {error : DatabaseError}
    (hindrance : Hindrance query ledger error) (clean : query.Clean) :
    ledger.Trouble error ∨ ledger.tables = none := by
  cases hindrance with
  | trouble trouble => exact .inl trouble
  | nulInText hasNul => exact absurd hasNul (by rw [clean]; exact Bool.false_ne_true)
  | unlaid absent => exact .inr absent

/-- Where tables are laid out as well, nothing but trouble does. -/
theorem Hindrance.trouble_of_clean {query : Query} {ledger : Ledger} {error : DatabaseError}
    (hindrance : Hindrance query ledger error) (clean : query.Clean)
    (laid : ledger.tables.isSome = true) : ledger.Trouble error := by
  rcases hindrance.reason clean with trouble | absent
  · exact trouble
  · rw [absent] at laid
    cases laid

/-- A statement that the rows answer is answered, unless something hinders it. -/
theorem query_executed {query : Query} {ledger : Ledger} {answer : query.Answer} {next : Books}
    (executed : ledger.books.execute ledger.clock query = .ok (answer, next)) :
    (ledger.query query).1 = .ok answer ∨
      ∃ error, (ledger.query query).1 = .error error ∧ Hindrance query ledger error := by
  cases replied : (ledger.query query).1 with
  | ok given =>
    have same := (answering_of_query replied).books.symm.trans executed
    rw [Except.ok.injEq, Prod.mk.injEq] at same
    exact .inl (congrArg Except.ok same.1)
  | error error =>
    rcases hindered_or_refused replied with hindrance | ⟨refusal, _, refuses⟩
    · exact .inr ⟨error, rfl, hindrance⟩
    · rw [executed] at refuses
      cases refuses

/-- Where it can be carried out at all, only trouble keeps it from being answered. -/
theorem query_of_execute {query : Query} {ledger : Ledger} (clean : query.Clean)
    (laid : ledger.tables.isSome = true) {answer : query.Answer} {next : Books}
    (executed : ledger.books.execute ledger.clock query = .ok (answer, next)) :
    (ledger.query query).1 = .ok answer ∨
      ∃ error, (ledger.query query).1 = .error error ∧ ledger.Trouble error := by
  rcases query_executed executed with answered | ⟨error, fails, hindrance⟩
  · exact .inl answered
  · exact .inr ⟨error, fails, hindrance.trouble_of_clean clean laid⟩

/-- A calm ledger stays calm, whatever becomes of a statement. -/
theorem Calm.query {ledger : Ledger} (calm : ledger.Calm) (query : Query) :
    (ledger.query query).2.Calm := by
  rcases ledger.query_cases query with
    ⟨error, after, met, failing⟩ | ⟨answer, after, met, answering⟩
  · rw [met]
    exact calm.around failing.around (failing.tables ▸ calm.laid)
  · rw [met]
    exact calm.around answering.around answering.laid

/-- A statement of a calm ledger whose texts can be stored is answered, or refused by the rows. -/
theorem Calm.reply_cases {ledger : Ledger} (calm : ledger.Calm) {query : Query}
    (clean : query.Clean) :
    (∃ answer, (ledger.query query).1 = .ok answer) ∨
    ∃ refusal, (ledger.query query).1 = .error (.ofRefusal refusal) ∧
      ledger.books.execute ledger.clock query = .error refusal := by
  cases replied : (ledger.query query).1 with
  | ok answer => exact .inl ⟨answer, rfl⟩
  | error error =>
    rcases hindered_or_refused replied with hindrance | ⟨refusal, rfl, refuses⟩
    · exact absurd (hindrance.trouble_of_clean clean calm.laid) calm.not_trouble
    · exact .inr ⟨refusal, rfl, refuses⟩

/-! ### Sessions -/

namespace Session

theorem cause_of_query {query : Query} {session after : Session} {error : DatabaseError}
    (running : session.standing = .running)
    (fails : session.query query = (.error error, after)) :
    ∃ failure, error = failure.error ∧ Cause query session.ledger failure ∧
      (failure ≠ .disconnected → after.standing = .aborted) := by
  simp only [Session.query, running] at fails
  cases attempted : session.ledger.attempt query with
  | mk outcome ledger =>
    rw [attempted] at fails
    cases outcome with
    | ok answer => cases fails
    | error failure =>
      cases fails
      refine ⟨failure, rfl, cause_of_attempt attempted, fun connected => ?_⟩
      cases failure with
      | refused refusal => rfl
      | disconnected => exact absurd rfl connected

variable {script : Script Query Query.Reply (Except StoreError α)} {session : Session}

/-- A failure that a strict script hears is what it ends with. -/
theorem error_of_heard (strict : script.Strict) {exchange : Exchange} {error : DatabaseError}
    (heard : exchange ∈ script.notes Session.query Session.heard session)
    (fails : exchange.reply = .error error) :
    (script.run Session.query session).1 = .error (.database error) := by
  induction script generalizing session with
  | done result => cases heard
  | ask query next ih =>
    rcases session.query_cases query with ⟨problem, after, met, _⟩ | ⟨answer, after, met, _⟩
    · rw [Script.notes_ask, Session.heard, met, strict.1 problem] at heard
      rw [Script.run_ask, met, strict.1 problem]
      rw [List.mem_singleton.mp heard] at fails
      cases fails
      rfl
    · rw [Script.notes_ask, Session.heard, met] at heard
      rw [Script.run_ask, met]
      rcases List.mem_append.mp heard with here | later
      · rw [List.mem_singleton.mp here] at fails
        cases fails
      · exact ih _ (strict.2 answer) later

/-- **A strict script ends in a session as on the books**, unless a fault strikes. -/
theorem run_outcome (strict : script.Strict) (clean : script.Asks Query.Clean)
    (running : session.standing = .running) (laid : session.ledger.tables.isSome = true) :
    (script.run Session.query session).1 =
        (script.run (Books.reply session.ledger.clock) session.ledger.books).1 ∨
      ∃ fault ∈ session.ledger.faults,
        (script.run Session.query session).1 = .error (.database fault.failure.error) := by
  induction script generalizing session with
  | done result => exact .inl rfl
  | ask query next ih =>
    rcases session.query_cases query with ⟨error, after, met, _⟩ | ⟨answer, after, met, answering⟩
    · obtain ⟨failure, rfl, cause, _⟩ := cause_of_query running met
      rw [Script.run_ask, Script.run_ask, met, strict.1]
      cases cause with
      | nulInText hasNul => exact absurd hasNul (by rw [clean.1]; exact Bool.false_ne_true)
      | unlaid absent =>
        rw [absent] at laid
        cases laid
      | @struck fault waiting => exact .inr ⟨fault, waiting, rfl⟩
      | refused refuses =>
        refine .inl ?_
        simp only [Books.reply, refuses, strict.1]
        rfl
    · rw [Script.run_ask, Script.run_ask, met, Books.reply_of_execute answering.books,
        ← answering.around.clock]
      rcases ih (.ok answer) (strict.2 answer) (clean.2 _) answering.runs answering.laid with
        same | ⟨fault, waiting, strikes⟩
      · exact .inl same
      · obtain ⟨earlier, inside, left⟩ := answering.around.faults fault waiting
        exact .inr ⟨earlier, inside, by rw [left.failure]; exact strikes⟩

end Session

/-! ### Transactions -/

theorem trouble_of_begin {ledger after : Ledger} {error : DatabaseError}
    (fails : ledger.begin = (.error error, after)) : ledger.Trouble error := by
  unfold Ledger.begin at fails
  cases access : ledger.access.check with
  | error problem =>
    simp only [access] at fails
    cases fails
    exact .inl access
  | ok _ =>
    obtain ⟨met, faults, noted, _, _, strikes⟩ := ledger.note_eq .begin
    simp only [access, noted] at fails
    cases met with
    | none => cases fails
    | some failure =>
      cases fails
      obtain ⟨fault, waiting, its⟩ := strikes failure rfl
      exact .inr ⟨fault, waiting, by rw [its]⟩

/-- A success of a session that still runs is kept, unless a fault strikes the commit. -/
theorem Session.conclude_running {session : Session} (running : session.standing = .running)
    (value : α) : (session.conclude (.ok value)).1 = .ok value ∨
      ∃ fault ∈ session.ledger.faults,
        (session.conclude (.ok value : Except StoreError α)).1 =
          .error (.database fault.failure.error) := by
  obtain ⟨met, faults, noted, _, _, strikes⟩ := session.ledger.note_eq .commit
  simp only [conclude, commit, running, noted]
  cases met with
  | none => exact .inl rfl
  | some failure =>
    obtain ⟨fault, waiting, its⟩ := strikes failure rfl
    exact .inr ⟨fault, waiting, by rw [its]⟩

/-- The end of a transaction that failed adds at most the failure of its rollback. -/
theorem Session.origin_of_conclude (session : Session) (cause : StoreError) : ∃ error,
    (session.conclude (.error cause : Except StoreError α)).1 = .error error ∧
      error.origin = cause.origin := by
  unfold conclude
  rcases session.rollback with ⟨failure | _, ledger⟩
  · exact ⟨.rollback cause failure, rfl, rfl⟩
  · exact ⟨cause, rfl, rfl⟩

variable {work : Work α} {ledger : Ledger}

/-- The session of a transaction, from its beginning to its end. -/
theorem transact_begun (work : Work α) {start : Session} {after : Ledger}
    (begins : ledger.begin = (.ok start, after)) : Begun ledger start ∧
      ledger.transact work = (Script.run Session.query work.run start).2.conclude
        (Script.run Session.query work.run start).1 := by
  refine ⟨?_, by rw [transact, begins]⟩
  rcases ledger.begin_cases with ⟨_, _, met, _⟩ | ⟨session, _, met, begun⟩
  · rw [begins] at met
    cases met
  · rw [begins] at met
    cases met
    exact begun

/-- **The outcome of a transaction** is that of its work on the books, or a failure that comes from
trouble or from the failure of its work. -/
theorem transact_outcome (strict : work.Strict) (clean : work.run.Asks Query.Clean)
    (laid : ledger.tables.isSome = true) :
    (ledger.transact work).1 = (ledger.books.perform ledger.clock work).1 ∨
      ∃ error, (ledger.transact work).1 = .error error ∧
        ((∃ trouble, ledger.Trouble trouble ∧ error.origin = .database trouble) ∨
          ∃ cause, (ledger.books.perform ledger.clock work).1 = .error cause ∧
            error.origin = cause.origin) := by
  cases begins : ledger.begin with
  | mk outcome after =>
  cases outcome with
  | error problem =>
    refine .inr ⟨.database problem, by rw [transact, begins], .inl ⟨problem, ?_, rfl⟩⟩
    exact trouble_of_begin begins
  | ok start =>
    obtain ⟨begun, transacted⟩ := transact_begun work begins
    have ran := Session.run_outcome strict clean begun.running (begun.tables ▸ laid)
    rw [begun.books, begun.around.clock] at ran
    have around : Around ledger (Script.run Session.query work.run start).2.ledger :=
      begun.around.trans Session.run_around
    rw [transacted]
    cases ended : Script.run Session.query work.run start with
    | mk result session =>
    rw [ended] at ran around
    cases result with
    | error cause =>
      obtain ⟨error, gives, origin⟩ := session.origin_of_conclude (α := α) cause
      refine .inr ⟨error, gives, ?_⟩
      rcases ran with same | ⟨fault, waiting, strikes⟩
      · exact .inr ⟨cause, same.symm, origin⟩
      · rw [Except.error.injEq] at strikes
        rw [strikes] at origin
        exact .inl ⟨_, .of_around begun.around waiting, origin⟩
    | ok value =>
      have answered := Session.answered_of_ok strict (congrArg Prod.fst ended)
      have running := (Session.run_executes begun.running answered).1
      rw [ended] at running
      have same : .ok value = (ledger.books.perform ledger.clock work).1 := by
        rcases ran with same | ⟨_, _, strikes⟩
        · exact same
        · cases strikes
      rcases Session.conclude_running running value with kept | ⟨fault, waiting, strikes⟩
      · exact .inl (kept.trans same)
      · exact .inr ⟨_, strikes, .inl ⟨_, .of_around around waiting, rfl⟩⟩

/-- A work that begins with a statement lands only where tables are laid out. -/
theorem laid_of_lands {query : Query}
    {next : query.Reply → Script Query Query.Reply (Except StoreError α)}
    (begins : work.run = .ask query next) (lands : ledger.Lands work) :
    ledger.tables.isSome = true := by
  obtain ⟨start, _, _, begun, _, _, answered, _⟩ := transact_of_lands lands
  rw [begins, Script.notes_ask] at answered
  obtain ⟨answer, first⟩ := answered _ (List.mem_append_left _ (List.mem_singleton_self _))
  have attempted : (start.query query).1 = .ok answer := first
  rw [← begun.tables]
  simp only [Session.query, begun.running] at attempted
  cases met : start.ledger.attempt query with
  | mk outcome after =>
    rw [met] at attempted
    cases outcome with
    | error failure => cases attempted
    | ok given => exact laid_of_attempt (congrArg Prod.fst met)

/-! ### Transactions in a calm ledger -/

/-- Without faults a session is aborted at worst. -/
theorem Session.query_connected {query : Query} {session : Session}
    (faultless : session.ledger.faults = []) (connected : session.standing ≠ .lost) :
    (session.query query).2.standing ≠ .lost := by
  cases standing : session.standing with
  | lost => exact absurd standing connected
  | aborted => simp [Session.query, standing]
  | running =>
    rcases session.query_cases query with ⟨error, after, met, _⟩ | ⟨answer, after, met, answering⟩
    · obtain ⟨failure, _, cause, aborts⟩ := cause_of_query standing met
      have refused : failure ≠ .disconnected := by
        cases cause with
        | nulInText _ | unlaid _ | refused _ => exact Failure.noConfusion
        | struck waiting =>
          rw [faultless] at waiting
          cases waiting
      rw [met, aborts refused]
      exact Standing.noConfusion
    · rw [met, answering.runs]
      exact Standing.noConfusion

theorem Session.run_connected {script : Script Query Query.Reply α} {session : Session}
    (faultless : session.ledger.faults = []) (connected : session.standing ≠ .lost) :
    (script.run Session.query session).2.standing ≠ .lost := by
  induction script generalizing session with
  | done result => exact connected
  | ask query next ih =>
    have around : Around session.ledger ((Script.query query).run Session.query session).2.ledger :=
      Session.run_around
    exact ih _ (around.faultless faultless) (query_connected faultless connected)

theorem Session.rollback_eq_ok {session : Session} (connected : session.standing ≠ .lost)
    (faultless : session.ledger.faults = []) : session.rollback.1 = .ok () := by
  obtain ⟨met, faults, noted, _, spared, _⟩ := session.ledger.note_eq .rollback
  have none_met : met = none := spared fun waiting inside => by
    rw [faultless] at inside
    cases inside
  subst none_met
  unfold rollback
  cases standing : session.standing with
  | lost => exact absurd standing connected
  | running | aborted => simp only [noted]

namespace Calm

variable (calm : ledger.Calm)

include calm

/-- **A transaction in a calm ledger** gives what its work gives on the books. -/
theorem transact_outcome (strict : work.Strict) (clean : work.run.Asks Query.Clean) :
    (ledger.transact work).1 = (ledger.books.perform ledger.clock work).1 := by
  rcases Ledger.transact_outcome strict clean calm.laid with same | ⟨error, fails, reason⟩
  · exact same
  rcases reason with ⟨trouble, met, _⟩ | ⟨cause, comes, _⟩
  · exact absurd met calm.not_trouble
  cases begins : ledger.begin with
  | mk outcome after =>
  cases outcome with
  | error problem => exact absurd (trouble_of_begin begins) calm.not_trouble
  | ok start =>
    obtain ⟨begun, transacted⟩ := transact_begun work begins
    have faultless := begun.around.faultless calm.faultless
    have connected : start.standing ≠ .lost := by
      rw [begun.running]
      exact Standing.noConfusion
    have stays : (Script.run Session.query work.run start).2.standing ≠ .lost :=
      Session.run_connected faultless connected
    have undone := Session.rollback_eq_ok stays (Session.run_around.faultless faultless)
    -- the work failed in its session as it does on the books, and was rolled back
    have ran := Session.run_outcome strict clean begun.running (begun.tables ▸ calm.laid)
    rw [begun.books, begun.around.clock] at ran
    have same : (Script.run Session.query work.run start).1 = .error cause := by
      rcases ran with same | ⟨fault, waiting, _⟩
      · exact same.trans comes
      · rw [faultless] at waiting
        cases waiting
    rw [transacted, same, comes]
    exact Session.conclude_error undone

theorem transact (work : Work α) : (ledger.transact work).2.Calm :=
  calm.around (transact_around work ledger) (transact_laid work ledger calm.laid)

end Calm

end Ledger

end Passbook
