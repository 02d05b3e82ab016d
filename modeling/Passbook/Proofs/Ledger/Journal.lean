/-
**What transactions leave in the journal.**

A `Remark` is an event of the journal with the failure that it met. The connection on which it is
executed is inside a transaction or outside of any; a transaction is over when it is committed or
rolled back, whatever becomes of that, and when the connection is lost.

* `Records before after remarks` — the journal has grown by the events of the remarks.
* `Ledger.remarks`, `Session.remarks`, `Ledger.opening`, `Session.closing` — what a statement, and
  what the beginning and the end of a transaction leave in the journal, and that they record it.
* `Ledger.transactionRemarks work` — what a transaction leaves; `transact_records`.
* `Remark.step` — what an event makes of a connection, if it is not out of place there.
* `Closed remarks` — events that are in place, the last of which leaves the connection outside.
* `Ledger.Course work` — the courses that a transaction can take.
* **`transact_course`** — every work takes one of them; `closed_transaction` — and all are closed.
-/

import Passbook.Proofs.Ledger.Session

namespace Passbook.Ledger

/-- An event of the journal with the failure that it met, if any. -/
structure Remark where
  event : Event
  failure : Option Failure
  deriving DecidableEq

/-- The journal has grown by the events of the remarks. -/
def Records (before after : Ledger) (remarks : List Remark) : Prop :=
  after.journal = (remarks.map Remark.event).reverse ++ before.journal

theorem Records.nil (ledger : Ledger) : Records ledger ledger [] :=
  rfl

theorem Records.append {first second third : Ledger} {before after : List Remark}
    (earlier : Records first second before) (later : Records second third after) :
    Records first third (before ++ after) := by
  rw [Records, later, earlier, List.map_append, List.reverse_append, List.append_assoc]

/-! ### One event -/

variable {α : Type}

/-- The failure of a statement. -/
def failureOf : Except Failure α → Option Failure
  | .ok _ => none
  | .error failure => some failure

/-- What a statement leaves in the journal. One that is refused before it is executed leaves
nothing. -/
def remarks (query : Query) (ledger : Ledger) : List Remark :=
  if query.hasNul = true ∨ ledger.tables = none then []
  else [⟨.query query, failureOf (ledger.attempt query).1⟩]

theorem attempt_records (query : Query) (ledger : Ledger) :
    Records ledger (ledger.attempt query).2 (ledger.remarks query) := by
  unfold remarks attempt
  by_cases nul : query.hasNul = true
  · rw [if_pos nul, if_pos (.inl nul)]
    exact .nil ledger
  rw [if_neg nul]
  cases laid : ledger.tables with
  | none =>
    rw [if_pos (.inr rfl)]
    exact .nil ledger
  | some tables =>
    rw [if_neg (by simp [nul])]
    obtain ⟨failure, faults, noted, _⟩ := ledger.note_eq (.query query)
    simp only [noted]
    cases failure with
    | some failure => rfl
    | none =>
      unfold carryOut
      dsimp only
      split <;> rfl

/-- What a statement on its own leaves in the journal. -/
def ownRemarks (query : Query) (ledger : Ledger) : List Remark :=
  match ledger.access.check with
  | .error _ => []
  | .ok _ => ledger.remarks query

theorem query_records (query : Query) (ledger : Ledger) :
    Records ledger (ledger.query query).2 (ledger.ownRemarks query) := by
  unfold ownRemarks Ledger.query
  cases ledger.access.check with
  | error problem => exact .nil ledger
  | ok _ => exact attempt_records query ledger

/-- What the beginning of a transaction leaves in the journal. -/
def opening (ledger : Ledger) : List Remark :=
  match ledger.access.check with
  | .error _ => []
  | .ok _ => [⟨.begin, (ledger.note .begin).1⟩]

/-- **The beginning of a transaction** fails without a connection, or it is recorded; and then it
fails, or a session begins with it. -/
theorem begin_records (ledger : Ledger) :
    (∃ error, ledger.access.check = .error error ∧ ledger.begin = (.error error, ledger) ∧
      ledger.opening = []) ∨
    (∃ failure after, ledger.begin = (.error (failure : Failure).error, after) ∧
      ledger.opening = [⟨.begin, some failure⟩] ∧ Records ledger after ledger.opening) ∨
    ∃ session after, ledger.begin = (.ok session, after) ∧ session.standing = .running ∧
      ledger.opening = [⟨.begin, none⟩] ∧ Records ledger session.ledger ledger.opening := by
  unfold opening Ledger.begin
  cases access : ledger.access.check with
  | error problem => exact .inl ⟨problem, rfl, rfl, rfl⟩
  | ok _ =>
    obtain ⟨failure, faults, noted, _⟩ := ledger.note_eq .begin
    simp only [noted]
    cases failure with
    | some failure => exact .inr (.inl ⟨failure, _, rfl, rfl, rfl⟩)
    | none => exact .inr (.inr ⟨_, _, rfl, rfl, rfl, rfl⟩)

namespace Session

/-- What a statement in a transaction leaves in the journal. -/
def remarks (query : Query) (session : Session) : List Remark :=
  if session.standing = .running then session.ledger.remarks query else []

theorem query_records (query : Query) (session : Session) :
    Records session.ledger (session.query query).2.ledger (session.remarks query) := by
  unfold remarks Session.query
  cases session.standing with
  | lost | aborted => exact .nil session.ledger
  | running =>
    have attempted := attempt_records query session.ledger
    rw [if_pos rfl]
    revert attempted
    rcases session.ledger.attempt query with ⟨failure | answer, after⟩
    · cases failure <;> exact id
    · exact id

variable {script : Script Query Query.Reply α} {session : Session}

theorem run_records (script : Script Query Query.Reply α) (session : Session) :
    Records session.ledger (script.run Session.query session).2.ledger
      (script.notes Session.query Session.remarks session) := by
  induction script generalizing session with
  | done result => exact .nil session.ledger
  | ask query next ih => exact (session.query_records query).append (ih _ _)

/-- What the end of a transaction leaves in the journal: a commit when the work succeeded and a
rollback when it failed, and nothing when the connection is lost. -/
def closing (result : Except StoreError α) (session : Session) : List Remark :=
  if session.standing = .lost then []
  else
    match result with
    | .ok _ => [⟨.commit, (session.ledger.note .commit).1⟩]
    | .error _ => [⟨.rollback, (session.ledger.note .rollback).1⟩]

theorem conclude_records (result : Except StoreError α) (session : Session) :
    Records session.ledger (session.conclude result).2 (session.closing result) := by
  cases result with
  | error cause =>
    rw [conclude_error_ledger]
    unfold closing rollback
    obtain ⟨failure, faults, noted, _⟩ := session.ledger.note_eq .rollback
    cases session.standing with
    | lost => exact .nil session.ledger
    | running | aborted =>
      simp only [noted]
      cases failure <;> rfl
  | ok value =>
    rw [conclude_ok_ledger]
    unfold closing commit
    obtain ⟨failure, faults, noted, _⟩ := session.ledger.note_eq .commit
    cases session.standing with
    | lost => exact .nil session.ledger
    | running | aborted =>
      simp only [noted]
      cases failure <;> rfl

end Session

/-! ### Transactions -/

/-- What a work in a transaction leaves in the journal. -/
def transactionRemarks (work : Work α) (ledger : Ledger) : List Remark :=
  match ledger.begin with
  | (.error _, _) => ledger.opening
  | (.ok session, _) =>
    ledger.opening ++ (work.run.notes Session.query Session.remarks session ++
      (Script.run Session.query work.run session).2.closing
        (Script.run Session.query work.run session).1)

/-- What a transaction leaves that can be begun. -/
theorem transactionRemarks_of_begin (work : Work α) {ledger after : Ledger} {session : Session}
    (begins : ledger.begin = (.ok session, after)) :
    ledger.transactionRemarks work =
      ledger.opening ++ (work.run.notes Session.query Session.remarks session ++
        (Script.run Session.query work.run session).2.closing
          (Script.run Session.query work.run session).1) ∧
    ledger.transact work = (Script.run Session.query work.run session).2.conclude
      (Script.run Session.query work.run session).1 := by
  rw [transactionRemarks, transact, begins]
  exact ⟨rfl, rfl⟩

theorem transact_records (work : Work α) (ledger : Ledger) :
    Records ledger (ledger.transact work).2 (ledger.transactionRemarks work) := by
  rcases ledger.begin_records with ⟨error, _, begins, opens⟩ |
    ⟨failure, after, begins, _, records⟩ | ⟨session, after, begins, _, _, records⟩
  · rw [transactionRemarks, transact, begins, opens]
    exact .nil ledger
  · rw [transactionRemarks, transact, begins]
    exact records
  · obtain ⟨left, transacted⟩ := transactionRemarks_of_begin work begins
    rw [left, transacted]
    exact records.append ((Session.run_records work.run session).append
      (Session.conclude_records _ _))

/-! ### Connections -/

/-- **What an event makes of its connection**, which is inside a transaction or outside of any: a
transaction begins outside of any and ends inside one, and a statement leaves the connection where
it is unless it loses it. Nothing when the event is out of place. -/
def Remark.step (inside : Bool) (remark : Remark) : Option Bool :=
  match inside, remark.event with
  | false, .begin => some remark.failure.isNone
  | false, .query _ => some false
  | true, .query _ => some (remark.failure != some .disconnected)
  | true, .commit | true, .rollback => some false
  | _, _ => none

/-- All events are in place on a connection outside of any transaction, and leave it so. -/
def Closed (remarks : List Remark) : Prop :=
  remarks.foldlM Remark.step false = some false

theorem Closed.nil : Closed [] :=
  rfl

theorem Closed.append {first second : List Remark} (before : Closed first)
    (after : Closed second) : Closed (first ++ second) := by
  rw [Closed, List.foldlM_append, before]
  exact after

/-- A statement that the connection survives. -/
def Remark.Stays (remark : Remark) : Prop :=
  (∃ query, remark.event = .query query) ∧ remark.failure ≠ some .disconnected

theorem foldlM_of_stays : ∀ {statements : List Remark}, (∀ remark ∈ statements, remark.Stays) →
    statements.foldlM Remark.step true = some true
  | [], _ => rfl
  | remark :: rest, stays => by
    have step : remark.step true = some true := by
      obtain ⟨event, failure⟩ := remark
      obtain ⟨⟨query, rfl⟩, connected⟩ := stays _ List.mem_cons_self
      exact congrArg some (bne_iff_ne.mpr connected)
    rw [List.foldlM_cons, step]
    exact foldlM_of_stays fun other among => stays other (.tail _ among)

/-- **The courses of a transaction** with its answer: there is no connection, it cannot be begun, or
it is begun, and then committed, or rolled back, or its connection is lost in a statement. -/
inductive Course {α : Type} : List Remark → Except StoreError α → Prop
  | unconnected {error : StoreError} : Course [] (.error error)
  | unbegun {failure : Failure} {error : StoreError} :
    Course [⟨.begin, some failure⟩] (.error error)
  | committed {statements : List Remark} {value : α}
    (stays : ∀ remark ∈ statements, remark.Stays) :
    Course (⟨.begin, none⟩ :: (statements ++ [⟨.commit, none⟩])) (.ok value)
  | uncommitted {statements : List Remark} {failure : Failure} {error : StoreError}
    (stays : ∀ remark ∈ statements, remark.Stays) :
    Course (⟨.begin, none⟩ :: (statements ++ [⟨.commit, some failure⟩])) (.error error)
  | undone {statements : List Remark} {failure : Option Failure} {error : StoreError}
    (stays : ∀ remark ∈ statements, remark.Stays) :
    Course (⟨.begin, none⟩ :: (statements ++ [⟨.rollback, failure⟩])) (.error error)
  | broken {statements : List Remark} {query : Query} {error : StoreError}
    (stays : ∀ remark ∈ statements, remark.Stays) :
    Course (⟨.begin, none⟩ :: (statements ++ [⟨.query query, some .disconnected⟩])) (.error error)

/-- A transaction leaves its connection outside. -/
theorem Course.closed {remarks : List Remark} {answer : Except StoreError α}
    (course : Course remarks answer) : Closed remarks := by
  have ends : ∀ {statements : List Remark} {last : Remark}, (∀ remark ∈ statements, remark.Stays) →
      last.step true = some false → Closed (⟨.begin, none⟩ :: (statements ++ [last])) :=
    fun {statements last} stays ended => by
      show ((statements ++ [last]).foldlM Remark.step true) = some false
      rw [List.foldlM_append, foldlM_of_stays stays]
      show (last.step true >>= pure) = some false
      rw [ended]
      rfl
  cases course with
  | unconnected => exact .nil
  | unbegun => rfl
  | committed stays | uncommitted stays | undone stays | broken stays => exact ends stays rfl

/-! ### The statements of a session -/

namespace Session

variable {session : Session}

theorem connected_of {standing : Standing} (stands : session.standing = standing)
    (still : standing ≠ .lost) : session.standing ≠ .lost :=
  stands ▸ still

theorem remarks_of_not_running (stopped : session.standing ≠ .running) (query : Query) :
    session.remarks query = [] ∧ (session.query query).2 = session := by
  unfold remarks Session.query
  cases standing : session.standing with
  | running => exact absurd standing stopped
  | lost | aborted => exact ⟨rfl, rfl⟩

theorem notes_of_not_running (stopped : session.standing ≠ .running)
    (script : Script Query Query.Reply α) :
    script.notes Session.query Session.remarks session = [] ∧
      (script.run Session.query session).2 = session := by
  induction script with
  | done result => exact ⟨rfl, rfl⟩
  | ask query next ih =>
    obtain ⟨nothing, same⟩ := remarks_of_not_running stopped query
    rw [Script.notes_ask, Script.run_ask, nothing, same]
    exact ih _

/-- A statement that loses the connection is executed. -/
theorem remarks_of_disconnected {query : Query} {ledger after : Ledger}
    (attempted : ledger.attempt query = (.error .disconnected, after)) :
    ledger.remarks query = [⟨.query query, some .disconnected⟩] := by
  have executed : ¬ (query.hasNul = true ∨ ledger.tables = none) := by
    rintro (nul | absent)
    · rw [attempt, if_pos nul] at attempted
      cases attempted
    · by_cases nul : query.hasNul = true
      · rw [attempt, if_pos nul] at attempted
        cases attempted
      · rw [attempt, if_neg nul, absent] at attempted
        cases attempted
  rw [Ledger.remarks, if_neg executed, attempted]
  rfl

/-- A session that runs answers what its ledger answers, and fails as it fails. -/
theorem query_of_running (running : session.standing = .running) (query : Query) :
    (∃ answer ledger, session.ledger.attempt query = (.ok answer, ledger) ∧
      session.query query = (.ok answer, { session with ledger })) ∨
    ∃ failure ledger, session.ledger.attempt query = (.error failure, ledger) ∧
      session.query query =
        (.error failure.error, { session with ledger }.afterFailure failure) := by
  simp only [Session.query, running]
  rcases session.ledger.attempt query with ⟨failure | answer, ledger⟩
  · exact .inr ⟨failure, ledger, rfl, rfl⟩
  · exact .inl ⟨answer, ledger, rfl, rfl⟩

/-- A statement of a session that runs leaves it on its connection, or loses the connection. -/
theorem remarks_of_running (running : session.standing = .running) (query : Query) :
    (∀ remark ∈ session.remarks query, remark.Stays) ∧
        (session.query query).2.standing ≠ .lost ∨
      session.remarks query = [⟨.query query, some .disconnected⟩] ∧
        (session.query query).2.standing = .lost := by
  have stays : ∀ {failure : Option Failure}, failure ≠ some .disconnected →
      failureOf (session.ledger.attempt query).1 = failure →
        ∀ remark ∈ session.remarks query, remark.Stays := by
    rintro failure connected rfl remark among
    rw [remarks, if_pos running, Ledger.remarks] at among
    split at among
    · cases among
    · rw [List.mem_singleton.mp among]
      exact ⟨⟨query, rfl⟩, connected⟩
  rcases query_of_running running query with
    ⟨answer, after, attempted, queried⟩ | ⟨failure, after, attempted, queried⟩
  · rw [queried]
    rw [attempted] at stays
    exact .inl ⟨stays (fun same => by cases same) rfl, connected_of running (by decide)⟩
  · rw [queried]
    rw [attempted] at stays
    cases failure with
    | refused refusal =>
      exact .inl ⟨stays (fun same => by cases same) rfl, Standing.noConfusion⟩
    | disconnected =>
      refine .inr ⟨?_, rfl⟩
      rw [remarks, if_pos running, remarks_of_disconnected attempted]

/-- **The statements of a session** stay on its connection, up to one that loses it. -/
theorem notes_of_running (running : session.standing = .running)
    (script : Script Query Query.Reply α) :
    (∀ remark ∈ script.notes Session.query Session.remarks session, remark.Stays) ∧
        (script.run Session.query session).2.standing ≠ .lost ∨
      ∃ before query, (∀ remark ∈ before, Remark.Stays remark) ∧
        script.notes Session.query Session.remarks session =
          before ++ [⟨.query query, some .disconnected⟩] ∧
        (script.run Session.query session).2.standing = .lost := by
  induction script generalizing session with
  | done result =>
    exact .inl ⟨List.forall_mem_nil _, connected_of running (by decide)⟩
  | ask query next ih =>
    rw [Script.notes_ask, Script.run_ask]
    rcases remarks_of_running running query with ⟨stays, connected⟩ | ⟨lost, standing⟩
    · by_cases runs : (session.query query).2.standing = .running
      · rcases ih (session.query query).1 runs with
          ⟨later, still⟩ | ⟨before, last, later, split, lost⟩
        · exact .inl ⟨fun remark among => (List.mem_append.mp among).elim (stays remark)
            (later remark), still⟩
        · refine .inr ⟨session.remarks query ++ before, last, fun remark among => ?_, ?_, lost⟩
          · exact (List.mem_append.mp among).elim (stays remark) (later remark)
          · rw [split, List.append_assoc]
      · obtain ⟨nothing, same⟩ := notes_of_not_running runs (next (session.query query).1)
        rw [nothing, same, List.append_nil]
        exact .inl ⟨stays, connected⟩
    · have stopped : (session.query query).2.standing ≠ .running := by
        rw [standing]
        exact Standing.noConfusion
      obtain ⟨nothing, same⟩ := notes_of_not_running stopped (next (session.query query).1)
      rw [nothing, same, List.append_nil]
      exact .inr ⟨[], query, List.forall_mem_nil _, lost, standing⟩

/-- The end of a work that succeeded is a commit: the answer is the value if it is carried out. -/
theorem closing_ok (connected : session.standing ≠ .lost) (value : α) :
    (session.closing (.ok value : Except StoreError α) = [⟨.commit, none⟩] ∧
      (session.conclude (.ok value : Except StoreError α)).1 = .ok value) ∨
    ∃ failure : Failure, session.closing (.ok value : Except StoreError α) =
      [⟨.commit, some failure⟩] ∧
        (session.conclude (.ok value : Except StoreError α)).1 =
          .error (.database failure.error) := by
  obtain ⟨failure, faults, noted, _⟩ := session.ledger.note_eq .commit
  unfold closing conclude commit
  cases standing : session.standing with
  | lost => exact absurd standing connected
  | running | aborted =>
    simp only [noted]
    cases failure with
    | none => exact .inl ⟨rfl, rfl⟩
    | some failure => exact .inr ⟨failure, rfl, rfl⟩

/-- The end of a work that failed is a rollback, and the answer is an error. -/
theorem closing_error (connected : session.standing ≠ .lost) (cause : StoreError) :
    ∃ failure error, session.closing (.error cause : Except StoreError α) =
      [⟨.rollback, failure⟩] ∧
        (session.conclude (.error cause : Except StoreError α)).1 = .error error := by
  refine ⟨(session.ledger.note .rollback).1, ?_⟩
  unfold closing conclude
  rw [if_neg connected]
  rcases session.rollback with ⟨_ | _, after⟩
  · exact ⟨_, rfl, rfl⟩
  · exact ⟨_, rfl, rfl⟩

/-- Without a connection nothing is executed any more, and the answer is an error. -/
theorem closing_lost (lost : session.standing = .lost) (result : Except StoreError α) :
    ∃ error, session.closing result = [] ∧ (session.conclude result).1 = .error error := by
  refine Exists.imp (fun error gives => ⟨if_pos lost, gives⟩) ?_
  cases result with
  | ok value => exact ⟨_, by rw [conclude, commit, lost]⟩
  | error cause => exact ⟨_, by rw [conclude, rollback, lost]⟩

end Session

/-- **Every work takes one of the courses** in a transaction. -/
theorem transact_course (work : Work α) (ledger : Ledger) :
    Course (ledger.transactionRemarks work) (ledger.transact work).1 := by
  rcases ledger.begin_records with ⟨error, _, begins, opens⟩ |
    ⟨failure, after, begins, opens, _⟩ | ⟨session, after, begins, running, opens, _⟩
  · rw [transactionRemarks, transact, begins, opens]
    exact .unconnected
  · rw [transactionRemarks, transact, begins, opens]
    exact .unbegun
  obtain ⟨left, transacted⟩ := transactionRemarks_of_begin work begins
  rw [left, transacted, opens, List.singleton_append]
  rcases Session.notes_of_running running work.run with
    ⟨stays, connected⟩ | ⟨before, query, stays, split, lost⟩
  · cases (Script.run Session.query work.run session).1 with
    | ok value =>
      rcases Session.closing_ok connected value with ⟨ends, gives⟩ | ⟨failure, ends, gives⟩
      · rw [ends, gives]
        exact .committed stays
      · rw [ends, gives]
        exact .uncommitted stays
    | error cause =>
      obtain ⟨failure, error, ends, gives⟩ := Session.closing_error (α := α) connected cause
      rw [ends, gives]
      exact .undone stays
  · obtain ⟨error, ends, gives⟩ := Session.closing_lost lost
      (Script.run Session.query work.run session).1
    rw [ends, gives, split, List.append_nil]
    exact .broken stays

theorem closed_transaction (work : Work α) (ledger : Ledger) :
    Closed (ledger.transactionRemarks work) :=
  (transact_course work ledger).closed

end Passbook.Ledger
