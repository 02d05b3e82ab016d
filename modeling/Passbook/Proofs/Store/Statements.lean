/-
**The statements that a transfer executes.**

A transfer stores itself and its two entries and changes the two balances, in one order whatever
becomes of it. Its statements go on as long as none is rejected, and all that can still miss after
the last is the balance of the source.

* `Movement.statements` — the five statements; `orderedChanges_in_order` — the two changes.
* `Session.Follows statements good` — a work executes statements one after another up to the first
  that is rejected, and then fails; otherwise it ends as it should. It passes through `>>=`.
* `Movement.follows_settle` — the work of a transfer follows its statements.
* `Movement.Course` — the courses of a transfer in a ledger, with what they leave in the journal.
* **`transfer_course`** — every transfer takes one of them.
-/

import Passbook.Proofs.Ledger.Journal
import Passbook.Proofs.Store.Settling

namespace Passbook

open Ledger (Query Books Session Remark Failure)

/-- A statement that is carried out. -/
def Ledger.Remark.carried (query : Query) : Remark :=
  ⟨.query query, none⟩

/-! ### Works that follow statements -/

variable {α β : Type}

/-- **In a session a work follows statements**: it executes one after another up to the first that
is rejected, and then fails; if none is, it ends well. -/
inductive Ledger.Session.Follows (statements : List Query)
    (good : Except StoreError α → Session → Prop) (session : Session) (work : Work α) : Prop
  | through
    (traced : work.run.notes Session.query Session.remarks session =
      statements.map Remark.carried)
    (ends : good (Script.run Session.query work.run session).1
      (Script.run Session.query work.run session).2) : Follows statements good session work
  | cut (before later : List Query) (query : Query) (failure : Failure) (error : StoreError)
    (split : statements = before ++ query :: later)
    (traced : work.run.notes Session.query Session.remarks session =
      before.map Remark.carried ++ [⟨.query query, some failure⟩])
    (fails : (Script.run Session.query work.run session).1 = .error error)
    (standing : (Script.run Session.query work.run session).2.standing =
      if failure = .disconnected then .lost else .aborted) : Follows statements good session work

namespace Ledger.Session

variable {session : Session}

/-- A single statement. -/
theorem follows_ask (running : session.standing = .running)
    (laid : session.ledger.tables.isSome = true) {query : Query} (clean : query.hasNul = false) :
    session.Follows [query] (fun outcome after =>
      ∃ answer, outcome = .ok answer ∧ Answering query answer session after) (Work.ask query) := by
  have executed : session.remarks query =
      [⟨.query query, failureOf (session.ledger.attempt query).1⟩] := by
    rw [remarks, if_pos running, Ledger.remarks, if_neg]
    rintro (nul | absent)
    · rw [clean] at nul
      cases nul
    · rw [absent] at laid
      cases laid
  have traced : (Work.ask query).run.notes Session.query Session.remarks session =
      session.remarks query := List.append_nil _
  have ran : Script.run Session.query (Work.ask query).run session =
      ((session.query query).1.mapError .database, (session.query query).2) := rfl
  rw [executed] at traced
  rcases query_of_running running query with
    ⟨answer, ledger, attempted, queried⟩ | ⟨failure, ledger, attempted, queried⟩
  · rw [attempted] at traced
    refine .through traced ?_
    rw [ran, queried]
    rcases session.query_cases query with ⟨_, _, met, _⟩ | ⟨_, _, met, answering⟩
    · rw [queried] at met
      cases met
    · rw [queried] at met
      cases met
      exact ⟨answer, rfl, answering⟩
  · rw [attempted] at traced
    refine .cut [] [] query failure (.database failure.error) rfl traced ?_ ?_
    · rw [ran, queried]
      rfl
    · rw [ran, queried]
      cases failure <;> rfl

/-- One work after another. -/
theorem Follows.bind {first : Work β} {rest : β → Work α} {now later : List Query}
    {between : β → Session → Prop} {good : Except StoreError α → Session → Prop}
    (follows : session.Follows now (fun outcome after =>
      ∃ value, outcome = .ok value ∧ between value after) first)
    (goes_on : ∀ value after, between value after → after.Follows later good (rest value)) :
    session.Follows (now ++ later) good (first >>= rest) := by
  have ran : Script.run Session.query (first >>= rest).run session =
      Script.run Session.query
        (ExceptT.bindCont rest (Script.run Session.query first.run session).1)
        (Script.run Session.query first.run session).2 := Script.run_bind _ _ _ _
  have noted : (first >>= rest).run.notes Session.query Session.remarks session =
      first.run.notes Session.query Session.remarks session ++
        (ExceptT.bindCont rest (Script.run Session.query first.run session).1).notes Session.query
          Session.remarks (Script.run Session.query first.run session).2 := Script.notes_bind _ _ _
  cases follows with
  | cut before after query failure error split traced fails standing =>
    rw [fails] at ran noted
    refine .cut before (after ++ later) query failure error ?_ (noted.trans ?_)
      (congrArg Prod.fst ran) ?_
    · rw [split, List.append_assoc]
      rfl
    · rw [traced]
      exact List.append_nil _
    · rw [ran]
      exact standing
  | through traced ends =>
    obtain ⟨value, succeeds, holds⟩ := ends
    rw [succeeds] at ran noted
    rw [traced] at noted
    cases goes_on value _ holds with
    | through traced' ends =>
      refine .through (noted.trans ?_) (ran ▸ ends)
      rw [List.map_append, ← traced']
      rfl
    | cut before after query failure error split traced' fails standing =>
      refine .cut (now ++ before) after query failure error ?_ (noted.trans ?_) (ran ▸ fails)
        (ran ▸ standing)
      · rw [split, List.append_assoc]
      · rw [List.map_append, List.append_assoc, ← traced']
        rfl

/-- The end of a work that executes nothing any more. -/
theorem follows_done {good : Except StoreError α → Session → Prop} {work : Work α}
    {result : Except StoreError α} (done : work.run = .done result) (ends : good result session) :
    session.Follows [] good work := by
  refine .through ?_ ?_
  · rw [done]
    rfl
  · rw [done]
    exact ends

end Ledger.Session

/-! ### The statements of a transfer -/

namespace Movement

/-- The statements of a transfer that is stored under a number. -/
def statements (movement : Movement) (id : Int) : List Query :=
  [.insertTransfer movement, .insertEntry ⟨id, movement.source, -movement.amount⟩,
    .insertEntry ⟨id, movement.target, movement.amount⟩, .addBalance movement.orderedChanges.1,
    .addBalance movement.orderedChanges.2]

/-- **The two changes of balance** are the debit and the credit. The account with the smaller number
is changed first, and on one account the credit comes first. -/
theorem orderedChanges_in_order (movement : Movement) :
    [movement.orderedChanges.1, movement.orderedChanges.2].Perm [movement.debit, movement.credit] ∧
      movement.orderedChanges.1.account ≤ movement.orderedChanges.2.account ∧
      (movement.source = movement.target →
        movement.orderedChanges = (movement.credit, movement.debit)) := by
  unfold orderedChanges
  by_cases first : movement.source < movement.target
  · rw [if_pos first]
    exact ⟨.refl _, Int.le_of_lt first, fun same => absurd same (Int.ne_of_lt first)⟩
  · rw [if_neg first]
    exact ⟨.swap _ _ _, Int.not_lt.mp first, fun _ => rfl⟩

variable {movement : Movement} {session after : Session}

/-- A session that has found both accounts of a transfer, in which accounts can be loaded. -/
structure Bearing (movement : Movement) (session : Session) : Prop where
  running : session.standing = .running
  laid : session.ledger.tables.isSome = true
  hasSource : session.ledger.rows.HasAccount movement.source
  hasTarget : session.ledger.rows.HasAccount movement.target
  readable : ∀ row ∈ session.ledger.rows.accounts, row.Readable

namespace Bearing

/-- The statement that stores the transfer finds both accounts. -/
theorem of_insertTransfer {transfer : Transfer}
    (readable : ∀ row ∈ session.ledger.rows.accounts, row.Readable)
    (answering : Session.Answering (.insertTransfer movement) transfer session after) :
    movement.Bearing after ∧ transfer.id = session.ledger.serials.transfers + 1 := by
  have effect := Books.effect_of_execute answering.books
  generalize left : after.ledger.books = books at effect
  cases effect with
  | read reads => cases reads
  | transferStored positive source target =>
    have rows : after.ledger.rows.accounts = session.ledger.rows.accounts :=
      congrArg (·.rows.accounts) left
    refine ⟨⟨answering.runs, answering.laid, ?_, ?_, rows ▸ readable⟩, rfl⟩
    · exact source.of_map_eq (congrArg _ rows)
    · exact target.of_map_eq (congrArg _ rows)

variable (bearing : movement.Bearing session)

include bearing

/-- The statements that store the entries leave the accounts. -/
theorem insertEntry {posting : Posting} {entry : Entry}
    (answering : Session.Answering (.insertEntry posting) entry session after) :
    movement.Bearing after := by
  have effect := Books.effect_of_execute answering.books
  generalize left : after.ledger.books = books at effect
  cases effect with
  | read reads => cases reads
  | entryStored nonzero transfer account =>
    have rows : after.ledger.rows.accounts = session.ledger.rows.accounts :=
      congrArg (·.rows.accounts) left
    refine ⟨answering.runs, answering.laid, ?_, ?_, rows ▸ bearing.readable⟩
    · exact bearing.hasSource.of_map_eq (congrArg _ rows)
    · exact bearing.hasTarget.of_map_eq (congrArg _ rows)

/-- A statement that changes the balance of one of the accounts finds it. -/
theorem addBalance {change : BalanceChange}
    (side : session.ledger.rows.HasAccount change.account) {answer : Option Ledger.AccountRow}
    (answering : Session.Answering (.addBalance change) answer session after) :
    movement.Bearing after ∧ ∃ row, answer = some row ∧ row.Readable := by
  have effect := Books.effect_of_execute answering.books
  generalize left : after.ledger.books = books at effect
  cases effect with
  | read reads => cases reads
  | balanceMissed missing =>
    obtain ⟨row, found⟩ := side.account?
    have absent : session.ledger.rows.account? change.account = none := missing
    rw [absent] at found
    cases found
  | @balanceChanged _ row found inRange =>
    have rows : after.ledger.rows = session.ledger.rows.adding row change.amount :=
      congrArg (·.rows) left
    have numbers : after.ledger.rows.accounts.map (·.id) =
        session.ledger.rows.accounts.map (·.id) := by
      rw [rows]
      exact Books.Sound.map_id_adding _ _ _
    have loads : (Ledger.Tables.added row change.amount).Readable :=
      bearing.readable row (Ledger.Tables.account?_eq_some found).1
    refine ⟨⟨answering.runs, answering.laid, bearing.hasSource.of_map_eq numbers,
      bearing.hasTarget.of_map_eq numbers, fun other among => ?_⟩, _, rfl, loads⟩
    rw [rows] at among
    rcases Ledger.mem_put among with rfl | ⟨stored, _⟩
    · exact loads
    · exact bearing.readable other stored

/-- A change of balance in a transfer. -/
theorem follows_addBalance {change : BalanceChange}
    (side : session.ledger.rows.HasAccount change.account) :
    session.Follows [.addBalance change]
      (fun outcome after => ∃ account, outcome = .ok account ∧ movement.Bearing after)
      (Work.addBalance change) := by
  show session.Follows ([.addBalance change] ++ []) _ _
  refine (Session.follows_ask bearing.running bearing.laid rfl).bind fun answer after executed => ?_
  obtain ⟨bears, row, rfl, readable⟩ := bearing.addBalance side executed
  obtain ⟨account, loads⟩ := readable.load
  have done : (Work.load row.load).run = .done (.ok account) := by
    rw [loads]
    rfl
  exact Session.follows_done done ⟨account, rfl, bears⟩

end Bearing

/-- The work of a transfer ends with a settlement, or the source is overdrawn. -/
def Ends (outcome : Except StoreError Settlement) (session : Session) : Prop :=
  session.standing = .running ∧ ((∃ settlement, outcome = .ok settlement) ∨
    ∃ id balance, outcome = .error (.insufficientFunds id balance))

theorem follows_conclude (running : session.standing = .running) (transfer : Transfer)
    (debit credit : Entry) (first second : Account) :
    session.Follows [] Ends (movement.conclude transfer debit credit first second) := by
  have ran : (movement.conclude transfer debit credit first second).run = .done
      (if (movement.sides first second).1.balance < 0 then
        .error (.insufficientFunds (movement.sides first second).1.id
          (movement.sides first second).1.balance)
      else .ok ⟨transfer, debit, credit, (movement.sides first second).1,
        (movement.sides first second).2⟩) := by
    unfold conclude
    by_cases overdrawn : (movement.sides first second).1.balance < 0
    · simp only [if_pos overdrawn]
      rfl
    · simp only [if_neg overdrawn]
      rfl
  refine Session.follows_done ran ⟨running, ?_⟩
  by_cases overdrawn : (movement.sides first second).1.balance < 0
  · exact .inr ⟨_, _, if_pos overdrawn⟩
  · exact .inl ⟨_, if_neg overdrawn⟩

/-- **The work of a transfer** follows its statements. -/
theorem follows_settle (movement : Movement) (running : session.standing = .running)
    (laid : session.ledger.tables.isSome = true)
    (readable : ∀ row ∈ session.ledger.rows.accounts, row.Readable) :
    session.Follows (movement.statements (session.ledger.serials.transfers + 1)) Ends
      movement.settle := by
  have hasSides : ∀ {session}, movement.Bearing session →
      session.ledger.rows.HasAccount movement.orderedChanges.1.account ∧
        session.ledger.rows.HasAccount movement.orderedChanges.2.account :=
    fun bearing => account?_orderedChanges bearing.hasSource bearing.hasTarget
  generalize number : session.ledger.serials.transfers + 1 = id
  show session.Follows ([.insertTransfer movement] ++
    ([.insertEntry ⟨id, movement.source, -movement.amount⟩] ++
    ([.insertEntry ⟨id, movement.target, movement.amount⟩] ++
    ([.addBalance movement.orderedChanges.1] ++ ([.addBalance movement.orderedChanges.2] ++ [])))))
    Ends movement.settle
  refine (Session.follows_ask running laid rfl).bind fun transfer stored executed => ?_
  obtain ⟨bearing, its⟩ := Bearing.of_insertTransfer readable executed
  rw [← number, ← its]
  refine (Session.follows_ask bearing.running bearing.laid rfl).bind
    fun debit debited executed => ?_
  have bearing := bearing.insertEntry executed
  refine (Session.follows_ask bearing.running bearing.laid rfl).bind
    fun credit posted executed => ?_
  have bearing := bearing.insertEntry executed
  refine (bearing.follows_addBalance (hasSides bearing).1).bind fun first once bearing => ?_
  refine (bearing.follows_addBalance (hasSides bearing).2).bind fun second twice bearing => ?_
  exact follows_conclude bearing.running transfer debit credit first second

/-- **The courses of a transfer** in a ledger, with what each leaves in the journal and what it
answers. Nothing is executed when nothing is to be moved; otherwise a transaction is begun, and the
statements go on to the first that is rejected. -/
inductive Course (movement : Movement) (ledger : Ledger) :
    List Remark → Except StoreError Settlement → Prop
  | nothing (none_moved : movement.amount ≤ 0) :
    Course movement ledger [] (.error (.invalidAmount movement.amount))
  | unconnected {error : DatabaseError} (positive : 0 < movement.amount)
    (refused : ledger.access.check = .error error) :
    Course movement ledger [] (.error (.database error))
  | unbegun {failure : Failure} (positive : 0 < movement.amount) :
    Course movement ledger [⟨.begin, some failure⟩] (.error (.database failure.error))
  | unlaid {failure : Option Failure} {error : StoreError} (positive : 0 < movement.amount)
    (absent : ledger.tables = none) :
    Course movement ledger [⟨.begin, none⟩, ⟨.rollback, failure⟩] (.error error)
  | rejected {before later : List Query} {query : Query} {refusal : Ledger.Refusal}
    {failure : Option Failure} {error : StoreError} (positive : 0 < movement.amount)
    (split : movement.statements (ledger.serials.transfers + 1) = before ++ query :: later) :
    Course movement ledger (⟨.begin, none⟩ :: (before.map Remark.carried ++
      [⟨.query query, some (.refused refusal)⟩, ⟨.rollback, failure⟩])) (.error error)
  | broken {before later : List Query} {query : Query} {error : StoreError}
    (positive : 0 < movement.amount)
    (split : movement.statements (ledger.serials.transfers + 1) = before ++ query :: later) :
    Course movement ledger (⟨.begin, none⟩ :: (before.map Remark.carried ++
      [⟨.query query, some .disconnected⟩])) (.error error)
  | overdrawn {failure : Option Failure} {error : StoreError} {id balance : Int}
    (positive : 0 < movement.amount) (origin : error.origin = .insufficientFunds id balance) :
    Course movement ledger (⟨.begin, none⟩ ::
      ((movement.statements (ledger.serials.transfers + 1)).map Remark.carried ++
        [⟨.rollback, failure⟩])) (.error error)
  | uncommitted {failure : Failure} (positive : 0 < movement.amount) :
    Course movement ledger (⟨.begin, none⟩ ::
      ((movement.statements (ledger.serials.transfers + 1)).map Remark.carried ++
        [⟨.commit, some failure⟩])) (.error (.database failure.error))
  | committed {settlement : Settlement} (positive : 0 < movement.amount) :
    Course movement ledger (⟨.begin, none⟩ ::
      ((movement.statements (ledger.serials.transfers + 1)).map Remark.carried ++
        [⟨.commit, none⟩])) (.ok settlement)

/-- Without tables the first statement is refused before it is executed. -/
theorem settle_of_unlaid (movement : Movement) (running : session.standing = .running)
    (absent : session.ledger.tables = none) : ∃ cause,
      movement.settle.run.notes Session.query Session.remarks session = [] ∧
      (Script.run Session.query movement.settle.run session).1 = .error cause ∧
      (Script.run Session.query movement.settle.run session).2.standing = .aborted := by
  have nothing : session.remarks (.insertTransfer movement) = [] := by
    rw [Session.remarks, if_pos running, Ledger.remarks, if_pos (.inr absent)]
  have queried : session.query (.insertTransfer movement) =
      (.error (.ofRefusal (.missingTable .transfers)), { session with standing := .aborted }) := by
    unfold Session.query Ledger.attempt
    rw [running]
    simp only [absent]
    rfl
  refine ⟨.database (.ofRefusal (.missingTable .transfers)), ?_, ?_, ?_⟩
  · show session.remarks (.insertTransfer movement) ++ Script.notes Session.query Session.remarks
      (ExceptT.bindCont _ ((session.query (.insertTransfer movement)).1.mapError _)) _ = []
    rw [nothing, queried]
    rfl
  · show (Script.run Session.query
      (ExceptT.bindCont _ ((session.query (.insertTransfer movement)).1.mapError _)) _).1 = _
    rw [queried]
    rfl
  · show (Script.run Session.query
      (ExceptT.bindCont _ ((session.query (.insertTransfer movement)).1.mapError _))
      (session.query (.insertTransfer movement)).2).2.standing = _
    rw [queried]
    rfl

end Movement

namespace Ledger

/-- What a transfer leaves in the journal. -/
def transferRemarks (movement : Movement) (ledger : Ledger) : List Remark :=
  if movement.amount ≤ 0 then [] else ledger.transactionRemarks movement.settle

variable {movement : Movement} {ledger : Ledger}

theorem transfer_records (movement : Movement) (ledger : Ledger) :
    Records ledger (ledger.transfer movement).2 (ledger.transferRemarks movement) := by
  unfold transferRemarks transfer
  by_cases nothing : movement.amount ≤ 0
  · rw [if_pos nothing, if_pos nothing]
    exact .nil ledger
  · rw [if_neg nothing, if_neg nothing]
    exact transact_records movement.settle ledger

theorem closed_transfer (movement : Movement) (ledger : Ledger) :
    Closed (ledger.transferRemarks movement) := by
  unfold transferRemarks
  by_cases nothing : movement.amount ≤ 0
  · rw [if_pos nothing]
    exact .nil
  · rw [if_neg nothing]
    exact closed_transaction movement.settle ledger

/-- A transaction whose statements follow those of the transfer takes one of the courses. -/
theorem course_of_follows (positive : 0 < movement.amount)
    (follows : session.Follows (movement.statements (ledger.serials.transfers + 1)) Movement.Ends
      movement.settle) :
    movement.Course ledger (⟨.begin, none⟩ ::
      (movement.settle.run.notes Session.query Session.remarks session ++
        (Script.run Session.query movement.settle.run session).2.closing
          (Script.run Session.query movement.settle.run session).1))
      ((Script.run Session.query movement.settle.run session).2.conclude
        (Script.run Session.query movement.settle.run session).1).1 := by
  cases follows with
  | cut before later query failure error split traced fails standing =>
    rw [traced, fails]
    cases failure with
    | disconnected =>
      obtain ⟨error, ends, gives⟩ := Session.closing_lost standing (.error error)
      rw [ends, gives, List.append_nil]
      exact .broken positive split
    | refused refusal =>
      have aborted := standing.trans (if_neg fun same => by cases same)
      obtain ⟨failure, error, ends, gives⟩ :=
        Session.closing_error (Session.connected_of aborted (by decide)) error
      rw [ends, gives, List.append_assoc]
      exact .rejected positive split
  | through traced ends =>
    obtain ⟨runs, comes⟩ := ends
    have connected := Session.connected_of runs (by decide)
    rcases comes with ⟨settlement, succeeds⟩ | ⟨id, balance, fails⟩
    · rw [traced, succeeds]
      rcases Session.closing_ok connected settlement with
        ⟨ends, gives⟩ | ⟨failure, ends, gives⟩
      · rw [ends, gives]
        exact .committed positive
      · rw [ends, gives]
        exact .uncommitted positive
    · rw [traced, fails]
      obtain ⟨failure, _, ends, _⟩ :=
        Session.closing_error (α := Settlement) connected (.insufficientFunds id balance)
      obtain ⟨error, gives, origin⟩ := Session.origin_of_conclude
        (Script.run Session.query movement.settle.run session).2 (.insufficientFunds id balance)
      rw [ends, gives]
      exact .overdrawn positive origin

/-- **Every transfer takes one of the courses**, where accounts can be loaded. -/
theorem transfer_course (readable : ∀ row ∈ ledger.rows.accounts, row.Readable) :
    movement.Course ledger (ledger.transferRemarks movement) (ledger.transfer movement).1 := by
  unfold transferRemarks transfer
  by_cases nothing : movement.amount ≤ 0
  · rw [if_pos nothing, if_pos nothing]
    exact .nothing nothing
  rw [if_neg nothing, if_neg nothing]
  have positive : 0 < movement.amount := Int.not_le.mp nothing
  rcases ledger.begin_records with ⟨error, refused, begins, opens⟩ |
    ⟨failure, after, begins, opens, _⟩ | ⟨session, after, begins, running, opens, _⟩
  · rw [transactionRemarks, transact, begins, opens]
    exact .unconnected positive refused
  · rw [transactionRemarks, transact, begins, opens]
    exact .unbegun positive
  have begun := (transact_begun movement.settle begins).1
  obtain ⟨left, transacted⟩ := transactionRemarks_of_begin movement.settle begins
  rw [left, transacted, opens, List.singleton_append]
  cases laid : ledger.tables with
  | none =>
    obtain ⟨cause, traced, fails, standing⟩ :=
      movement.settle_of_unlaid running (begun.tables.trans laid)
    obtain ⟨failure, error, ends, gives⟩ :=
      Session.closing_error (Session.connected_of standing (by decide)) cause
    rw [traced, fails, ends, gives]
    exact .unlaid positive laid
  | some tables =>
    have follows := movement.follows_settle running (begun.tables ▸ laid ▸ rfl)
      (by rwa [rows, begun.tables])
    rw [begun.serials] at follows
    exact course_of_follows positive follows

end Ledger

end Passbook
