/-
**Works that fail with their first refusal.**

A work is strict when it fails as soon as a statement of it fails. `Books.perform now work books` is
what a work comes to on the books alone, with nothing around them.

* `Work.Strict` — it passes through `>>=` (`strict_bind`) and holds of single statements.
* `Books.perform_bind_eq_ok`, `perform_ask_eq_ok`, `perform_load_eq_ok` — what a success on the
  books is made of.
* `Ledger.perform_of_lands` — a transaction that lands comes to what its work comes to on the books.
* **`Ledger.lands_of_strict`** — a strict work that succeeds in a transaction lands.
-/

import Passbook.Proofs.Form
import Passbook.Proofs.Ledger.Transaction

namespace Passbook

open Ledger (Query Books Session)
open Time (Instant)

variable {α β : Type}

/-! ### Strict works -/

/-- Fails as soon as a question is replied to with an error, and with that error. -/
def Script.Strict : Script Query Query.Reply (Except StoreError α) → Prop
  | .done _ => True
  | .ask _ next => (∀ error, next (.error error) = .done (.error (.database error))) ∧
    ∀ answer, (next (.ok answer)).Strict

namespace Work

def Strict (work : Work α) : Prop :=
  Script.Strict work.run

theorem strict_ask (query : Query) : (ask query).Strict :=
  ⟨fun _ => rfl, fun _ => trivial⟩

theorem strict_load (outcome : Except DatabaseError α) : (load outcome).Strict := trivial

theorem strict_pure (value : α) : (pure value : Work α).Strict := trivial

theorem strict_throw (error : StoreError) : (throw error : Work α).Strict := trivial

theorem strict_bind {first : Work α} {rest : α → Work β} (strict : first.Strict)
    (later : ∀ value, (rest value).Strict) : (first >>= rest).Strict := by
  show Script.Strict (Script.bind first.run (ExceptT.bindCont rest))
  unfold Strict at strict
  generalize first.run = script at strict ⊢
  induction script with
  | done result =>
    cases result with
    | ok value => exact later value
    | error problem => exact trivial
  | ask query next ih =>
    refine ⟨fun error => ?_, fun answer => ih (.ok answer) (strict.2 answer)⟩
    show (next (.error error)).bind _ = _
    rw [strict.1 error]
    rfl

theorem strict_ite {condition : Prop} [Decidable condition] {first second : Work α}
    (yes : first.Strict) (no : second.Strict) : (if condition then first else second).Strict := by
  by_cases holds : condition
  · rw [if_pos holds]
    exact yes
  · rw [if_neg holds]
    exact no

end Work

/-- A single statement asks what it is. -/
theorem Work.asks_ask {kind : Query → Prop} (query : Query) (here : kind query) :
    (Work.ask query).run.Asks kind :=
  ⟨here, fun _ => trivial⟩

/-! ### Works on the books -/

namespace Ledger.Books

/-- The reply to a statement from the books alone. -/
def reply (now : Instant) (query : Query) (books : Books) : query.Reply × Books :=
  match books.execute now query with
  | .ok (answer, next) => (.ok answer, next)
  | .error refusal => (.error (.ofRefusal refusal), books.wasted query)

/-- What a work comes to on the books alone. -/
def perform (now : Instant) (work : Work α) (books : Books) : Except StoreError α × Books :=
  Script.run (reply now) work.run books

variable {now : Instant} {books last next : Books}

theorem reply_of_execute {query : Query} {answer : query.Answer}
    (executed : books.execute now query = .ok (answer, next)) :
    books.reply now query = (.ok answer, next) := by
  simp only [reply, executed]

theorem perform_ask_eq_ok {query : Query} {answer : query.Answer} :
    books.perform now (Work.ask query) = (.ok answer, next) ↔
      books.execute now query = .ok (answer, next) := by
  show ((books.reply now query).1.mapError StoreError.database, (books.reply now query).2) = _ ↔ _
  rw [Prod.mk.injEq, mapError_eq_ok]
  unfold reply
  cases executed : books.execute now query with
  | error refusal => simp
  | ok outcome =>
    obtain ⟨given, after⟩ := outcome
    simp

theorem perform_load_eq_ok {outcome : Except DatabaseError α} {value : α} :
    books.perform now (Work.load outcome) = (.ok value, next) ↔
      outcome = .ok value ∧ next = books := by
  show (outcome.mapError StoreError.database, books) = _ ↔ _
  rw [Prod.mk.injEq, mapError_eq_ok, @eq_comm _ books]

theorem perform_pure_eq_ok {given value : α} :
    books.perform now (pure given : Work α) = (.ok value, next) ↔ given = value ∧ next = books := by
  show ((.ok given : Except StoreError α), books) = _ ↔ _
  simp [eq_comm]

theorem perform_throw_eq_ok {error : StoreError} {value : α} :
    ¬ books.perform now (throw error : Work α) = (.ok value, next) := by
  intro succeeds
  cases succeeds

/-- A work succeeds after another when both do. -/
theorem perform_bind_eq_ok {first : Work α} {rest : α → Work β} {value : β} :
    books.perform now (first >>= rest) = (.ok value, last) ↔
      ∃ given between, books.perform now first = (.ok given, between) ∧
        between.perform now (rest given) = (.ok value, last) := by
  have split : books.perform now (first >>= rest) =
      Script.run (reply now) (ExceptT.bindCont rest (books.perform now first).1)
        (books.perform now first).2 := Script.run_bind _ _ _ _
  rw [split]
  cases performed : books.perform now first with
  | mk outcome between =>
    cases outcome with
    | error problem =>
      constructor
      · intro succeeds
        cases succeeds
      · rintro ⟨given, other, wrong, _⟩
        cases wrong
    | ok given =>
      constructor
      · exact fun succeeds => ⟨given, between, rfl, succeeds⟩
      · rintro ⟨_, _, same, succeeds⟩
        cases same
        exact succeeds

end Ledger.Books

/-! ### Strict works in a transaction -/

namespace Ledger

variable {script : Script Query Query.Reply (Except StoreError α)} {session : Session}

theorem Session.answered_of_ok (strict : script.Strict) {value : α}
    (succeeds : (script.run Session.query session).1 = .ok value) :
    ∀ exchange ∈ script.notes Session.query Session.heard session, exchange.Answered := by
  induction script generalizing session with
  | done result => exact fun _ member => by cases member
  | ask query next ih =>
    rcases session.query_cases query with ⟨error, after, met, _⟩ | ⟨answer, after, met, _⟩
    · rw [Script.run_ask, met, strict.1 error] at succeeds
      cases succeeds
    · rw [Script.run_ask, met] at succeeds
      intro exchange member
      rw [Script.notes_ask, Session.heard, met] at member
      rcases List.mem_append.mp member with here | later
      · rw [List.mem_singleton.mp here]
        exact ⟨answer, rfl⟩
      · exact ih _ (strict.2 answer) succeeds exchange later

/-- Where all is answered, a session and the books reply alike. -/
theorem Session.run_eq_perform (running : session.standing = .running)
    (answered : ∀ exchange ∈ script.notes Session.query Session.heard session,
      exchange.Answered) :
    script.run (Books.reply session.ledger.clock) session.ledger.books =
      ((script.run Session.query session).1,
        (script.run Session.query session).2.ledger.books) := by
  induction script generalizing session with
  | done result => rfl
  | ask query next ih =>
    obtain ⟨answer, after, met, answering, later⟩ := answering_of_answered answered
    rw [Script.run_ask, Script.run_ask, met, Books.reply_of_execute answering.books,
      ← answering.around.clock]
    exact ih _ answering.runs later

variable {work : Work α} {ledger : Ledger}

/-- A transaction that lands comes to what its work comes to on the books. -/
theorem perform_of_lands (lands : ledger.Lands work) : ∃ value,
    (ledger.transact work).1 = .ok value ∧
      ledger.books.perform ledger.clock work = (.ok value, (ledger.transact work).2.books) := by
  obtain ⟨start, session, value, begun, ran, _, answered, gives, books⟩ := transact_of_lands lands
  have performs := Session.run_eq_perform begun.running answered
  rw [ran, begun.books, begun.around.clock] at performs
  refine ⟨value, gives, ?_⟩
  rw [books]
  exact performs

/-- **A strict work that succeeds lands.** -/
theorem lands_of_strict (strict : work.Strict) {value : α}
    (succeeds : (ledger.transact work).1 = .ok value) : ledger.Lands work := by
  rcases ledger.transact_cases work with
    ⟨error, after, transacted, _⟩ | ⟨start, begun, ran, heard, transacted⟩
  · rw [transacted] at succeeds
    cases succeeds
  · refine lands_of_ok succeeds ?_
    rw [transacted, Session.conclude_eq_ok] at succeeds
    rw [heard]
    exact Session.answered_of_ok strict succeeds.1

end Ledger

end Passbook
