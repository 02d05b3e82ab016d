/-
**Works outside of transactions.**

Each statement of such a work stands on its own.

* `Work.Single work query make` — the work is one statement, and `make` says what becomes of its
  answer.
* `Ledger.perform_bind_of_ok`, `perform_bind_of_error` — a work is done part by part.
* **`Ledger.books_of_perform`** — a strict work that succeeds has come to what it comes to on the
  books; `Calm.perform_outcome` — in a calm ledger it comes to that in any case.
* `Ledger.Shows work value` — the work gives the value, unless the ledger is in trouble.
* **`Work.Single.shows`** — a work of one statement shows what is made of the answer of the rows.
-/

import Passbook.Proofs.Store.Outcome

namespace Passbook

open Ledger (Query Books AccountRow)

variable {α : Type}

/-- The work is one statement, of whose answer something is made. -/
structure Work.Single (work : Work α) (query : Query)
    (make : query.Answer → Except DatabaseError α) : Prop where
  run : work.run = .ask query fun reply => .done ((reply.bind make).mapError .database)

namespace Work

theorem single_ask (query : Query) : (ask query).Single query .ok := by
  refine ⟨congrArg (Script.ask query) (funext fun reply => ?_)⟩
  cases reply <;> rfl

theorem single_findAccount (id : Int) : (findAccount id).Single (.findAccount id)
    fun found : Option AccountRow => found.mapM AccountRow.load := by
  refine ⟨congrArg (Script.ask (Query.findAccount id)) (funext fun reply => ?_)⟩
  rcases reply with error | (none | row)
  · rfl
  · rfl
  · dsimp only [Script.done_bind, ExceptT.bindCont, Except.bind, Except.mapError, Option.mapM]
    cases row.load <;> rfl

theorem single_createAccount (opening : AccountOpening) : (createAccount opening).Single
    (.insertAccount opening.owner opening.balance opening.currency.code) AccountRow.load := by
  refine ⟨congrArg (Script.ask (Query.insertAccount _ _ _)) (funext fun reply => ?_)⟩
  cases reply <;> rfl

theorem single_listAccounts (rows : AccountRows) : (listAccounts rows).Single (.listAccounts rows)
    fun listed : List AccountRow => listed.mapM AccountRow.load := by
  refine ⟨congrArg (Script.ask (Query.listAccounts rows)) (funext fun reply => ?_)⟩
  cases reply <;> rfl

end Work

namespace Ledger

section Bind

variable {β : Type} {ledger : Ledger} {first : Work α} (rest : α → Work β)

/-- The rest of a work is done where the first part leaves off. -/
theorem perform_bind_of_ok {value : α} (succeeds : (ledger.perform first).1 = .ok value) :
    ledger.perform (first >>= rest) = (ledger.perform first).2.perform (rest value) := by
  have split : ledger.perform (first >>= rest) =
      Script.run Ledger.query (ExceptT.bindCont rest (ledger.perform first).1)
        (ledger.perform first).2 := Script.run_bind _ _ _ _
  rw [split, succeeds]
  rfl

theorem perform_bind_of_error {error : StoreError}
    (fails : (ledger.perform first).1 = .error error) :
    ledger.perform (first >>= rest) = (.error error, (ledger.perform first).2) := by
  have split : ledger.perform (first >>= rest) =
      Script.run Ledger.query (ExceptT.bindCont rest (ledger.perform first).1)
        (ledger.perform first).2 := Script.run_bind _ _ _ _
  rw [split, fails]
  rfl

end Bind

section Strict

variable {ledger : Ledger} {work : Work α}

/-- **A strict work that succeeds** has come to what it comes to on the books. -/
theorem books_of_perform (strict : work.Strict) {value : α}
    (succeeds : (ledger.perform work).1 = .ok value) :
    ledger.books.perform ledger.clock work = (.ok value, (ledger.perform work).2.books) := by
  unfold Work.Strict at strict
  unfold Ledger.perform at succeeds ⊢
  unfold Books.perform
  generalize work.run = script at strict succeeds ⊢
  induction script generalizing ledger with
  | done result => exact congrArg (·, ledger.books) succeeds
  | ask query next ih =>
    rcases ledger.query_cases query with ⟨error, after, met, _⟩ | ⟨answer, after, met, answering⟩
    · rw [Script.run_ask, met, strict.1 error] at succeeds
      cases succeeds
    · rw [Script.run_ask, met] at succeeds
      rw [Script.run_ask, Script.run_ask, met, Books.reply_of_execute answering.books,
        ← answering.around.clock]
      exact ih _ (strict.2 answer) succeeds

/-- A calm ledger stays calm, whatever a work does. -/
theorem Calm.perform (calm : ledger.Calm) (work : Work α) : (ledger.perform work).2.Calm := by
  unfold Ledger.perform
  generalize work.run = script
  induction script generalizing ledger with
  | done result => exact calm
  | ask query next ih => exact ih _ (calm.query query)

/-- **In a calm ledger** a strict work gives what it gives on the books. -/
theorem Calm.perform_outcome (calm : ledger.Calm) (strict : work.Strict)
    (clean : work.run.Asks Query.Clean) :
    (ledger.perform work).1 = (ledger.books.perform ledger.clock work).1 := by
  unfold Work.Strict at strict
  unfold Ledger.perform Books.perform
  generalize work.run = script at strict clean ⊢
  induction script generalizing ledger with
  | done result => rfl
  | ask query next ih =>
    rw [Script.run_ask, Script.run_ask]
    rcases calm.reply_cases clean.1 with ⟨answer, answered⟩ | ⟨refusal, refused, refuses⟩
    · have answering := answering_of_query answered
      rw [answered, Books.reply_of_execute answering.books, ← answering.around.clock]
      exact ih _ (calm.query query) (strict.2 answer) (clean.2 _)
    · have replied : (ledger.books.reply ledger.clock query).1 = .error (.ofRefusal refusal) := by
        simp only [Books.reply, refuses]
      rw [refused, replied, strict.1]
      rfl

end Strict

/-- The work gives the value, unless the ledger is in trouble. -/
def Shows (ledger : Ledger) (work : Work α) (value : α) : Prop :=
  (ledger.perform work).1 = .ok value ∨
    ∃ error, (ledger.perform work).1 = .error (.database error) ∧ ledger.Trouble error

theorem Calm.perform_of_shows {ledger : Ledger} (calm : ledger.Calm) {work : Work α} {value : α}
    (shown : ledger.Shows work value) : (ledger.perform work).1 = .ok value := by
  rcases shown with gives | ⟨error, _, trouble⟩
  · exact gives
  · exact absurd trouble calm.not_trouble

end Ledger

namespace Work.Single

variable {work : Work α} {query : Query} {make : query.Answer → Except DatabaseError α}
  (single : work.Single query make)

include single

theorem perform (ledger : Ledger) :
    (ledger.perform work).1 = ((ledger.query query).1.bind make).mapError .database := by
  rw [Ledger.perform, single.run, Script.run_ask]
  rfl

theorem strict : work.Strict := by
  rw [Work.Strict, single.run]
  exact ⟨fun _ => rfl, fun _ => trivial⟩

/-- It asks nothing but its statement. -/
theorem asks {kind : Query → Prop} (here : kind query) : work.run.Asks kind := by
  rw [single.run]
  exact ⟨here, fun _ => trivial⟩

/-- On the books it gives what is made of their answer. -/
theorem perform_books {now : Time.Instant} {books next : Books} {answer : query.Answer} {value : α}
    (executed : books.execute now query = .ok (answer, next)) (made : make answer = .ok value) :
    books.perform now work = (.ok value, next) := by
  rw [Books.perform, single.run, Script.run_ask, Books.reply_of_execute executed]
  exact congrArg (fun outcome => (outcome.mapError StoreError.database, next)) made

/-- **What is made of the answer of the rows is shown.** -/
theorem shows {ledger : Ledger} (clean : query.Clean) (laid : ledger.tables.isSome = true)
    {answer : query.Answer} {next : Books} {value : α}
    (executed : ledger.books.execute ledger.clock query = .ok (answer, next))
    (made : make answer = .ok value) : ledger.Shows work value := by
  unfold Ledger.Shows
  rw [single.perform]
  rcases Ledger.query_of_execute clean laid executed with answered | ⟨error, fails, trouble⟩
  · rw [answered]
    exact .inl (congrArg (Except.mapError _) made)
  · rw [fails]
    exact .inr ⟨error, rfl, trouble⟩

end Work.Single

end Passbook
