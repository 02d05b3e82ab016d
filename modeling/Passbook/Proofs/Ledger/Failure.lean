/-
**Why statements fail.**

* `Ledger.Cause query ledger failure` — the failures that a statement may meet: a text that cannot
  be stored, a table that is not there, a fault in waiting, or a refusal by the rows.
* `cause_of_attempt`, `cause_of_query` — there is no other failure.
* `Ledger.Calm` — connections are given out, no fault waits, and the tables are there.
* **`Calm.query_of_execute`** — a calm ledger answers a statement as its books do, and stays calm.
-/

import Passbook.Proofs.Ledger.Statement

namespace Passbook.Ledger

/-! ### Causes -/

/-- Why a statement meets a failure. -/
inductive Cause (query : Query) (ledger : Ledger) : Failure → Prop
  | nulInText (hasNul : query.hasNul = true) : Cause query ledger (.refused .nulInText)
  | unlaid (absent : ledger.tables = none) :
    Cause query ledger (.refused (.missingTable query.table))
  | struck {fault : Fault} (waiting : fault ∈ ledger.faults) : Cause query ledger fault.failure
  | refused {refusal : Refusal}
    (refuses : ledger.books.execute ledger.clock query = .error refusal) :
    Cause query ledger (.refused refusal)

variable {query : Query} {ledger after : Ledger}

theorem execute_eq_error {books : Books} {now : Time.Instant} {refusal : Refusal} :
    books.execute now query = .error refusal ↔
      books.rows.apply (books.serials.take query).1 now query = .error refusal := by
  unfold Books.execute
  cases books.rows.apply (books.serials.take query).1 now query with
  | error problem => simp [Except.map]
  | ok outcome => simp [Except.map]

/-- **A failed statement had one of the causes.** -/
theorem cause_of_attempt {failure : Failure}
    (fails : ledger.attempt query = (.error failure, after)) : Cause query ledger failure := by
  unfold attempt at fails
  by_cases hasNul : query.hasNul = true
  · rw [if_pos hasNul] at fails
    cases fails
    exact .nulInText hasNul
  rw [if_neg hasNul] at fails
  cases laid : ledger.tables with
  | none =>
    simp only [laid] at fails
    cases fails
    exact .unlaid laid
  | some tables =>
    obtain ⟨met, faults, noted, _, _, strikes⟩ := ledger.note_eq (.query query)
    simp only [laid, noted] at fails
    cases met with
    | some met =>
      cases fails
      obtain ⟨fault, waiting, its⟩ := strikes failure rfl
      rw [← its]
      exact .struck waiting
    | none =>
      simp only [carryOut] at fails
      cases applied : tables.apply (ledger.serials.take query).1 ledger.clock query with
      | ok outcome =>
        simp only [applied] at fails
        cases fails
      | error refusal =>
        simp only [applied] at fails
        cases fails
        refine .refused (execute_eq_error.mpr ?_)
        show ledger.rows.apply _ _ _ = _
        rw [rows_of_tables laid]
        exact applied

/-- A statement on its own fails for want of a connection, or for one of the causes. -/
theorem cause_of_query {error : DatabaseError} (fails : (ledger.query query).1 = .error error) :
    ledger.access.check = .error error ∨
      ∃ failure, error = failure.error ∧ Cause query ledger failure := by
  unfold Ledger.query at fails
  cases access : ledger.access.check with
  | error problem =>
    simp only [access] at fails
    cases fails
    exact .inl rfl
  | ok _ =>
    simp only [access] at fails
    cases attempted : ledger.attempt query with
    | mk outcome after =>
      rw [attempted] at fails
      cases outcome with
      | ok answer => cases fails
      | error failure =>
        cases fails
        exact .inr ⟨failure, rfl, cause_of_attempt attempted⟩

/-! ### Calm ledgers -/

/-- Nothing stands in the way of a statement but the rows. -/
structure Calm (ledger : Ledger) : Prop where
  granted : ledger.access = .granted
  faultless : ledger.faults = []
  laid : ledger.tables.isSome = true

namespace Calm

theorem around (calm : ledger.Calm) (around : Around ledger after)
    (laid : after.tables.isSome = true) : after.Calm :=
  ⟨around.access.trans calm.granted, around.faultless calm.faultless, laid⟩

/-- What fails in a calm ledger is refused by the rows. -/
theorem cause (calm : ledger.Calm) (clean : query.hasNul = false) {failure : Failure}
    (cause : Cause query ledger failure) : ∃ refusal, failure = .refused refusal ∧
      ledger.books.execute ledger.clock query = .error refusal := by
  cases cause with
  | nulInText hasNul =>
    rw [clean] at hasNul
    cases hasNul
  | unlaid absent =>
    have laid := calm.laid
    rw [absent] at laid
    cases laid
  | struck waiting =>
    rw [calm.faultless] at waiting
    cases waiting
  | refused refuses => exact ⟨_, rfl, refuses⟩

/-- **A calm ledger answers as its books do**, and stays calm. -/
theorem query_of_execute (calm : ledger.Calm) (clean : query.hasNul = false)
    {answer : query.Answer} {next : Books}
    (executed : ledger.books.execute ledger.clock query = .ok (answer, next)) :
    ∃ after, ledger.query query = (.ok answer, after) ∧ after.books = next ∧ after.Calm ∧
      after.clock = ledger.clock := by
  rcases ledger.query_cases query with ⟨error, after, met, _⟩ | ⟨given, after, met, answering⟩
  · rcases cause_of_query (congrArg Prod.fst met) with refused | ⟨failure, _, cause⟩
    · rw [calm.granted] at refused
      cases refused
    · obtain ⟨refusal, _, refuses⟩ := calm.cause clean cause
      rw [executed] at refuses
      cases refuses
  · have same := answering.books.symm.trans executed
    rw [Except.ok.injEq, Prod.mk.injEq] at same
    obtain ⟨rfl, books⟩ := same
    exact ⟨after, met, books, calm.around answering.around answering.laid, answering.around.clock⟩

end Calm

end Passbook.Ledger
