/-
**One statement and what it does to the books.**

The books of a ledger are the numbers it has handed out and its rows; the rest of it (clock, faults,
journal, access) surrounds them. A statement either fails, and then leaves the rows as they are and
at most wastes a number, or it is answered, and then the books are those of `Books.execute`.

* `Ledger.query_cases` — a statement on its own.

An `Exchange` is a statement with the reply to it; `Serials.Hands` says how an exchange moves the
numbers, whatever becomes of the rows. `Books.replay` applies statements one after another, and
`Books.Executes` says so with the replies that were heard.
-/

import Passbook.Ledger.Session
import Passbook.Store.Work

namespace Passbook.Ledger

open Time (Instant)

/-- The rows of the ledger; there are none before the tables are laid out. -/
def rows (ledger : Ledger) : Tables :=
  ledger.tables.getD .empty

/-- The last numbers handed out, and the rows. -/
structure Books where
  serials : Serials
  rows : Tables

def books (ledger : Ledger) : Books :=
  ⟨ledger.serials, ledger.rows⟩

namespace Books

/-- Executes a statement; the row that it inserts gets the next number of its table. -/
def execute (now : Instant) (query : Query) (books : Books) :
    Except Refusal (query.Answer × Books) :=
  (books.rows.apply (books.serials.take query).1 now query).map fun (answer, rows) =>
    (answer, ⟨(books.serials.take query).2, rows⟩)

/-- The books after a statement that took a number in vain. -/
def wasted (query : Query) (books : Books) : Books :=
  { books with serials := (books.serials.take query).2 }

theorem execute_eq_ok {now : Instant} {query : Query} {books next : Books} {answer : query.Answer} :
    books.execute now query = .ok (answer, next) ↔
      books.rows.apply (books.serials.take query).1 now query = .ok (answer, next.rows) ∧
        next.serials = (books.serials.take query).2 := by
  unfold execute
  cases applied : books.rows.apply (books.serials.take query).1 now query with
  | error refusal => simp [Except.map]
  | ok outcome =>
    obtain ⟨value, rows⟩ := outcome
    obtain ⟨serials, nextRows⟩ := next
    simp only [Except.map, Except.ok.injEq, Prod.mk.injEq, mk.injEq]
    constructor
    · rintro ⟨rfl, rfl, rfl⟩
      exact ⟨⟨rfl, rfl⟩, rfl⟩
    · rintro ⟨⟨rfl, rfl⟩, rfl⟩
      exact ⟨rfl, rfl, rfl⟩

end Books

/-! ### Exchanges -/

/-- A statement with the reply to it. -/
structure Exchange where
  query : Query
  reply : query.Reply

/-- The statement was carried out and answered. -/
def Exchange.Answered (exchange : Exchange) : Prop :=
  ∃ answer, exchange.reply = .ok answer

/-- How an exchange moves the numbers: a statement that fails may waste one, and one that is
answered was applied, to whatever rows, with the number that it took. -/
inductive Serials.Hands : Serials → Exchange → Serials → Prop
  | kept {serials : Serials} {query : Query} (error : DatabaseError) :
    Hands serials ⟨query, .error error⟩ serials
  | wasted {serials : Serials} {query : Query} (error : DatabaseError) :
    Hands serials ⟨query, .error error⟩ (serials.take query).2
  | answered {serials : Serials} {query : Query} {answer : query.Answer} {now : Instant}
    {rows next : Tables} :
    rows.apply (serials.take query).1 now query = .ok (answer, next) →
    Hands serials ⟨query, .ok answer⟩ (serials.take query).2

/-- An executed statement takes its number. -/
theorem Serials.hands_of_execute {now : Instant} {query : Query} {answer : query.Answer}
    {before after : Books} (executed : before.execute now query = .ok (answer, after)) :
    before.serials.Hands ⟨query, .ok answer⟩ after.serials := by
  obtain ⟨applied, taken⟩ := Books.execute_eq_ok.mp executed
  rw [taken]
  exact .answered applied

/-! ### What surrounds the books -/

/-- The fault is what is left of one that waited before; it may have let statements pass since. -/
structure Fault.Leaves (waiting fault : Fault) : Prop where
  verb : waiting.verb = fault.verb
  failure : waiting.failure = fault.failure

/-- Clock and access are as before, and of the faults in waiting some may have struck. -/
structure Around (before after : Ledger) : Prop where
  clock : after.clock = before.clock
  access : after.access = before.access
  faults : ∀ fault ∈ after.faults, ∃ waiting ∈ before.faults, waiting.Leaves fault

theorem Around.of_eq {before after : Ledger} (clock : after.clock = before.clock)
    (access : after.access = before.access) (faults : after.faults = before.faults) :
    Around before after :=
  ⟨clock, access, fun fault member => ⟨fault, faults ▸ member, rfl, rfl⟩⟩

theorem Around.refl (ledger : Ledger) : Around ledger ledger :=
  .of_eq rfl rfl rfl

theorem Around.trans {first second third : Ledger} (before : Around first second)
    (after : Around second third) : Around first third := by
  refine ⟨after.clock.trans before.clock, after.access.trans before.access, fun fault member => ?_⟩
  obtain ⟨between, inside, later⟩ := after.faults fault member
  obtain ⟨waiting, first, earlier⟩ := before.faults between inside
  exact ⟨waiting, first, earlier.verb.trans later.verb, earlier.failure.trans later.failure⟩

theorem Around.faultless {before after : Ledger} (around : Around before after)
    (none_waits : before.faults = []) : after.faults = [] := by
  rw [List.eq_nil_iff_forall_not_mem]
  intro fault member
  obtain ⟨waiting, inside, _⟩ := around.faults fault member
  rw [none_waits] at inside
  cases inside

theorem meet_leaves (event : Event) (faults : List Fault) :
    ∀ fault ∈ (Fault.meet event faults).2, ∃ waiting ∈ faults, waiting.Leaves fault := by
  induction faults with
  | nil => exact fun _ member => by cases member
  | cons head rest ih =>
    intro fault member
    unfold Fault.meet at member
    by_cases concerned : head.concerns event
    · rw [if_pos concerned] at member
      by_cases strikes : head.skip = 0
      · rw [if_pos strikes] at member
        exact ⟨fault, List.mem_cons_of_mem _ member, rfl, rfl⟩
      · rw [if_neg strikes] at member
        rcases List.mem_cons.mp member with rfl | member
        · exact ⟨head, List.mem_cons_self, rfl, rfl⟩
        · exact ⟨fault, List.mem_cons_of_mem _ member, rfl, rfl⟩
    · rw [if_neg concerned] at member
      rcases List.mem_cons.mp member with rfl | member
      · exact ⟨fault, List.mem_cons_self, rfl, rfl⟩
      · obtain ⟨waiting, inside, left⟩ := ih fault member
        exact ⟨waiting, List.mem_cons_of_mem _ inside, left⟩

/-- A fault strikes only an event of its verb. -/
theorem meet_eq_none {event : Event} {faults : List Fault}
    (others : ∀ fault ∈ faults, fault.verb ≠ event.verb) : (Fault.meet event faults).1 = none := by
  induction faults with
  | nil => rfl
  | cons head rest ih =>
    have apart : head.concerns event = false := by
      simp [Fault.concerns, others head List.mem_cons_self]
    simp only [Fault.meet, apart]
    exact ih fun fault member => others fault (List.mem_cons_of_mem _ member)

/-- What strikes is the failure of a fault in waiting. -/
theorem meet_eq_some {event : Event} {faults : List Fault} {failure : Failure}
    (struck : (Fault.meet event faults).1 = some failure) :
    ∃ fault ∈ faults, fault.failure = failure := by
  induction faults with
  | nil => cases struck
  | cons head rest ih =>
    unfold Fault.meet at struck
    by_cases concerned : head.concerns event
    · rw [if_pos concerned] at struck
      by_cases strikes : head.skip = 0
      · rw [if_pos strikes] at struck
        exact ⟨head, List.mem_cons_self, Option.some.inj struck⟩
      · rw [if_neg strikes] at struck
        cases struck
    · rw [if_neg concerned] at struck
      obtain ⟨fault, inside, its⟩ := ih struck
      exact ⟨fault, List.mem_cons_of_mem _ inside, its⟩

/-- To note an event touches only the faults in waiting and the journal. -/
theorem note_eq (event : Event) (ledger : Ledger) : ∃ failure faults,
    ledger.note event = (failure, { ledger with faults, journal := event :: ledger.journal }) ∧
      (∀ fault ∈ faults, ∃ waiting ∈ ledger.faults, waiting.Leaves fault) ∧
      ((∀ waiting ∈ ledger.faults, waiting.verb ≠ event.verb) → failure = none) ∧
      (∀ met, failure = some met → ∃ waiting ∈ ledger.faults, waiting.failure = met) :=
  ⟨_, _, rfl, meet_leaves event ledger.faults, meet_eq_none, fun _ => meet_eq_some⟩

/-! ### A statement on its own -/

/-- A statement failed. -/
structure Failing (query : Query) (before after : Ledger) : Prop where
  tables : after.tables = before.tables
  serials : after.serials = before.serials ∨ after.serials = (before.serials.take query).2
  around : Around before after

/-- A statement was executed with this answer. -/
structure Answering (query : Query) (answer : query.Answer) (before after : Ledger) : Prop where
  books : before.books.execute before.clock query = .ok (answer, after.books)
  laid : after.tables.isSome = true
  around : Around before after

theorem rows_of_tables {ledger : Ledger} {tables : Tables} (laid : ledger.tables = some tables) :
    ledger.rows = tables := by
  rw [rows, laid, Option.getD_some]

/-- Rows are in tables that are laid out. -/
theorem laid_of_rows {ledger : Ledger} (stored : ledger.rows ≠ .empty) :
    ledger.tables.isSome = true := by
  cases tables : ledger.tables with
  | some _ => rfl
  | none => exact absurd (by rw [rows, tables]; rfl) stored

theorem Failing.rows {query : Query} {before after : Ledger}
    (failing : Failing query before after) : after.rows = before.rows := by
  rw [Ledger.rows, failing.tables, Ledger.rows]

theorem carryOut_cases (query : Query) (ledger : Ledger) {tables : Tables}
    (laid : ledger.tables = some tables) :
    (∃ failure after, ledger.carryOut query tables = (.error failure, after) ∧
      Failing query ledger after) ∨
    (∃ answer after, ledger.carryOut query tables = (.ok answer, after) ∧
      Answering query answer ledger after) := by
  unfold carryOut
  cases applied : tables.apply (ledger.serials.take query).1 ledger.clock query with
  | error refusal =>
    refine .inl ⟨.refused refusal, { ledger with serials := (ledger.serials.take query).2 }, ?_,
      rfl, .inr rfl, .of_eq rfl rfl rfl⟩
    simp only [applied]
  | ok outcome =>
    obtain ⟨answer, next⟩ := outcome
    refine .inr ⟨answer,
      { ledger with serials := (ledger.serials.take query).2, tables := some next }, ?_, ?_, rfl,
      .of_eq rfl rfl rfl⟩
    · simp only [applied]
    · rw [Books.execute_eq_ok]
      refine ⟨?_, rfl⟩
      show ledger.rows.apply _ _ _ = _
      rw [rows_of_tables laid]
      exact applied

/-- **A statement fails and leaves the rows, or it is executed.** -/
theorem attempt_cases (query : Query) (ledger : Ledger) :
    (∃ failure after, ledger.attempt query = (.error failure, after) ∧
      Failing query ledger after) ∨
    (∃ answer after, ledger.attempt query = (.ok answer, after) ∧
      Answering query answer ledger after) := by
  unfold attempt
  by_cases nul : query.hasNul
  · rw [if_pos nul]
    exact .inl ⟨_, ledger, rfl, rfl, .inl rfl, .refl ledger⟩
  rw [if_neg nul]
  cases laid : ledger.tables with
  | none => exact .inl ⟨_, ledger, rfl, rfl, .inl rfl, .refl ledger⟩
  | some tables =>
    obtain ⟨failure, faults, noted, left, _⟩ := ledger.note_eq (.query query)
    have around : Around ledger
        { ledger with faults, journal := .query query :: ledger.journal } := ⟨rfl, rfl, left⟩
    simp only [noted]
    cases failure with
    | some failure => exact .inl ⟨failure, _, rfl, rfl, .inl rfl, around⟩
    | none =>
      rcases carryOut_cases query { ledger with faults, journal := .query query :: ledger.journal }
          laid with ⟨problem, after, met, failing⟩ | ⟨answer, after, met, answering⟩
      · exact .inl ⟨problem, after, met, failing.tables, failing.serials,
          around.trans failing.around⟩
      · exact .inr ⟨answer, after, met, answering.books, answering.laid,
          around.trans answering.around⟩

theorem query_cases (query : Query) (ledger : Ledger) :
    (∃ error after, ledger.query query = (.error error, after) ∧ Failing query ledger after) ∨
    (∃ answer after, ledger.query query = (.ok answer, after) ∧
      Answering query answer ledger after) := by
  unfold Ledger.query
  cases ledger.access.check with
  | error error => exact .inl ⟨error, ledger, rfl, rfl, .inl rfl, .refl ledger⟩
  | ok _ =>
    rcases ledger.attempt_cases query with
      ⟨failure, after, met, failing⟩ | ⟨answer, after, met, done⟩
    · rw [met]
      exact .inl ⟨failure.error, after, rfl, failing⟩
    · rw [met]
      exact .inr ⟨answer, after, rfl, done⟩

/-- A statement that is answered was executed. -/
theorem answering_of_query {query : Query} {answer : query.Answer} {ledger : Ledger}
    (answered : (ledger.query query).1 = .ok answer) :
    Answering query answer ledger (ledger.query query).2 := by
  rcases ledger.query_cases query with ⟨error, after, met, _⟩ | ⟨given, after, met, answering⟩
  · rw [met] at answered
    cases answered
  · rw [met] at answered ⊢
    cases answered
    exact answering

/-! ### Statements applied one after another -/

namespace Books

/-- The books after statements applied one after another, each seeing the rows of those before it.
One that is refused leaves the rows as they are. -/
def replay (now : Instant) : List Query → Books → Books
  | [], books => books
  | query :: rest, books =>
    match books.execute now query with
    | .ok (_, next) => replay now rest next
    | .error _ => replay now rest (books.wasted query)

/-- Statements are executed one after another with the replies that were heard. -/
inductive Executes (now : Instant) : List Exchange → Books → Books → Prop
  | nil (books : Books) : Executes now [] books books
  | cons {query : Query} {answer : query.Answer} {rest : List Exchange} {books next last : Books} :
    books.execute now query = .ok (answer, next) → Executes now rest next last →
    Executes now (⟨query, .ok answer⟩ :: rest) books last

theorem Executes.eq_replay {now : Instant} {exchanges : List Exchange} {books last : Books}
    (executes : Executes now exchanges books last) :
    last = books.replay now (exchanges.map (·.query)) := by
  induction executes with
  | nil books => rfl
  | cons step _ ih =>
    simp only [List.map_cons, replay, step]
    exact ih

end Books

end Passbook.Ledger
