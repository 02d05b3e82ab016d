/-
**Runs of a ledger.**

An `Operation` is one use of a ledger: statements on their own, a work in a transaction, a transfer,
the seeding, the laying out of the tables, a handler or a request; or a change of what surrounds the
ledger, which is to say of its clock, of the faults in waiting and of the access to it.

* `Operation.run` and `Operation.exchanges` — the ledger after an operation, and the statements that
  it executed with the replies to them, those of transactions that were undone included.
* `Operation.attempts` — the transfers that an operation asks for, each with the ledger it meets.
* `Operation.Within may` — the works and transfers that are given to the ledger make only calls that
  `may` admits; handlers, requests and the seeding ask what they ask.
* `Reachable may past ledger` — a run of such operations, of any length, which starts without tables
  or with empty ones, ends in the ledger, and `past` are the statements of the run.
* `Operation.asks_of_within` — what all operations of a run ask; `Operation.run_laid` — tables that
  are laid out stay so.
-/

import Passbook.Ledger.Schema
import Passbook.Proofs.Service.Calls

namespace Passbook

open Ledger (Query Books Exchange Fault Access Session)
open Time (Instant)

/-! ### Operations -/

/-- One use of a ledger, or a change of what surrounds it. -/
inductive Operation : Type 1 where
  /-- Statements on their own. -/
  | perform {α : Type} (work : Work α)
  /-- A work in a transaction. -/
  | transact {α : Type} (work : Work α)
  | transfer (movement : Movement)
  | seed
  | migrate
  | register (user : NewUser)
  | changeProfile (change : ProfileChange)
  | openAccount (account : NewAccount)
  | pay (policy : SelfTransferPolicy) (order : TransferOrder)
  | request (policy : SelfTransferPolicy) (fresh : Http.Uuid) (request : Http.Request)
  | surround (clock : Instant) (faults : List Fault) (access : Access)

namespace Ledger

/-- What a statement on its own and its reply tell. -/
def heard (query : Query) (ledger : Ledger) : List Exchange :=
  [⟨query, (ledger.query query).1⟩]

/-- The statements of a call with the replies to them. -/
def heardOf : (call : Call) → Ledger → List Exchange
  | .query query, ledger => ledger.heard query
  | .transfer movement, ledger => ledger.transferExchanges movement

/-- The statements of a dialogue with the replies to them. -/
def heardIn {α : Type} (dialogue : Script Call Call.Reply α) (ledger : Ledger) : List Exchange :=
  dialogue.notes answer heardOf ledger

end Ledger

/-- A transfer that is asked for, with the ledger that it meets. -/
structure Attempt where
  movement : Movement
  ledger : Ledger

/-- What becomes of an attempt. -/
def Attempt.outcome (attempt : Attempt) : Except StoreError Settlement :=
  (attempt.ledger.transfer attempt.movement).1

namespace Ledger

/-- The transfer that a call asks for, if it asks for one. -/
def attemptsOf : Call → Ledger → List Attempt
  | .query _, _ => []
  | .transfer movement, ledger => [⟨movement, ledger⟩]

/-- The transfers that a dialogue attempts. -/
def attemptsIn {α : Type} (dialogue : Script Call Call.Reply α) (ledger : Ledger) : List Attempt :=
  dialogue.notes answer attemptsOf ledger

end Ledger

namespace Operation

/-- The ledger after an operation. -/
def run : Operation → Ledger → Ledger
  | perform work, ledger => (ledger.perform work).2
  | transact work, ledger => (ledger.transact work).2
  | transfer movement, ledger => (ledger.transfer movement).2
  | seed, ledger => ledger.seed.2
  | migrate, ledger => ledger.migrate.2
  | register user, ledger => (ledger.serve (Service.register user)).2
  | changeProfile change, ledger => (ledger.serve (Service.changeProfile change)).2
  | openAccount account, ledger => (ledger.serve (Service.openAccount account)).2
  | pay policy order, ledger => (ledger.serve (Service.pay policy order)).2
  | request policy fresh asked, ledger => (Http.serve policy fresh asked ledger).2
  | surround clock faults access, ledger => { ledger with clock, faults, access }

/-- The statements of an operation with the replies to them. -/
def exchanges : Operation → Ledger → List Exchange
  | perform work, ledger => work.run.notes Ledger.query Ledger.heard ledger
  | transact work, ledger => ledger.exchanges work
  | transfer movement, ledger => ledger.transferExchanges movement
  | seed, ledger => ledger.exchanges (Seed.seedAll Seed.demos)
  | register user, ledger => ledger.heardIn (Service.register user).run
  | changeProfile change, ledger => ledger.heardIn (Service.changeProfile change).run
  | openAccount account, ledger => ledger.heardIn (Service.openAccount account).run
  | pay policy order, ledger => ledger.heardIn (Service.pay policy order).run
  | request policy fresh asked, ledger => ledger.heardIn (Http.Api.respond policy fresh asked)
  | migrate, _ | surround _ _ _, _ => []

/-- The transfers that an operation attempts. -/
def attempts : Operation → Ledger → List Attempt
  | transfer movement, ledger => ledger.attemptsOf (.transfer movement)
  | register user, ledger => ledger.attemptsIn (Service.register user).run
  | changeProfile change, ledger => ledger.attemptsIn (Service.changeProfile change).run
  | openAccount account, ledger => ledger.attemptsIn (Service.openAccount account).run
  | pay policy order, ledger => ledger.attemptsIn (Service.pay policy order).run
  | request policy fresh asked, ledger => ledger.attemptsIn (Http.Api.respond policy fresh asked)
  | perform _, _ | transact _, _ | seed, _ | migrate, _ | surround _ _ _, _ => []

/-- Every call that an operation can come to make is of the kind. -/
def Asks (kind : Call → Prop) : Operation → Prop
  | perform work | transact work => work.run.Asks fun query => kind (.query query)
  | transfer movement => kind (.transfer movement)
  | seed => (Seed.seedAll Seed.demos).run.Asks fun query => kind (.query query)
  | register user => (Service.register user).run.Asks kind
  | changeProfile change => (Service.changeProfile change).run.Asks kind
  | openAccount account => (Service.openAccount account).run.Asks kind
  | pay policy order => (Service.pay policy order).run.Asks kind
  | request policy fresh asked => (Http.Api.respond policy fresh asked).Asks kind
  | migrate | surround _ _ _ => True

/-- The works and transfers given to the ledger make only calls that are admitted. -/
def Within (may : Call → Prop) : Operation → Prop
  | perform work | transact work => work.run.Asks fun query => may (.query query)
  | transfer movement => may (.transfer movement)
  | _ => True

end Operation

/-- **A run of operations** ends in the ledger, and `past` are its statements. -/
inductive Reachable (may : Call → Prop) : List Exchange → Ledger → Prop
  | blank : Reachable may [] .blank
  | fresh : Reachable may [] .fresh
  | step {past : List Exchange} {ledger : Ledger} (operation : Operation) :
    Reachable may past ledger → operation.Within may →
    Reachable may (past ++ operation.exchanges ledger) (operation.run ledger)

section Wider

variable {may may' : Call → Prop} (wider : ∀ call, may call → may' call)

include wider

theorem Operation.Within.mono {operation : Operation} (within : operation.Within may) :
    operation.Within may' := by
  cases operation with
  | perform work | transact work =>
    exact Script.asks_mono (fun query => wider (.query query)) within
  | transfer movement => exact wider _ within
  | seed | migrate | register _ | changeProfile _ | openAccount _ | pay _ _ | request _ _ _
  | surround _ _ _ => exact trivial

/-- What is reached with fewer calls is reached with more. -/
theorem Reachable.mono {past : List Exchange} {ledger : Ledger}
    (reachable : Reachable may past ledger) : Reachable may' past ledger := by
  induction reachable with
  | blank => exact .blank
  | fresh => exact .fresh
  | step operation _ within ih => exact .step operation ih (within.mono wider)

end Wider

/-- Transfers one after another lengthen a run in which they are admitted. -/
theorem Reachable.transferAll {may : Call → Prop} {past : List Exchange} {ledger : Ledger}
    (reachable : Reachable may past ledger) (movements : List Movement)
    (admitted : ∀ movement ∈ movements, may (.transfer movement)) :
    ∃ later, Reachable may later (ledger.transferAll movements).2 := by
  induction movements generalizing past ledger with
  | nil => exact ⟨past, reachable⟩
  | cons movement rest ih =>
    exact ih (.step (.transfer movement) reachable (admitted movement List.mem_cons_self))
      fun other member => admitted other (List.mem_cons_of_mem _ member)

/-- A call that the operations of a run make: one that is admitted, or one of the service or of the
seeding. -/
def Call.Permitted (may : Call → Prop) : Call → Prop
  | .query asked => may (.query asked) ∨ asked.Served ∨ asked.Seeded
  | .transfer movement => may (.transfer movement) ∨ (Call.transfer movement).Served

/-- Where a statement that moves no money is admitted, so is every statement of a run. -/
theorem Call.Permitted.admitted {may : Call → Prop} {query : Query}
    (permitted : (Call.query query).Permitted may)
    (still : ¬ query.MovesMoney → may (.query query)) : may (.query query) := by
  rcases permitted with admitted | served | seeded
  · exact admitted
  · exact still served.not_movesMoney
  · exact still seeded.not_movesMoney

/-- The operations of a run make only such calls. -/
theorem Operation.asks_of_within {may : Call → Prop} {operation : Operation}
    (within : operation.Within may) : operation.Asks (Call.Permitted may) := by
  have admitted : ∀ query : Query, may (.query query) → (Call.query query).Permitted may :=
    fun _ => .inl
  have served : ∀ call : Call, call.Served → call.Permitted may := fun call served => by
    cases call with
    | query query => exact .inr (.inl served)
    | transfer movement => exact .inr served
  have queried : ∀ call : Call, call.Queried → call.Permitted may :=
    fun call queried => served call queried.served
  have seeded : ∀ query : Query, query.Seeded → (Call.query query).Permitted may :=
    fun _ seeded => .inr (.inr seeded)
  cases operation with
  | perform work | transact work => exact Script.asks_mono admitted within
  | transfer movement => exact .inl within
  | seed => exact Script.asks_mono seeded (Seed.asks_seedAll fun _ => Seed.Demo.asks_seeded)
  | register user => exact Script.asks_mono queried (Service.asks_register user)
  | changeProfile change => exact Script.asks_mono queried (Service.asks_changeProfile change)
  | openAccount account => exact Script.asks_mono queried (Service.asks_openAccount account)
  | pay policy order => exact Script.asks_mono served (Service.asks_pay policy order)
  | request policy fresh asked =>
    exact Script.asks_mono served (Http.asks_respond policy fresh asked)
  | migrate | surround _ _ _ => exact trivial

/-! ### Tables that are laid out -/

namespace Ledger

/-- To lay out the tables stores no rows. -/
theorem migrate_books (ledger : Ledger) : ledger.migrate.2.books = ledger.books := by
  unfold Ledger.migrate
  cases ledger.access.check with
  | error error => rfl
  | ok _ =>
    by_cases laid : ledger.tables.isSome = true
    · simp only [if_pos laid]
    · simp only [if_neg laid]
      have absent : ledger.tables = none := by simpa using laid
      obtain ⟨failure, faults, noted, _⟩ := ledger.note_eq .begin
      rw [noted]
      cases failure with
      | some failure => rfl
      | none =>
        obtain ⟨failure, faults, noted, _⟩ := note_eq .commit
          { ledger with faults, journal := .begin :: ledger.journal }
        simp only [noted]
        cases failure with
        | some failure => rfl
        | none =>
          have none_stored : ledger.rows = .empty := by rw [Ledger.rows, absent]; rfl
          rw [Ledger.books, Ledger.books, none_stored]
          rfl

variable {ledger : Ledger} (laid : ledger.tables.isSome = true)

include laid

theorem query_laid (query : Query) : (ledger.query query).2.tables.isSome = true := by
  rcases ledger.query_cases query with ⟨_, _, met, failing⟩ | ⟨_, _, met, answering⟩
  · rw [met, failing.tables]
    exact laid
  · rw [met]
    exact answering.laid

theorem transfer_laid (movement : Movement) :
    (ledger.transfer movement).2.tables.isSome = true := by
  unfold transfer
  by_cases nothing : movement.amount ≤ 0
  · rw [if_pos nothing]
    exact laid
  · rw [if_neg nothing]
    exact transact_laid movement.settle ledger laid

theorem answer_laid (call : Call) : (ledger.answer call).2.tables.isSome = true := by
  cases call with
  | query query => exact query_laid laid query
  | transfer movement => exact transfer_laid laid movement

theorem dialogue_laid {α : Type} (script : Script Call Call.Reply α) :
    (script.run answer ledger).2.tables.isSome = true := by
  induction script generalizing ledger with
  | done result => exact laid
  | ask call next ih => exact ih _ (answer_laid laid call)

theorem attemptsIn_laid {α : Type} (script : Script Call Call.Reply α) :
    ∀ attempt ∈ ledger.attemptsIn script, attempt.ledger.tables.isSome = true := by
  refine Script.forall_notes (fun ledger => ledger.tables.isSome = true)
    (fun call ledger _ laid => answer_laid laid call) (fun call ledger _ laid attempt member => ?_)
    (Script.asks_true script) laid
  cases call with
  | query query => cases member
  | transfer movement =>
    rw [List.mem_singleton.mp member]
    exact laid

theorem migrate_laid : ledger.migrate.2.tables.isSome = true := by
  unfold migrate
  cases ledger.access.check with
  | error error => exact laid
  | ok _ =>
    simp only [if_pos laid]
    exact laid

end Ledger

/-- **Tables that are laid out** stay so through every operation. -/
theorem Operation.run_laid {ledger : Ledger} (laid : ledger.tables.isSome = true)
    (operation : Operation) : (operation.run ledger).tables.isSome = true := by
  cases operation with
  | perform work =>
    show (work.run.run Ledger.query ledger).2.tables.isSome = true
    generalize work.run = script
    induction script generalizing ledger with
    | done result => exact laid
    | ask query next ih => exact ih _ (Ledger.query_laid laid query)
  | transact work => exact Ledger.transact_laid work ledger laid
  | transfer movement => exact Ledger.transfer_laid laid movement
  | seed => exact Ledger.transact_laid _ ledger laid
  | migrate => exact Ledger.migrate_laid laid
  | register _ | changeProfile _ | openAccount _ | pay _ _ | request _ _ _ =>
    exact Ledger.dialogue_laid laid _
  | surround clock faults access => exact laid

/-- Each transfer that an operation attempts meets tables that are laid out. -/
theorem Operation.attempts_laid {ledger : Ledger} (laid : ledger.tables.isSome = true)
    (operation : Operation) :
    ∀ attempt ∈ operation.attempts ledger, attempt.ledger.tables.isSome = true := by
  cases operation with
  | perform _ | transact _ | seed | migrate | surround _ _ _ =>
    exact fun _ member => by cases member
  | transfer movement =>
    intro attempt member
    rw [List.mem_singleton.mp member]
    exact laid
  | register _ | changeProfile _ | openAccount _ | pay _ _ | request _ _ _ =>
    exact Ledger.attemptsIn_laid laid _

end Passbook
