/-
**What every transfer comes to.**

* `Tables.Loadable.execute`, `Tables.Loadable.executes` — a statement that is executed takes no
  balance out of the range of its column and no known currency away, and so do several.
* `Tables.loadable` — after every run, all accounts can be loaded and hold what their column can.
* **`transfer_outcome`** — after every run, each transfer comes to its verdict, which is told from
  its amount and the balances of its accounts.
-/

import Passbook.Proofs.Money.AnyOrder
import Passbook.Proofs.Store.Verdict

namespace Passbook

open Ledger (Query Books Tables AccountRow Exchange)
open Text (IntegerRange)
open Time (Instant)

/-! ### Accounts that can be loaded -/

namespace Ledger.Tables.Loadable

variable {now : Instant} {before after : Books}

theorem execute {query : Query} {answer : query.Answer} (loadable : before.rows.Loadable)
    (opens : ∀ owner balance currency, query = .insertAccount owner balance currency →
      IntegerRange.int64.contains balance = true ∧ ∃ held : Currency, held.code = currency)
    (executed : before.execute now query = .ok (answer, after)) : after.rows.Loadable := by
  cases Books.effect_of_execute executed with
  | read _ | userStored _ _ | userMissed _ | userChanged _ _ | balanceMissed _
  | transferStored _ _ _ | entryStored _ _ _ => exact loadable
  | accountOpened _ _ => exact forall_mem_snoc loadable (opens _ _ _ rfl)
  | balanceChanged found inRange =>
    intro account member
    rcases mem_put member with rfl | ⟨stored, _⟩
    · exact ⟨inRange, (loadable _ (account?_eq_some found).1).2⟩
    · exact loadable account stored

/-- Statements that move money open no account. -/
theorem executes {exchanges : List Exchange} (loadable : before.rows.Loadable)
    (executes : before.Executes now exchanges after)
    (moving : ∀ exchange ∈ exchanges, exchange.query.MovesMoney) : after.rows.Loadable := by
  induction executes with
  | nil books => exact loadable
  | cons step _ ih =>
    refine ih (loadable.execute (fun owner balance currency opens => ?_) step)
      fun exchange member => moving exchange (List.mem_cons_of_mem _ member)
    have moves := moving _ List.mem_cons_self
    subst opens
    cases moves

end Ledger.Tables.Loadable

/-- Accounts stay such that they can be loaded. -/
def Ledger.Tables.loadable : Invariant Call.Typed where
  holds _ books := books.rows.Loadable
  empty := fun _ member => by cases member
  hear loadable _ := loadable
  apply permitted _ loadable executed := by
    refine Loadable.execute loadable (fun owner balance currency opens => ?_) executed
    subst opens
    exact typed_of_permitted permitted
  move _ _ loadable _ executes moving := Loadable.executes loadable executes moving

/-! ### Errors of a verdict -/

namespace Verdict

/-- Some account of the transfer is not there. -/
def isUnreferenced : Verdict → Bool
  | sourceless | targetless => true
  | _ => false

/-- Of the errors of a verdict, those for an account that is not there are violations of a foreign
key. None is retryable, and none is for a key that is taken. -/
theorem kinds_of_outcome {movement : Movement} {verdict : Verdict} {error : StoreError}
    (fails : verdict.outcome movement = .error error) :
    error.isForeignKeyViolation = verdict.isUnreferenced ∧ error.isRetryable = false ∧
      error.isUniqueViolation = false := by
  cases verdict with
  | invalid | overdrawn balance =>
    cases fails
    exact ⟨rfl, rfl, rfl⟩
  | sourceless | targetless | outOfRange =>
    cases fails
    decide
  | settled source target => cases fails

end Verdict

/-! ### Runs -/

variable {past : List Exchange} {ledger : Ledger}

/-- An account that is loaded from its row has the number and the balance of it. -/
theorem Ledger.Tables.loaded {rows : Tables} {id : Int} {row : AccountRow} {account : Account}
    (found : rows.account? id = some row) (loads : row.load = .ok account) :
    account.id = id ∧ rows.balance? id = some account.balance := by
  have its := AccountRow.load_eq_ok.mp loads
  subst its
  refine ⟨(account?_eq_some found).2, ?_⟩
  rw [balance?, found]
  rfl

/-- The accounts of a settlement are stored with the balances that it tells. -/
theorem Movement.Settles.balances {now : Instant} {movement : Movement} {before after : Books}
    {settlement : Settlement} (settles : movement.Settles now before settlement after) :
    after.rows.balance? movement.source = some settlement.source.balance ∧
      after.rows.balance? movement.target = some settlement.target.balance := by
  obtain ⟨source, pays, sourceLoads⟩ := settles.source
  obtain ⟨target, paid, targetLoads⟩ := settles.target
  exact ⟨(Tables.loaded pays sourceLoads).2, (Tables.loaded paid targetLoads).2⟩

/-- **Every transfer comes to its verdict**, in every state that a run leads to, with the database
at hand. The balances that a settlement tells are those stored after it. The verdict is not told the
numbers of the accounts, and so does not depend on which of the two is smaller. -/
theorem transfer_outcome (reachable : Reachable Call.Typed past ledger) (calm : ledger.Calm)
    (movement : Movement) :
    (ledger.transfer movement).1.map Settlement.balances =
      (ledger.rows.verdict movement).outcome movement ∧
    (∀ error, (ledger.transfer movement).1 = .error error →
      error.isForeignKeyViolation = (ledger.rows.verdict movement).isUnreferenced ∧
      error.isRetryable = false ∧ error.isUniqueViolation = false) ∧
    ∀ settlement, (ledger.transfer movement).1 = .ok settlement →
      (ledger.transfer movement).2.rows.balance? movement.source =
        some settlement.source.balance ∧
      (ledger.transfer movement).2.rows.balance? movement.target =
        some settlement.target.balance := by
  have kept := Tables.loadable.of_reachable reachable
  have verdict := calm.transfer_verdict kept.sound kept.holds movement
  refine ⟨verdict, fun error fails => ?_, fun settlement succeeds => ?_⟩
  · rw [fails] at verdict
    exact Verdict.kinds_of_outcome verdict.symm
  · exact (Ledger.settles_of_transfer kept.sound succeeds).1.balances

/-- A user with as much as an account can hold, with the greatest debt, and with some money. -/
def holdingExtremes : Work Unit := do
  let _ ← Work.createUser ⟨"eve", "Eve", "eve@example.com"⟩
  let _ ← Work.createAccount ⟨"eve", 9223372036854775807, .usd⟩
  let _ ← Work.createAccount ⟨"eve", -9223372036854775808, .cad⟩
  let _ ← Work.createAccount ⟨"eve", 50, .eur⟩

def withExtremes : Ledger :=
  (Operation.transact holdingExtremes).run .fresh

/-- Transfers with both orders of their accounts, and some on one account. -/
def atExtremes : List Movement :=
  [⟨3, 1, 60⟩, ⟨2, 3, 1⟩, ⟨3, 2, 60⟩, ⟨1, 3, 7⟩, ⟨3, 2, 20⟩, ⟨1, 1, 1⟩, ⟨2, 2, 1⟩, ⟨3, 3, 60⟩,
    ⟨4, 5, 1⟩, ⟨3, 4, 60⟩, ⟨1, 3, 0⟩]

/-- A balance out of its range comes before an overdrawn source, and an account that is not there
before both. -/
theorem transfer_outcome_extremes :
    atExtremes.map withExtremes.rows.verdict =
      [.outOfRange, .outOfRange, .overdrawn (-10), .settled 9223372036854775800 57,
        .settled 30 (-9223372036854775788), .outOfRange, .overdrawn (-9223372036854775808),
        .settled 50 50, .sourceless, .targetless, .invalid] ∧
    ∀ movement ∈ atExtremes, (withExtremes.transfer movement).1.map Settlement.balances =
      (withExtremes.rows.verdict movement).outcome movement := by
  have typed : ∀ opening : AccountOpening, IntegerRange.int64.contains opening.balance = true →
      (Work.createAccount opening).run.Asks fun query => Call.Typed (.query query) :=
    fun opening inRange => Work.asks_createAccount ⟨inRange, opening.currency, rfl⟩
  have within : (Operation.transact holdingExtremes).Within Call.Typed := by
    refine Script.asks_except_bind (Work.asks_ask _ trivial) fun _ => ?_
    refine Script.asks_except_bind (typed _ (by decide)) fun _ => ?_
    refine Script.asks_except_bind (typed _ (by decide)) fun _ => ?_
    exact Script.asks_except_bind (typed _ (by decide)) fun _ => trivial
  have reachable : Reachable Call.Typed _ withExtremes :=
    .step (.transact holdingExtremes) .fresh within
  have calm : withExtremes.Calm := ⟨rfl, rfl, rfl⟩
  exact ⟨by decide, fun movement _ => (transfer_outcome reachable calm movement).1⟩

end Passbook
