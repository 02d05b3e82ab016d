/-
**No account is overdrawn.**

A balance may only be lowered by a transfer, and a transfer looks at the balance of its source after
both changes; so an account never falls below zero, and one that was opened below zero is never
debited at all.

* `Tables.Upholds before after` — no account is gone, and none is below both zero and what it held.
* `upholds_of_execute`, `Movement.Settles.upholds` — statements that add to no balance uphold the
  balances, and so do transfers that are settled.
* `Floored` — no account is below both zero and what it was opened with.
* **`no_overdraft`** — after every run in which no work changes balances by itself, no account is
  overdrawn, and none will be by any further operation: no transfer to another account takes more
  than its source holds.
-/

import Passbook.Proofs.Money.Opening

namespace Passbook

open Ledger (Query Books Tables AccountRow Exchange Numbered Serials)
open Time (Instant)

/-! ### Balances upheld -/

namespace Ledger.Tables

/-- Every account is there afterwards, and not below both zero and its balance before. -/
def Upholds (before after : Tables) : Prop :=
  ∀ account ∈ before.accounts, ∃ later ∈ after.accounts,
    later.id = account.id ∧ min 0 account.balance ≤ later.balance

theorem Upholds.refl (tables : Tables) : tables.Upholds tables :=
  fun account member => ⟨account, member, rfl, Int.min_le_right _ _⟩

theorem Upholds.trans {first second third : Tables} (before : first.Upholds second)
    (after : second.Upholds third) : first.Upholds third := by
  intro account member
  obtain ⟨between, inside, its, held⟩ := before account member
  obtain ⟨later, last, same, holds⟩ := after between inside
  exact ⟨later, last, same.trans its, by omega⟩

end Ledger.Tables

section Steps

variable {now : Instant} {before after : Books}

theorem upholds_of_execute {query : Query} {answer : query.Answer} (leaves : ¬ query.AddsBalance)
    (executed : before.execute now query = .ok (answer, after)) :
    before.rows.Upholds after.rows := by
  intro account member
  refine ⟨account, ?_, rfl, Int.min_le_right _ _⟩
  rcases accounts_of_execute leaves executed with same | ⟨opened, _, _, _, grown⟩
  · rw [same]
    exact member
  · rw [grown]
    exact List.mem_append_left _ member

theorem Movement.Settles.upholds {movement : Movement} {settlement : Settlement}
    (settles : movement.Settles now before settlement after) (sound : before.Sound) :
    before.rows.Upholds after.rows := by
  intro account member
  rw [settles.books]
  exact ⟨Tables.added account (movement.change account.id), List.mem_map_of_mem member, rfl,
    settles.floor sound member⟩

end Steps

/-! ### Balances and openings -/

/-- No account is below both zero and the balance that it was opened with. -/
structure Floored (past : List Exchange) (books : Books) : Prop where
  numbers : Numbered books.serials.accounts ((openings past).map (·.account))
  held : ∀ account ∈ books.rows.accounts, ∃ opening ∈ openings past,
    opening.account = account.id ∧ min 0 opening.balance ≤ account.balance

namespace Floored

variable {past : List Exchange} {before after : Books}

theorem hear {serials later : Serials} {rows : Tables} {exchange : Exchange}
    (floored : Floored past ⟨serials, rows⟩) (hands : serials.Hands exchange later) :
    Floored (past ++ [exchange]) ⟨later, rows⟩ := by
  obtain ⟨numbers, stays⟩ := openings_of_hands floored.numbers hands
  refine ⟨numbers, fun account member => ?_⟩
  obtain ⟨opening, known, its⟩ := floored.held account member
  exact ⟨opening, stays opening known, its⟩

/-- An account that is opened holds what it is opened with. -/
theorem apply {now : Instant} {query : Query} {answer : query.Answer}
    (floored : Floored past before) (leaves : ¬ query.AddsBalance)
    (executed : before.execute now query = .ok (answer, after)) :
    Floored (past ++ [⟨query, .ok answer⟩]) after := by
  obtain ⟨numbers, held⟩ := floored.hear (Serials.hands_of_execute executed)
  refine ⟨numbers, ?_⟩
  rcases accounts_of_execute leaves executed with same | ⟨account, _, _, opens, grown⟩
  · rw [same]
    exact held
  · rw [grown]
    refine Ledger.forall_mem_snoc held ⟨⟨account.id, account.balance⟩, ?_, rfl, ?_⟩
    · rw [opens]
      exact List.mem_append_right _ List.mem_cons_self
    · exact Int.min_le_right _ _

theorem move {now : Instant} {movement : Movement} {settlement : Settlement}
    {exchanges : List Exchange} (floored : Floored past before) (sound : before.Sound)
    (settles : movement.Settles now before settlement after)
    (moving : ∀ exchange ∈ exchanges, exchange.query.MovesMoney) :
    Floored (past ++ exchanges) after := by
  rw [settles.books]
  refine ⟨?_, fun account member => ?_⟩
  · rw [openings_append_of_movesMoney moving]
    exact floored.numbers
  · rw [openings_append_of_movesMoney moving]
    obtain ⟨row, stored, rfl⟩ := List.mem_map.mp member
    obtain ⟨opening, known, its, held⟩ := floored.held row stored
    have floor := settles.floor sound stored
    refine ⟨opening, known, its, ?_⟩
    show min 0 opening.balance ≤ row.balance + movement.change row.id
    omega

end Floored

/-! ### Runs -/

/-- A call that adds to no balance by itself; it may be a whole transfer. -/
def Call.LeavesBalances : Call → Prop
  | .query asked => ¬ asked.AddsBalance
  | .transfer _ => True

theorem leavesBalances_of_still {query : Query} (still : ¬ query.MovesMoney) :
    (Call.query query).LeavesBalances :=
  fun adds => still adds.movesMoney

/-- No account is overdrawn. -/
def Floored.invariant : Invariant Call.LeavesBalances where
  holds := Floored
  empty := ⟨.nil 0, fun _ member => by cases member⟩
  hear floored hands := floored.hear hands
  apply permitted _ floored executed :=
    floored.apply (permitted.admitted leavesBalances_of_still) executed
  move _ sound floored settles _ moving := floored.move sound settles moving

/-- The balances of a start are upheld. -/
def Ledger.Tables.upheld (start : Tables) : Preserved (Call.Permitted Call.LeavesBalances) where
  holds _ books := start.Upholds books.rows
  hear upheld _ := upheld
  apply permitted _ upheld executed :=
    upheld.trans (upholds_of_execute (permitted.admitted leavesBalances_of_still) executed)
  move _ sound upheld settles _ _ := upheld.trans (settles.upholds sound)

variable {past : List Exchange} {ledger : Ledger}

/-- **No overdraft** after a run in which balances change only by whole transfers, and none by any
operation after it: a transfer to another account that succeeds takes no more than its source held,
a balance that is not negative does not become so, and a negative one is not lowered. -/
theorem no_overdraft (reachable : Reachable Call.LeavesBalances past ledger) :
    (∀ account ∈ ledger.rows.accounts, ∃ opening,
      (openings past).filter (fun opening => opening.account == account.id) = [opening] ∧
      min 0 opening.balance ≤ account.balance) ∧
    ∀ operation : Operation, operation.Within Call.LeavesBalances →
      (∀ attempt ∈ operation.attempts ledger, ∀ settlement, attempt.outcome = .ok settlement →
        attempt.movement.source ≠ attempt.movement.target →
        ∃ account, attempt.ledger.rows.account? attempt.movement.source = some account ∧
          attempt.movement.amount ≤ account.balance) ∧
      (∀ account ∈ ledger.rows.accounts, ∃ later,
        (operation.run ledger).rows.account? account.id = some later ∧
        (0 ≤ account.balance → 0 ≤ later.balance) ∧
        (account.balance < 0 → account.balance ≤ later.balance)) := by
  have kept := Floored.invariant.of_reachable reachable
  have floored : Floored past ledger.books := kept.holds
  refine ⟨fun account member => ?_, fun operation within => ⟨?_, ?_⟩⟩
  · obtain ⟨opening, known, its, held⟩ := floored.held account member
    refine ⟨opening, ?_, held⟩
    rw [← its]
    exact Ledger.filter_eq_singleton floored.numbers.nodup known
  · intro attempt member settlement succeeds apart
    obtain ⟨_, _, earlier⟩ := kept.of_attempts (Operation.asks_of_within within) attempt member
    rcases Ledger.transfer_cases attempt.movement earlier.sound with
      ⟨settled, after, met, settles, _⟩ | ⟨error, after, met, _⟩
    · exact settles.amount_le apart
    · rw [Attempt.outcome, met] at succeeds
      cases succeeds
  · intro account member
    have start : (Ledger.Tables.upheld ledger.rows).Kept past ledger.books :=
      ⟨kept.sound, Tables.Upholds.refl ledger.rows⟩
    have upheld := start.operation (Operation.asks_of_within within)
    obtain ⟨later, inside, its, held⟩ := upheld.holds account member
    refine ⟨later, ?_, fun _ => ?_, fun _ => ?_⟩
    · rw [← its]
      exact Tables.account?_of_mem upheld.sound.accounts.nodup inside
    · omega
    · omega

/-- A user with a debt in one currency and some money in another. -/
def borrowing : Work Unit := do
  let _ ← Work.createUser ⟨"bob", "Bob", "bob@example.com"⟩
  let _ ← Work.createAccount ⟨"bob", -5, .usd⟩
  let _ ← Work.createAccount ⟨"bob", 20, .eur⟩

/-- A ledger in which a part of the debt has been paid. -/
def paidBack : Ledger :=
  (Operation.transfer ⟨2, 1, 3⟩).run ((Operation.transact borrowing).run .fresh)

/-- What is left of the debt does not grow: the debtor's account cannot be debited. -/
theorem no_overdraft_paidBack :
    paidBack.rows.accounts.map (·.balance) = [-2, 17] ∧
      ∃ later, ((Operation.transfer ⟨1, 2, 1⟩).run paidBack).rows.account? 1 = some later ∧
        -2 ≤ later.balance := by
  have within : (Operation.transact borrowing).Within Call.LeavesBalances := by
    refine Script.asks_except_bind (Work.asks_ask _ id) fun _ => ?_
    refine Script.asks_except_bind (Work.asks_createAccount id) fun _ => ?_
    exact Script.asks_except_bind (Work.asks_createAccount id) fun _ => trivial
  have reachable : Reachable Call.LeavesBalances _ paidBack :=
    .step (.transfer ⟨2, 1, 3⟩) (.step (.transact borrowing) .fresh within) trivial
  obtain ⟨_, further⟩ := no_overdraft reachable
  obtain ⟨_, keeps⟩ := further (.transfer ⟨1, 2, 1⟩) trivial
  have debtor : (⟨1, "bob", -2, "USD", .newYear2024⟩ : AccountRow) ∈ paidBack.rows.accounts := by
    decide
  obtain ⟨later, found, _, notLowered⟩ := keeps _ debtor
  exact ⟨by decide, later, found, notLowered (by decide)⟩

end Passbook
