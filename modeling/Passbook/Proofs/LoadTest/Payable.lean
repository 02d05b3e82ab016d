/-
**Which transfers of a load test are made.**

Where nothing else stands in the way, a transfer of the test succeeds if and only if the account
that is to pay holds the amount. So what a test makes of its transfers is told by the order of their
numbers alone.

* `affordable first second order` — the numbers whose transfers two accounts can pay for, one after
  another, with what they hold.
* `affordable_append`, `length_affordable_of_parity` — how far the accounts can pay.
* `Balanced.isSuccess_transfer` — when one transfer succeeds.
* **`Balanced.succeeded_fire`** — in a calm ledger those transfers succeed that can be paid for.
-/

import Passbook.Proofs.LoadTest.Balance

namespace Passbook.LoadTest

open Ledger (Tables AccountRow)
open Text (IntegerRange)

/-! ### What can be paid for -/

/-- Of these numbers, those whose transfers the accounts can pay for in this order, when they hold
so much. -/
def affordable (first second : Int) : List Nat → List Nat
  | [] => []
  | n :: rest =>
    if n % 2 = 0 then
      if amount ≤ first then n :: affordable (first - amount) (second + amount) rest
      else affordable first second rest
    else
      if amount ≤ second then n :: affordable (first + amount) (second - amount) rest
      else affordable first second rest

/-- What can be paid for leaves neither account with less than nothing. -/
theorem affordable_cons {first second : Int} (firstFunded : 0 ≤ first) (secondFunded : 0 ≤ second)
    (n : Nat) (rest : List Nat) :
    affordable first second (n :: rest) =
      if 0 ≤ first + share n ∧ 0 ≤ second - share n then
        n :: affordable (first + share n) (second - share n) rest
      else affordable first second rest := by
  unfold share amount
  rw [affordable]
  unfold amount
  by_cases even : n % 2 = 0
  · simp only [if_pos even]
    refine if_congr (by omega) ?_ rfl
    rw [Int.sub_eq_add_neg, Int.sub_neg]
  · simp only [if_neg even]
    exact if_congr (by omega) rfl rfl

/-- What is paid for first leaves the accounts what the rest is paid from. -/
theorem affordable_append (early late : List Nat) {first second : Int} (firstFunded : 0 ≤ first)
    (secondFunded : 0 ≤ second) : affordable first second (early ++ late) =
      affordable first second early ++ affordable (first + brought (affordable first second early))
        (second - brought (affordable first second early)) late := by
  induction early generalizing first second with
  | nil =>
    show affordable first second late = affordable (first + 0) (second - 0) late
    rw [Int.add_zero, Int.sub_zero]
  | cons n rest ih =>
    rw [List.cons_append, affordable_cons firstFunded secondFunded,
      affordable_cons firstFunded secondFunded]
    by_cases funds : 0 ≤ first + share n ∧ 0 ≤ second - share n
    · rw [if_pos funds, if_pos funds, ih funds.1 funds.2, List.cons_append, brought_cons,
        Int.add_assoc, Int.sub_sub]
    · rw [if_neg funds, if_neg funds, ih firstFunded secondFunded]

theorem affordable_sublist (first second : Int) (order : List Nat) :
    (affordable first second order).Sublist order := by
  induction order generalizing first second with
  | nil => exact .slnil
  | cons n rest ih =>
    rw [affordable]
    split <;> split
    · exact (ih _ _).cons_cons n
    · exact (ih _ _).cons n
    · exact (ih _ _).cons_cons n
    · exact (ih _ _).cons n

/-- Transfers that all go the same way are paid for as long as the account that pays holds the
amount. -/
theorem length_affordable_of_parity {order : List Nat} {parity : Nat}
    (same : ∀ n ∈ order, n % 2 = parity) (first second : Int) :
    (affordable first second order).length =
      min order.length ((if parity = 0 then first else second) / amount).toNat := by
  induction order generalizing first second with
  | nil => exact (Nat.zero_min _).symm
  | cons n rest ih =>
    have later := ih fun other member => same other (List.mem_cons_of_mem _ member)
    rw [affordable, same n List.mem_cons_self, List.length_cons]
    unfold amount at later ⊢
    by_cases forth : parity = 0
    · simp only [if_pos forth] at later ⊢
      split
      · rw [List.length_cons, later]
        omega
      · rw [later]
        omega
    · simp only [if_neg forth] at later ⊢
      split
      · rw [List.length_cons, later]
        omega
      · rw [later]
        omega

theorem brought_of_even {made : List Nat} (even : ∀ n ∈ made, n % 2 = 0) :
    brought made = -amount * made.length := by
  induction made with
  | nil => rfl
  | cons n rest ih =>
    have later := ih fun other member => even other (List.mem_cons_of_mem _ member)
    rw [brought_cons, later, share, if_pos (even n List.mem_cons_self), List.length_cons]
    unfold amount
    omega

/-! ### Transfers in a calm ledger -/

variable {pair : Pair} {made : List Nat} {rows : Tables} {ledger : Ledger} {n : Nat}

/-- The transfer of a number can be paid for after those of others: it leaves neither account with
less than nothing. -/
def Payable (made : List Nat) (n : Nat) : Prop :=
  0 ≤ openingBalance + brought made + share n ∧ 0 ≤ openingBalance + -brought made - share n

namespace Balanced

theorem hasAccounts (balanced : Balanced pair made rows) (n : Nat) :
    rows.HasAccount (movement pair n).source ∧ rows.HasAccount (movement pair n).target := by
  obtain ⟨first, found, _⟩ := balanced.first.stored
  obtain ⟨second, found', _⟩ := balanced.second.stored
  have hasFirst : rows.HasAccount pair.first := ⟨first, Tables.account?_eq_some found⟩
  have hasSecond : rows.HasAccount pair.second := ⟨second, Tables.account?_eq_some found'⟩
  rcases movement_cases pair n with ⟨source, target⟩ | ⟨source, target⟩
  · rw [source, target]
    exact ⟨hasFirst, hasSecond⟩
  · rw [source, target]
    exact ⟨hasSecond, hasFirst⟩

/-- An account of a transfer that can be paid for can be loaded, and has room for it. -/
theorem room (balanced : Balanced pair made rows) (payable : Payable made n) {id : Int}
    {row : AccountRow} (own : id = (movement pair n).source ∨ id = (movement pair n).target)
    (found : rows.account? id = some row) :
    row.Readable ∧ (0 ≤ row.balance ∧ row.balance ≤ 2 * openingBalance) ∧
      0 ≤ row.balance + (movement pair n).change id ∧
      row.balance + (movement pair n).change id ≤ 2 * openingBalance := by
  obtain ⟨first, foundFirst, firstReadable, firstBalance⟩ := balanced.first.stored
  obtain ⟨second, foundSecond, secondReadable, secondBalance⟩ := balanced.second.stored
  have firstFunded := balanced.first.funded
  have secondFunded := balanced.second.funded
  obtain ⟨firstFunds, secondFunds⟩ := payable
  have either : id = pair.first ∨ id = pair.second := by
    rcases movement_cases pair n with ⟨source, target⟩ | ⟨source, target⟩
    · rwa [source, target] at own
    · rw [source, target] at own
      exact own.symm
  rcases either with rfl | rfl
  · rw [foundFirst, Option.some.injEq] at found
    subst found
    rw [change_first balanced.apart]
    exact ⟨firstReadable, by omega, by omega, by omega⟩
  · rw [foundSecond, Option.some.injEq] at found
    subst found
    rw [change_second balanced.apart]
    exact ⟨secondReadable, by omega, by omega, by omega⟩

/-- A transfer that can be paid for misses nothing. -/
theorem not_misses (balanced : Balanced pair made rows) (payable : Payable made n)
    {error : StoreError} : ¬ (movement pair n).Misses rows error := by
  intro misses
  cases misses with
  | overdrawn found short =>
    obtain ⟨_, _, funded, _⟩ := balanced.room payable (.inl rfl) found
    omega
  | outOfRange wide =>
    refine wide (Movement.fits_of_room (fun row found => ?_) fun row found => ?_)
    · obtain ⟨_, _, funded, most⟩ := balanced.room payable (.inl rfl) found
      rw [IntegerRange.int64_contains]
      unfold openingBalance at most
      omega
    · obtain ⟨_, ⟨funded, most⟩, _⟩ := balanced.room payable (.inr rfl) found
      rw [IntegerRange.int64_contains, amount_movement]
      unfold openingBalance at most
      unfold amount
      omega
  | unreadable own found unread =>
    exact (balanced.room payable own found).1.load_ne_error unread

/-- **One transfer succeeds** in a calm ledger if and only if it can be paid for. -/
theorem isSuccess_transfer (balanced : Balanced pair made ledger.rows)
    (attained : ledger.Attained) (calm : ledger.Calm) (n : Nat) :
    isSuccess (ledger.transfer (movement pair n)).1 = true ↔ Payable made n := by
  constructor
  · intro success
    have after := balanced.transfer attained n
    rw [if_pos success] at after
    have first := after.first.funded
    have second := after.second.funded
    rw [brought_append, brought_singleton] at first second
    exact ⟨by omega, by omega⟩
  · intro payable
    have positive : 0 < (movement pair n).amount := amount_movement pair n ▸ (by decide)
    obtain ⟨hasSource, hasTarget⟩ := balanced.hasAccounts n
    rcases calm.transfer_cases attained.sound positive hasSource hasTarget with
      ⟨settlement, succeeds⟩ | ⟨error, _, misses⟩
    · rw [succeeds]
      rfl
    · exact absurd misses (balanced.not_misses payable)

/-- **The transfers that succeed** in a calm ledger are those that can be paid for. -/
theorem succeeded_fire (balanced : Balanced pair made ledger.rows) (attained : ledger.Attained)
    (calm : ledger.Calm) (order : List Nat) :
    succeeded (LoadTest.fire pair order ledger).1 =
      affordable (openingBalance + brought made) (openingBalance + -brought made) order := by
  induction order generalizing made ledger with
  | nil => rfl
  | cons n rest ih =>
    have later := ih (balanced.transfer attained n) (attained.transfer _) (calm.transfer _)
    have success := balanced.isSuccess_transfer attained calm n
    rw [fire_cons, succeeded_cons, later, affordable_cons balanced.first.funded
      balanced.second.funded]
    by_cases payable : 0 ≤ openingBalance + brought made + share n ∧
        0 ≤ openingBalance + -brought made - share n
    · rw [if_pos (success.mpr payable), if_pos payable, brought_append, brought_singleton,
        Int.neg_add, ← Int.add_assoc, ← Int.add_assoc, ← Int.sub_eq_add_neg]
      rfl
    · rw [if_neg (mt success.mp payable), if_neg payable, List.append_nil]
      rfl

end Balanced

/-- A calm ledger stays calm in the transfers. -/
theorem calm_fire (calm : ledger.Calm) (pair : Pair) (order : List Nat) :
    (fire pair order ledger).2.Calm := by
  induction order generalizing ledger with
  | nil => exact calm
  | cons n rest ih => exact ih (calm.transfer _)

end Passbook.LoadTest
