/-
**A transfer touches its two accounts only, and depends on nothing else.**

* `Settlement.outline` — what a settlement tells, but for the numbers and instants that were handed
  out and for what an account is besides its balance.
* `Movement.Touches` — the rows that differ after a transfer: two balances, one new transfer and two
  new entries.
* `Ledger.outline_of_agree` — two ledgers that agree on what the two accounts hold answer a transfer
  alike.
* `Ledger.balance?_transfer` — what other accounts hold is the same after it.
* `Reachable.outline_after`, `Reachable.accounts_after` — so transfers between accounts that are
  apart do not meet.
* **`transfer_apart`** — all of this after every run.

A transfer comes to its verdict, and the verdict is told nothing but what the two accounts hold. So
whatever leaves those two balances leaves the answer, a transfer that is apart among it, also one
that fails; and the balances after both are sums, in which the order does not show.
-/

import Passbook.Proofs.Money.Outcome
import Passbook.Proofs.Money.Receipt

namespace Passbook

open Ledger (Books Tables AccountRow Exchange)
open Time (Instant)

/-! ### Outlines -/

/-- What a settlement tells, but for the numbers and instants that were handed out and for what an
account is besides its balance. -/
structure Outline where
  transfer : Movement
  debit : BalanceChange
  credit : BalanceChange
  /-- The entries cancel and belong to the transfer. -/
  balanced : Bool
  /-- The number of the source, and what it holds. -/
  source : Int × Int
  target : Int × Int
  deriving DecidableEq, Repr

def Settlement.outline (settlement : Settlement) : Outline where
  transfer :=
    ⟨settlement.transfer.source, settlement.transfer.target, settlement.transfer.amount⟩
  debit := ⟨settlement.debit.account, settlement.debit.amount⟩
  credit := ⟨settlement.credit.account, settlement.credit.amount⟩
  balanced := settlement.isBalanced
  source := (settlement.source.id, settlement.source.balance)
  target := (settlement.target.id, settlement.target.balance)

/-- The outline of a settlement that leaves these balances. -/
def Movement.outline (movement : Movement) (balances : Int × Int) : Outline where
  transfer := movement
  debit := movement.debit
  credit := movement.credit
  balanced := true
  source := (movement.source, balances.1)
  target := (movement.target, balances.2)

namespace Movement

variable {now : Instant} {movement other : Movement} {before after : Books}
  {settlement : Settlement}

theorem Settles.outline (settles : movement.Settles now before settlement after) :
    settlement.outline = movement.outline settlement.balances := by
  obtain ⟨source, pays, sourceLoads⟩ := settles.source
  obtain ⟨target, paid, targetLoads⟩ := settles.target
  simp only [Settlement.outline, Movement.outline, Settlement.balances, settles.isBalanced,
    settles.transfer, settles.debit, settles.credit, (Tables.loaded pays sourceLoads).1,
    (Tables.loaded paid targetLoads).1]
  rfl

/-! ### Rows that differ -/

/-- **The rows that differ after a transfer**: the balances of its two accounts, one new transfer
and two new entries. -/
structure Touches (movement : Movement) (settlement : Settlement) (before after : Tables) :
    Prop where
  users : after.users = before.users
  accounts : after.accounts = before.accounts.map fun row =>
    if row.id = movement.source ∨ row.id = movement.target then
      { row with balance := row.balance + movement.change row.id }
    else row
  transfers : after.transfers = before.transfers ++ [settlement.transfer]
  entries : after.entries = before.entries ++ [settlement.debit, settlement.credit]

theorem change_apart {id : Int} (fromSource : id ≠ movement.source)
    (fromTarget : id ≠ movement.target) : movement.change id = 0 := by
  simp [change, Tables.only, fromSource, fromTarget]

theorem Settles.touches (settles : movement.Settles now before settlement after) :
    movement.Touches settlement before.rows after.rows := by
  rw [settles.books]
  refine ⟨rfl, List.map_congr_left fun row _ => ?_, ?_, ?_⟩
  · by_cases touched : row.id = movement.source ∨ row.id = movement.target
    · rw [if_pos touched]
      rfl
    · rw [not_or] at touched
      rw [if_neg (not_or.mpr touched), change_apart touched.1 touched.2, Tables.added_zero]
  · rw [settles.transfer]
    rfl
  · rw [settles.debit, settles.credit]
    rfl

/-- No account of one transfer is one of the other. -/
structure Apart (movement other : Movement) : Prop where
  sources : movement.source ≠ other.source
  outgoing : movement.source ≠ other.target
  incoming : movement.target ≠ other.source
  targets : movement.target ≠ other.target

theorem Apart.symm (apart : movement.Apart other) : other.Apart movement :=
  ⟨apart.sources.symm, apart.incoming.symm, apart.outgoing.symm, apart.targets.symm⟩

/-- What a transfer adds to the balances, whether it succeeds or fails. -/
def shift {α : Type} (movement : Movement) : Except StoreError α → Int → Int
  | .ok _ => movement.change
  | .error _ => fun _ => 0

theorem shift_map {α β : Type} (f : α → β) (outcome : Except StoreError α) :
    movement.shift (outcome.map f) = movement.shift outcome := by
  cases outcome <;> rfl

end Movement

/-! ### Transfers in a ledger -/

namespace Ledger

variable {ledger other : Ledger} {movement : Movement}

theorem map_outline (sound : ledger.books.Sound) (movement : Movement) :
    (ledger.transfer movement).1.map Settlement.outline =
      ((ledger.transfer movement).1.map Settlement.balances).map movement.outline := by
  cases outcome : (ledger.transfer movement).1 with
  | ok settlement =>
    exact congrArg Except.ok (settles_of_transfer sound outcome).1.outline
  | error error => rfl

/-- **Ledgers that agree on what the two accounts hold** answer a transfer alike. -/
theorem outline_of_agree (calm : ledger.Calm) (sound : ledger.books.Sound)
    (loadable : ledger.rows.Loadable) (otherCalm : other.Calm) (otherSound : other.books.Sound)
    (otherLoadable : other.rows.Loadable)
    (source : other.rows.balance? movement.source = ledger.rows.balance? movement.source)
    (target : other.rows.balance? movement.target = ledger.rows.balance? movement.target) :
    (other.transfer movement).1.map Settlement.outline =
      (ledger.transfer movement).1.map Settlement.outline := by
  have same : other.rows.verdict movement = ledger.rows.verdict movement := by
    rw [Tables.verdict, Tables.verdict, source, target]
  rw [map_outline sound, map_outline otherSound, calm.transfer_verdict sound loadable,
    otherCalm.transfer_verdict otherSound otherLoadable, same]

/-- The accounts after a transfer, whether it succeeds or fails. -/
theorem accounts_of_transfer (sound : ledger.books.Sound) (movement : Movement) :
    (ledger.transfer movement).2.rows.accounts = ledger.rows.accounts.map fun row =>
      Tables.added row (movement.shift (ledger.transfer movement).1 row.id) := by
  cases outcome : (ledger.transfer movement).1 with
  | ok settlement =>
    show (ledger.transfer movement).2.books.rows.accounts = _
    rw [(settles_of_transfer sound outcome).1.books]
    rfl
  | error error =>
    have kept : (fun row => Tables.added row 0) = (id : AccountRow → AccountRow) :=
      funext fun row => Tables.added_zero row
    show (ledger.transfer movement).2.rows.accounts =
      ledger.rows.accounts.map fun row => Tables.added row 0
    rw [kept, List.map_id, rows_of_transfer_error outcome]

/-- What any other account holds is the same after a transfer. -/
theorem balance?_transfer (sound : ledger.books.Sound) {id : Int}
    (fromSource : id ≠ movement.source) (fromTarget : id ≠ movement.target) :
    (ledger.transfer movement).2.rows.balance? id = ledger.rows.balance? id := by
  have accounts := accounts_of_transfer sound movement
  have found : (ledger.transfer movement).2.rows.account? id =
      (ledger.rows.adjusted (movement.shift (ledger.transfer movement).1)).account? id := by
    rw [Tables.account?, accounts]
    rfl
  have nothing : movement.shift (ledger.transfer movement).1 id = 0 := by
    cases (ledger.transfer movement).1 with
    | ok settlement => exact Movement.change_apart fromSource fromTarget
    | error error => rfl
  rw [Tables.balance?, found, Tables.account?_adjusted, Tables.balance?]
  cases there : ledger.rows.account? id with
  | none => rfl
  | some row =>
    rw [Option.map_some, (Tables.account?_eq_some there).2, nothing, Tables.added_zero]

end Ledger

/-! ### Runs -/

variable {past later : List Exchange} {ledger other : Ledger} {movement : Movement}

/-- After a run, ledgers that agree on what the two accounts hold answer a transfer alike. -/
theorem Reachable.outline_of_agree (reachable : Reachable Call.Typed past ledger)
    (calm : ledger.Calm) (otherReachable : Reachable Call.Typed later other)
    (otherCalm : other.Calm)
    (source : other.rows.balance? movement.source = ledger.rows.balance? movement.source)
    (target : other.rows.balance? movement.target = ledger.rows.balance? movement.target) :
    (other.transfer movement).1.map Settlement.outline =
      (ledger.transfer movement).1.map Settlement.outline := by
  have kept := Tables.loadable.of_reachable reachable
  have otherKept := Tables.loadable.of_reachable otherReachable
  exact Ledger.outline_of_agree calm kept.sound kept.holds otherCalm otherKept.sound
    otherKept.holds source target

/-- A transfer answers the same after another that is apart from it. -/
theorem Reachable.outline_after (reachable : Reachable Call.Typed past ledger)
    (calm : ledger.Calm) {next : Movement} (apart : next.Apart movement) :
    ((ledger.transfer movement).2.transfer next).1.map Settlement.outline =
      (ledger.transfer next).1.map Settlement.outline :=
  reachable.outline_of_agree calm (.step (.transfer movement) reachable trivial)
    (calm.transfer movement)
    (Ledger.balance?_transfer reachable.sound apart.sources apart.outgoing)
    (Ledger.balance?_transfer reachable.sound apart.incoming apart.targets)

/-- The accounts after two transfers are those before with both changes, each as it is made when its
transfer comes first. -/
theorem Reachable.accounts_after (reachable : Reachable Call.Typed past ledger)
    (calm : ledger.Calm) {next : Movement} (apart : next.Apart movement) :
    ((ledger.transfer movement).2.transfer next).2.rows.accounts =
      ledger.rows.accounts.map fun row => Tables.added row
        (movement.shift (ledger.transfer movement).1 row.id +
          next.shift (ledger.transfer next).1 row.id) := by
  have between : Reachable Call.Typed _ (ledger.transfer movement).2 :=
    .step (.transfer movement) reachable trivial
  have alike : next.shift ((ledger.transfer movement).2.transfer next).1 =
      next.shift (ledger.transfer next).1 := by
    rw [← Movement.shift_map Settlement.outline, reachable.outline_after calm apart,
      Movement.shift_map]
  rw [Ledger.accounts_of_transfer between.sound, Ledger.accounts_of_transfer reachable.sound,
    alike, List.map_map]
  exact List.map_congr_left fun row _ => Tables.added_added row _ _

/-- **A transfer touches its two accounts only, and depends on nothing else.** In every state that a
run leads to, with the database at hand: every other such state in which the two accounts hold the
same, or are not there either, answers the transfer alike; no row differs after it but the balances
of the two accounts, one new transfer and two new entries, and none when it fails. So two transfers
between accounts that are apart are answered alike in either order, and leave the same accounts. -/
theorem transfer_apart (reachable : Reachable Call.Typed past ledger) (calm : ledger.Calm)
    (movement : Movement) :
    (∀ later other, Reachable Call.Typed later other → other.Calm →
      other.rows.balance? movement.source = ledger.rows.balance? movement.source →
      other.rows.balance? movement.target = ledger.rows.balance? movement.target →
      (other.transfer movement).1.map Settlement.outline =
        (ledger.transfer movement).1.map Settlement.outline) ∧
    (∀ settlement, (ledger.transfer movement).1 = .ok settlement →
      movement.Touches settlement ledger.rows (ledger.transfer movement).2.rows) ∧
    (∀ error, (ledger.transfer movement).1 = .error error →
      (ledger.transfer movement).2.rows = ledger.rows) ∧
    ∀ next : Movement, next.Apart movement →
      ((ledger.transfer movement).2.transfer next).1.map Settlement.outline =
        (ledger.transfer next).1.map Settlement.outline ∧
      ((ledger.transfer next).2.transfer movement).1.map Settlement.outline =
        (ledger.transfer movement).1.map Settlement.outline ∧
      ((ledger.transfer movement).2.transfer next).2.rows.accounts =
        ((ledger.transfer next).2.transfer movement).2.rows.accounts := by
  refine ⟨fun later other otherReachable otherCalm source target =>
      reachable.outline_of_agree calm otherReachable otherCalm source target,
    fun settlement succeeds =>
      (Ledger.settles_of_transfer reachable.sound succeeds).1.touches,
    fun error => Ledger.rows_of_transfer_error, fun next apart =>
      ⟨reachable.outline_after calm apart, reachable.outline_after calm apart.symm, ?_⟩⟩
  rw [reachable.accounts_after calm apart, reachable.accounts_after calm apart.symm]
  refine List.map_congr_left fun row _ => ?_
  rw [Int.add_comm]

/-- One transfer succeeds and one fails, between accounts that are apart, and the first of them is
answered alike where the others have paid already. -/
theorem transfer_apart_overdrawn :
    (paidDown.transfer ⟨2, 3, 40⟩).1.map Settlement.outline =
      (demonstration.transfer ⟨2, 3, 40⟩).1.map Settlement.outline ∧
    (demonstration.transfer ⟨2, 3, 40⟩).1.map Settlement.outline =
      .ok (Movement.outline ⟨2, 3, 40⟩ (60, 140)) ∧
    ((demonstration.transfer ⟨2, 3, 40⟩).2.transfer ⟨4, 1, 500⟩).1.map Settlement.outline =
      .error (.insufficientFunds 4 (-400)) ∧
    ((demonstration.transfer ⟨2, 3, 40⟩).2.transfer ⟨4, 1, 500⟩).2.rows.accounts =
      ((demonstration.transfer ⟨4, 1, 500⟩).2.transfer ⟨2, 3, 40⟩).2.rows.accounts ∧
    (demonstration.transfer ⟨4, 1, 500⟩).2.rows = demonstration.rows := by
  have reachable : Reachable Call.Typed _ demonstration := .step .seed .fresh trivial
  have paid : Reachable Call.Typed _ paidDown := .step (.transfer ⟨4, 1, 30⟩) reachable trivial
  have calm : demonstration.Calm := ⟨by decide, by decide, by decide⟩
  have paidCalm : paidDown.Calm := ⟨by decide, by decide, by decide⟩
  have moved := transfer_apart reachable calm ⟨2, 3, 40⟩
  have refused := transfer_apart reachable calm ⟨4, 1, 500⟩
  have apart : Movement.Apart ⟨4, 1, 500⟩ ⟨2, 3, 40⟩ :=
    ⟨by decide, by decide, by decide, by decide⟩
  obtain ⟨alike, _, accounts⟩ := moved.2.2.2 _ apart
  have fails : (demonstration.transfer ⟨4, 1, 500⟩).1 = .error (.insufficientFunds 4 (-400)) := by
    decide +kernel
  refine ⟨moved.1 _ paidDown paid paidCalm (by decide) (by decide), by decide +kernel,
    alike.trans ?_, accounts, refused.2.2.1 _ fails⟩
  rw [fails]
  rfl

end Passbook
