/-
**What a settlement tells is what is stored.**

A transfer that succeeds answers a settlement: the transfer with its two entries, and the two
accounts. The accounts are captured at different moments, and given to source and target by the
order of their numbers.

* `shows_findTransfer`, `shows_findEntry`, `shows_findAccount` — what is stored is shown.
* `Movement.Settles.isBalanced` — the entries of a settlement balance.
* **`settlement_stored`** — whatever a settlement tells is read from the ledger after it.
-/

import Passbook.Proofs.Money.AnyOrder
import Passbook.Proofs.Store.Single

namespace Passbook

open Ledger (Query Books Tables AccountRow Exchange)
open Time (Instant)

/-! ### What a ledger shows -/

namespace Ledger

variable {ledger : Ledger} (laid : ledger.tables.isSome = true)

include laid

theorem shows_findTransfer (sound : ledger.books.Sound) {transfer : Transfer}
    (stored : transfer ∈ ledger.rows.transfers) :
    ledger.Shows (Work.findTransfer transfer.id) (some transfer) := by
  have executed : ledger.books.execute ledger.clock (.findTransfer transfer.id) =
      .ok (some transfer, ledger.books) := by
    refine Books.execute_eq_ok.mpr ⟨?_, rfl⟩
    rw [← find?_of_mem sound.transfers.nodup stored]
    rfl
  exact (Work.single_ask (.findTransfer transfer.id)).shows rfl laid executed rfl

theorem shows_findEntry (sound : ledger.books.Sound) {entry : Entry}
    (stored : entry ∈ ledger.rows.entries) :
    ledger.Shows (Work.findEntry entry.id) (some entry) := by
  have executed : ledger.books.execute ledger.clock (.findEntry entry.id) =
      .ok (some entry, ledger.books) := by
    refine Books.execute_eq_ok.mpr ⟨?_, rfl⟩
    rw [← find?_of_mem sound.entries.nodup stored]
    rfl
  exact (Work.single_ask (.findEntry entry.id)).shows rfl laid executed rfl

/-- An account is shown as it is loaded from its row. -/
theorem shows_findAccount {id : Int} {row : AccountRow} {account : Account}
    (found : ledger.rows.account? id = some row) (loads : row.load = .ok account) :
    ledger.Shows (Work.findAccount id) (some account) := by
  have executed : ledger.books.execute ledger.clock (.findAccount id) =
      .ok (some row, ledger.books) := by
    refine Books.execute_eq_ok.mpr ⟨?_, rfl⟩
    rw [← found]
    rfl
  refine (Work.single_findAccount id).shows rfl laid executed ?_
  rw [Option.mapM_some, loads]
  rfl

end Ledger

/-! ### Settlements -/

namespace Movement.Settles

variable {now : Instant} {movement : Movement} {before after : Books} {settlement : Settlement}
  (settles : movement.Settles now before settlement after)

include settles

/-- The two entries cancel, belong to the transfer and stand on its accounts. -/
theorem isBalanced : settlement.isBalanced = true := by
  have cancel : settlement.debit.amount + settlement.credit.amount = 0 := by
    rw [settles.debit, settles.credit]
    exact Int.add_left_neg movement.amount
  rw [Settlement.isBalanced, cancel]
  simp [settles.transfer, settles.debit, settles.credit, transferRow, debitRow, creditRow]

theorem stored : settlement.transfer ∈ after.rows.transfers ∧
    settlement.debit ∈ after.rows.entries ∧ settlement.credit ∈ after.rows.entries := by
  rw [settles.books, settles.transfer, settles.debit, settles.credit]
  simp [settled]

end Movement.Settles

variable {may : Call → Prop} {past : List Exchange} {ledger after : Ledger}

/-- **What a settlement tells is what is stored**, in every state that a run leads to and for every
transfer that succeeds: the transfer and its entries are read by the numbers that the settlement
tells, and the accounts by those of the transfer, unless the ledger is in trouble. On a transfer
from an account to itself both accounts are the one that is stored. The entries balance, and it is
the source that is debited. -/
theorem settlement_stored (reachable : Reachable may past ledger) {movement : Movement}
    {settlement : Settlement} (succeeds : ledger.transfer movement = (.ok settlement, after)) :
    after.Shows (Work.findTransfer settlement.transfer.id) (some settlement.transfer) ∧
    after.Shows (Work.findEntry settlement.debit.id) (some settlement.debit) ∧
    after.Shows (Work.findEntry settlement.credit.id) (some settlement.credit) ∧
    after.Shows (Work.findAccount movement.source) (some settlement.source) ∧
    after.Shows (Work.findAccount movement.target) (some settlement.target) ∧
    (movement.source = movement.target → settlement.source = settlement.target) ∧
    settlement.isBalanced = true ∧
    settlement.debit.isDebit = true ∧ settlement.credit.isDebit = false ∧
    settlement.transfer.source = movement.source ∧ settlement.transfer.target = movement.target ∧
    settlement.transfer.amount = movement.amount := by
  have sound := reachable.sound
  obtain ⟨settles, executes⟩ := Ledger.settles_of_transfer sound (congrArg Prod.fst succeeds)
  rw [succeeds] at settles executes
  have afterSound := sound.executes executes
  obtain ⟨source, pays, sourceLoads⟩ := settles.source
  obtain ⟨target, paid, targetLoads⟩ := settles.target
  have laid : after.tables.isSome = true :=
    Ledger.laid_of_hasAccount ⟨source, Tables.account?_eq_some pays⟩
  obtain ⟨transferStored, debitStored, creditStored⟩ := settles.stored
  have positive := settles.positive
  refine ⟨Ledger.shows_findTransfer laid afterSound transferStored,
    Ledger.shows_findEntry laid afterSound debitStored,
    Ledger.shows_findEntry laid afterSound creditStored,
    Ledger.shows_findAccount laid pays sourceLoads,
    Ledger.shows_findAccount laid paid targetLoads, fun one => ?_, settles.isBalanced, ?_, ?_,
    ?_, ?_, ?_⟩
  · rw [one, paid] at pays
    cases pays
    exact Except.ok.inj (sourceLoads.symm.trans targetLoads)
  · rw [settles.debit]
    show decide (-movement.amount < 0) = true
    simpa using positive
  · rw [settles.credit]
    show decide (movement.amount < 0) = false
    simpa using Int.le_of_lt positive
  all_goals
    rw [settles.transfer]
    rfl

/-- After a transfer to the account with the smaller number. -/
def paidDown : Ledger :=
  (Operation.transfer ⟨4, 1, 30⟩).run demonstration

/-- What that transfer answers. -/
def downwards : Settlement where
  transfer := ⟨1, 4, 1, 30, .newYear2024⟩
  debit := ⟨1, 1, 4, -30, .newYear2024⟩
  credit := ⟨2, 1, 1, 30, .newYear2024⟩
  source := ⟨4, "gondola", 70, .usd, .newYear2024⟩
  target := ⟨1, "peepo", 130, .usd, .newYear2024⟩

/-- Both accounts are read as they were answered, the one whose balance was changed first among
them. -/
theorem settlement_stored_downwards :
    demonstration.transfer ⟨4, 1, 30⟩ = (.ok downwards, paidDown) ∧
    (paidDown.perform (Work.findTransfer 1)).1 = .ok (some downwards.transfer) ∧
    (paidDown.perform (Work.findEntry 2)).1 = .ok (some downwards.credit) ∧
    (paidDown.perform (Work.findAccount 4)).1 = .ok (some downwards.source) ∧
    (paidDown.perform (Work.findAccount 1)).1 = .ok (some downwards.target) := by
  have reachable : Reachable Call.Typed _ demonstration := .step .seed .fresh trivial
  have calm : paidDown.Calm := ⟨by decide, by decide, by decide⟩
  have answered : (demonstration.transfer ⟨4, 1, 30⟩).1 = .ok downwards :=
    eq_ok_of_toOption (by decide +kernel)
  have succeeds : demonstration.transfer ⟨4, 1, 30⟩ = (.ok downwards, paidDown) :=
    Prod.ext answered rfl
  obtain ⟨transfer, _, credit, source, target, _⟩ := settlement_stored reachable succeeds
  exact ⟨succeeds, calm.perform_of_shows transfer, calm.perform_of_shows credit,
    calm.perform_of_shows source, calm.perform_of_shows target⟩

end Passbook
