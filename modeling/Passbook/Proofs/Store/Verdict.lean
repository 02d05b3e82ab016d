/-
**The outcome of a transfer, exactly.**

What becomes of a transfer is told from its amount, from whether its two accounts are one, and from
what each of them holds, if it is there. The numbers of the accounts and their order do not matter,
although the order decides which balance is changed first.

* `Verdict.of` — the verdict on a transfer, which is not told any number of an account.
* `Verdict.outcome` — the balances of source and target after a transfer, or its error.
* `Movement.fits_between`, `Movement.fits_within` — which balances stay in the range of the column.
* `Movement.settle_wide` — where one of them does not, that is what the transfer fails with, and not
  what is overdrawn.
* `Movement.settle_between`, `Movement.settle_within` — what two accounts, or one, come to.
* **`Ledger.Calm.transfer_verdict`** — a transfer in a calm ledger comes to its verdict.

A balance that leaves its range is refused by the database when it is changed, and only after both
changes is the source looked at; that is why the range comes before the overdraft. Whether both
changes fit is a question about two sums that do not touch each other, but for a transfer from an
account to itself, where the credit is made first and must fit by itself.
-/

import Passbook.Proofs.Store.Settling

namespace Passbook

open Ledger (Books Tables AccountRow)
open Text (IntegerRange)
open Time (Instant)

/-! ### Verdicts -/

/-- What becomes of a transfer. -/
inductive Verdict where
  /-- It is of nothing or less. -/
  | invalid
  | sourceless
  | targetless
  /-- A balance would leave the range of its column. -/
  | outOfRange
  /-- The source would be left with a balance below zero. -/
  | overdrawn (balance : Int)
  /-- The accounts are left with these balances. -/
  | settled (source target : Int)
  deriving DecidableEq, Repr

namespace Verdict

/-- The verdict on a transfer between two accounts with these balances. -/
def between (amount source target : Int) : Verdict :=
  if 9223372036854775807 < target + amount ∨ source - amount < -9223372036854775808 then .outOfRange
  else if source - amount < 0 then .overdrawn (source - amount)
  else .settled (source - amount) (target + amount)

/-- The verdict on a transfer from an account with this balance to itself. -/
def within (amount balance : Int) : Verdict :=
  if 9223372036854775807 < balance + amount then .outOfRange
  else if balance < 0 then .overdrawn balance
  else .settled balance balance

/-- The verdict on a transfer of an amount; `one` says whether source and target are one account,
and the balances are those of the accounts that are there. -/
def of (amount : Int) (one : Bool) (source target : Option Int) : Verdict :=
  if amount ≤ 0 then .invalid
  else
    match source, target with
    | none, _ => .sourceless
    | some _, none => .targetless
    | some source, some target => if one then within amount source else between amount source target

/-- The error of a transfer that refers to an account which is not there. -/
def unreferenced (key : String) : StoreError :=
  .database (.ofRefusal (.missingReference .transfers key))

/-- What a transfer comes to: the balances of source and target after it, or its error. -/
def outcome (movement : Movement) : Verdict → Except StoreError (Int × Int)
  | invalid => .error (.invalidAmount movement.amount)
  | sourceless => .error (unreferenced "transfers_from_account_id_fkey")
  | targetless => .error (unreferenced "transfers_to_account_id_fkey")
  | outOfRange => .error (.database (.ofRefusal .outOfRange))
  | overdrawn balance => .error (.insufficientFunds movement.source balance)
  | settled source target => .ok (source, target)

end Verdict

/-- The balances of source and target after a transfer. -/
def Settlement.balances (settlement : Settlement) : Int × Int :=
  (settlement.source.balance, settlement.target.balance)

namespace Ledger.Tables

/-- What an account holds, if it is there. -/
def balance? (rows : Tables) (id : Int) : Option Int :=
  (rows.account? id).map (·.balance)

/-- The verdict on a transfer. -/
def verdict (rows : Tables) (movement : Movement) : Verdict :=
  .of movement.amount (movement.source == movement.target) (rows.balance? movement.source)
    (rows.balance? movement.target)

/-- Every account can be loaded, and its balance is in the range of the column. -/
def Loadable (rows : Tables) : Prop :=
  ∀ account ∈ rows.accounts,
    IntegerRange.int64.contains account.balance = true ∧ account.Readable

theorem Loadable.bounds {rows : Tables} (loadable : rows.Loadable) {id : Int} {row : AccountRow}
    (found : rows.account? id = some row) :
    -9223372036854775808 ≤ row.balance ∧ row.balance ≤ 9223372036854775807 :=
  IntegerRange.int64_contains.mp (loadable row (account?_eq_some found).1).1

/-- An account can still be loaded after its balance is changed. -/
theorem Loadable.load {rows : Tables} (loadable : rows.Loadable) {id : Int} {row : AccountRow}
    (found : rows.account? id = some row) (amount : Int) :
    ∃ account, (added row amount).load = .ok account := by
  have readable : (added row amount).Readable := (loadable row (account?_eq_some found).1).2
  exact readable.load

end Ledger.Tables

namespace Movement

variable {now : Instant} {movement : Movement} {before : Books} {rows : Tables}

/-! ### Balances that fit -/

theorem change_source (apart : movement.source ≠ movement.target) :
    movement.change movement.source = -movement.amount := by
  simp [change, Tables.only, apart]

theorem change_target (apart : movement.source ≠ movement.target) :
    movement.change movement.target = movement.amount := by
  simp [change, Tables.only, apart.symm]

theorem change_self (one : movement.source = movement.target) (id : Int) :
    movement.change id = 0 := by
  rw [change, ← one, Tables.only_neg, Int.add_right_neg]

/-- Between two accounts the order of the changes does not matter for what fits. -/
theorem fits_between (loadable : rows.Loadable) (positive : 0 < movement.amount)
    (apart : movement.source ≠ movement.target) {source target : AccountRow}
    (pays : rows.account? movement.source = some source)
    (paid : rows.account? movement.target = some target) :
    movement.Fits rows ↔ ¬ (9223372036854775807 < target.balance + movement.amount ∨
      source.balance - movement.amount < -9223372036854775808) := by
  have sourceBounds := loadable.bounds pays
  have targetBounds := loadable.bounds paid
  constructor
  · intro fits
    by_cases first : movement.source < movement.target
    · have down := fits.first
      have up := fits.second
      simp only [orderedChanges, if_pos first, debit, credit, pays, Tables.account?_only apart.symm,
        paid, Option.some.injEq, forall_eq', IntegerRange.int64_contains] at down up
      omega
    · have up := fits.first
      have down := fits.second
      simp only [orderedChanges, if_neg first, debit, credit, pays, Tables.account?_only apart,
        paid, Option.some.injEq, forall_eq', IntegerRange.int64_contains] at down up
      omega
  · intro room
    refine fits_of_room ?_ ?_
    · simp only [pays, change_source apart, Option.some.injEq, forall_eq',
        IntegerRange.int64_contains]
      omega
    · simp only [paid, Option.some.injEq, forall_eq', IntegerRange.int64_contains]
      omega

/-- On a transfer from an account to itself the credit comes first. -/
theorem fits_within (loadable : rows.Loadable) (positive : 0 < movement.amount)
    (one : movement.source = movement.target) {row : AccountRow}
    (pays : rows.account? movement.source = some row) :
    movement.Fits rows ↔ ¬ 9223372036854775807 < row.balance + movement.amount := by
  have bounds := loadable.bounds pays
  have paid : rows.account? movement.target = some row := one ▸ pays
  constructor
  · intro fits
    have up := fits.first
    simp only [orderedChanges, if_neg (show ¬ movement.source < movement.target by omega), credit,
      paid, Option.some.injEq, forall_eq', IntegerRange.int64_contains] at up
    omega
  · intro room
    refine fits_of_room ?_ ?_
    · simp only [pays, change_self one, Option.some.injEq, forall_eq', IntegerRange.int64_contains]
      omega
    · simp only [paid, Option.some.injEq, forall_eq', IntegerRange.int64_contains]
      omega

/-! ### The work of a transfer -/

/-- **A balance that would leave its range** is what the transfer fails with. -/
theorem settle_wide (now : Instant) (sound : before.Sound) (loadable : before.rows.Loadable)
    (positive : 0 < movement.amount) (hasSource : before.rows.HasAccount movement.source)
    (hasTarget : before.rows.HasAccount movement.target) (wide : ¬ movement.Fits before.rows) :
    (before.perform now movement.settle).1 = .error (.database (.ofRefusal .outOfRange)) := by
  obtain ⟨recordedSound, settles⟩ := perform_settle now sound positive hasSource hasTarget
  rw [settles, finish]
  obtain ⟨hasFirst, hasSecond⟩ := account?_orderedChanges hasSource hasTarget
  obtain ⟨firstRow, found⟩ := hasFirst.account?
  have recordedFound : (movement.recorded now before).rows.account?
      movement.orderedChanges.1.account = some firstRow := found
  cases inRange : IntegerRange.int64.contains
      (firstRow.balance + movement.orderedChanges.1.amount) with
  | false =>
    exact Books.perform_bind_of_error (Books.perform_addBalance_of_wide recordedFound inRange)
  | true =>
    obtain ⟨first, loads⟩ := loadable.load found movement.orderedChanges.1.amount
    have adds : (movement.recorded now before).perform now
          (Work.addBalance movement.orderedChanges.1) =
        (.ok first, (movement.recorded now before).balanced movement.orderedChanges.1) :=
      Books.perform_addBalance_of_load recordedFound recordedSound inRange loads
    rw [Books.perform_bind_of_ok adds]
    -- the first change fits, so it is the second that does not
    obtain ⟨earlier, earlierFound⟩ := hasSecond.account?
    have secondFound := Tables.account?_adjusted (Tables.only movement.orderedChanges.1.account
      movement.orderedChanges.1.amount) before.rows movement.orderedChanges.2.account
    rw [earlierFound, Option.map_some] at secondFound
    refine Books.perform_bind_of_error (Books.perform_addBalance_of_wide secondFound ?_)
    refine Bool.eq_false_iff.mpr fun second => wide ⟨fun row same => ?_, fun row same => ?_⟩
    · rw [found] at same
      cases same
      exact inRange
    · rw [secondFound] at same
      cases same
      exact second

/-- **The balances after a transfer**, where both changes fit. -/
theorem settle_fitting (now : Instant) (sound : before.Sound) (loadable : before.rows.Loadable)
    (positive : 0 < movement.amount) {source target : AccountRow}
    (pays : before.rows.account? movement.source = some source)
    (paid : before.rows.account? movement.target = some target)
    (fits : movement.Fits before.rows) :
    (before.perform now movement.settle).1.map Settlement.balances =
      if source.balance + movement.change movement.source < 0 then
        .error (.insufficientFunds movement.source
          (source.balance + movement.change movement.source))
      else .ok (source.balance + movement.change movement.source,
        target.balance + movement.change movement.target) := by
  rcases settle_cases now sound positive ⟨source, Tables.account?_eq_some pays⟩
    ⟨target, Tables.account?_eq_some paid⟩ with ⟨settlement, after, succeeds⟩ | ⟨error, fails, why⟩
  · have settles := settles_of_perform sound succeeds
    obtain ⟨_, found, sourceBalance⟩ := settles.source_balance
    rw [pays] at found
    cases found
    obtain ⟨_, found, targetBalance⟩ := settles.target_balance
    rw [paid] at found
    cases found
    have funded := settles.funded
    rw [sourceBalance] at funded
    rw [succeeds, if_neg (Int.not_lt.mpr funded), ← sourceBalance, ← targetBalance]
    rfl
  · rw [fails]
    cases why with
    | overdrawn found short =>
      rw [pays] at found
      cases found
      rw [if_pos short]
      rfl
    | outOfRange wide => exact absurd fits wide
    | unreadable _ found unread =>
      exact absurd unread (loadable _ (Tables.account?_eq_some found).1).2.load_ne_error

/-- A transfer between two accounts comes to the verdict on their balances. -/
theorem settle_between (now : Instant) (sound : before.Sound) (loadable : before.rows.Loadable)
    (positive : 0 < movement.amount) (apart : movement.source ≠ movement.target)
    {source target : AccountRow} (pays : before.rows.account? movement.source = some source)
    (paid : before.rows.account? movement.target = some target) :
    (before.perform now movement.settle).1.map Settlement.balances =
      (Verdict.between movement.amount source.balance target.balance).outcome movement := by
  have room := fits_between loadable positive apart pays paid
  unfold Verdict.between
  by_cases fits : movement.Fits before.rows
  · rw [settle_fitting now sound loadable positive pays paid fits, if_neg (room.mp fits),
      change_source apart, change_target apart, ← Int.sub_eq_add_neg]
    split <;> rfl
  · rw [settle_wide now sound loadable positive ⟨source, Tables.account?_eq_some pays⟩
      ⟨target, Tables.account?_eq_some paid⟩ fits,
      if_pos (Decidable.not_not.mp (mt room.mpr fits))]
    rfl

/-- A transfer from an account to itself comes to the verdict on its balance. -/
theorem settle_within (now : Instant) (sound : before.Sound) (loadable : before.rows.Loadable)
    (positive : 0 < movement.amount) (one : movement.source = movement.target) {row : AccountRow}
    (pays : before.rows.account? movement.source = some row) :
    (before.perform now movement.settle).1.map Settlement.balances =
      (Verdict.within movement.amount row.balance).outcome movement := by
  have paid : before.rows.account? movement.target = some row := one ▸ pays
  have room := fits_within loadable positive one pays
  unfold Verdict.within
  by_cases fits : movement.Fits before.rows
  · rw [settle_fitting now sound loadable positive pays paid fits, if_neg (room.mp fits),
      change_self one, change_self one, Int.add_zero]
    split <;> rfl
  · rw [settle_wide now sound loadable positive ⟨row, Tables.account?_eq_some pays⟩
      ⟨row, Tables.account?_eq_some paid⟩ fits,
      if_pos (Decidable.not_not.mp (mt room.mpr fits))]
    rfl

/-- **The work of a transfer comes to its verdict.** -/
theorem settle_verdict (now : Instant) (sound : before.Sound) (loadable : before.rows.Loadable)
    (positive : 0 < movement.amount) :
    (before.perform now movement.settle).1.map Settlement.balances =
      (before.rows.verdict movement).outcome movement := by
  unfold Tables.verdict Tables.balance? Verdict.of
  rw [if_neg (Int.not_le.mpr positive)]
  cases pays : before.rows.account? movement.source with
  | none =>
    rw [settle_sourceless now positive pays]
    rfl
  | some source =>
  cases paid : before.rows.account? movement.target with
  | none =>
    rw [settle_targetless now positive pays paid]
    rfl
  | some target =>
  by_cases one : movement.source = movement.target
  · rw [settle_within now sound loadable positive one pays]
    simp only [Option.map_some, beq_iff_eq.mpr one, if_true]
  · rw [settle_between now sound loadable positive one pays paid]
    simp only [Option.map_some, beq_eq_false_iff_ne.mpr one, Bool.false_eq_true, if_false]

end Movement

/-! ### Transfers in a ledger -/

/-- **A transfer in a calm ledger comes to its verdict.** -/
theorem Ledger.Calm.transfer_verdict {ledger : Ledger} (calm : ledger.Calm)
    (sound : ledger.books.Sound) (loadable : ledger.rows.Loadable) (movement : Movement) :
    (ledger.transfer movement).1.map Settlement.balances =
      (ledger.rows.verdict movement).outcome movement := by
  by_cases nothing : movement.amount ≤ 0
  · unfold Ledger.transfer Tables.verdict Verdict.of
    rw [if_pos nothing, if_pos nothing]
    rfl
  · have positive := Int.not_le.mp nothing
    rw [transfer_of_positive positive,
      calm.transact_outcome movement.strict_settle movement.clean_settle]
    exact Movement.settle_verdict ledger.clock sound loadable positive

end Passbook
