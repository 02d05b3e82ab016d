/-
**The sum of an account's entries is always told.**

The sum of the entries of an account is cast to the range of a balance, and a sum outside of it
would be refused. There are as many entries as one likes, each of any amount that a balance can
hold; but the sum is what the balance has changed by since the account was opened, and where no
account is opened with a debt and none is overdrawn, both balances lie between zero and the
greatest.

* `Call.OpensInCredit`, `Call.Auditable` — what the works of such a run may do.
* `InCredit` — every account was opened without a debt.
* `Ledger.Audits ledger id sum` — the sum of the entries of an account is told, by a statement on
  its own and in a transaction.
* `Ledger.audits_of_inRange` — it is told where it is in the range of a balance.
* **`audit_exact`** — after every such run the sum of the entries of an account is told, and is what
  its balance has changed by; where there is no entry or no account it is zero.
-/

import Passbook.Proofs.Money.Conservation
import Passbook.Proofs.Money.Outcome
import Passbook.Proofs.Money.Overdraft
import Passbook.Proofs.Store.Single

namespace Passbook

open Ledger (Query Books Tables AccountRow Exchange)
open Text (IntegerRange)
open Time (Instant)

/-! ### Accounts opened without a debt -/

/-- A call that opens no account with a debt. -/
def Call.OpensInCredit : Call → Prop
  | .query (.insertAccount _ balance _) => 0 ≤ balance
  | _ => True

/-- A call that changes balances and stores transfers and entries only by whole transfers, and opens
accounts with balances that are of their type and no debts. -/
structure Call.Auditable (call : Call) : Prop where
  leaves : call.LeavesMoney
  typed : call.Typed
  credit : call.OpensInCredit

theorem leavesBalances_of_leavesMoney (call : Call) (leaves : call.LeavesMoney) :
    call.LeavesBalances := by
  cases call with
  | query query => exact leavesBalances_of_still leaves
  | transfer movement => exact trivial

/-- An account that an operation of a run opens has a balance in range and is in no debt. -/
theorem credit_of_permitted {owner currency : String} {balance : Int}
    (permitted : (Call.query (.insertAccount owner balance currency)).Permitted Call.Auditable) :
    0 ≤ balance ∧ IntegerRange.int64.contains balance = true := by
  rcases permitted with ⟨_, ⟨inRange, _⟩, credit⟩ | ⟨rfl, _⟩ | ⟨rfl, _⟩
  · exact ⟨credit, inRange⟩
  · exact ⟨Int.le_refl 0, by decide⟩
  · exact ⟨by decide, by decide⟩

theorem still_of_permitted {query : Query}
    (permitted : (Call.query query).Permitted Call.Auditable) : ¬ query.MovesMoney := by
  rcases permitted with admitted | served | seeded
  · exact admitted.leaves
  · exact served.not_movesMoney
  · exact seeded.not_movesMoney

/-- Every account was opened with a balance in range and without a debt. -/
def InCredit (past : List Exchange) (books : Books) : Prop :=
  ∀ account ∈ books.rows.accounts, ∃ opening ∈ openings past, opening.account = account.id ∧
    0 ≤ opening.balance ∧ IntegerRange.int64.contains opening.balance = true

namespace InCredit

variable {past : List Exchange} {before after : Books}

/-- What was opened stays opened. -/
theorem append (credit : InCredit past before) (more : List Exchange) :
    InCredit (past ++ more) before := by
  intro account member
  obtain ⟨opening, known, its⟩ := credit account member
  refine ⟨opening, ?_, its⟩
  rw [openings, List.filterMap_append]
  exact List.mem_append_left _ known

theorem apply {now : Instant} {query : Query} {answer : query.Answer}
    (credit : InCredit past before)
    (permitted : (Call.query query).Permitted Call.Auditable)
    (executed : before.execute now query = .ok (answer, after)) :
    InCredit (past ++ [⟨query, .ok answer⟩]) after := by
  have known := credit.append [⟨query, .ok answer⟩]
  have leaves := leavesBalances_of_still (still_of_permitted permitted)
  unfold InCredit
  rcases accounts_of_execute leaves executed with same | ⟨account, rfl, _, opens, grown⟩
  · rw [same]
    exact known
  · rw [grown]
    refine Ledger.forall_mem_snoc known ⟨⟨account.id, account.balance⟩, ?_, rfl, ?_⟩
    · rw [opens]
      exact List.mem_append_right _ List.mem_cons_self
    · exact credit_of_permitted permitted

/-- A transfer opens no account. -/
theorem move {now : Instant} {movement : Movement} {settlement : Settlement}
    {exchanges : List Exchange} (credit : InCredit past before)
    (settles : movement.Settles now before settlement after) :
    InCredit (past ++ exchanges) after := by
  rw [settles.books]
  intro account member
  obtain ⟨row, stored, rfl⟩ := List.mem_map.mp member
  exact credit.append exchanges row stored

end InCredit

/-- Accounts are opened without debts. -/
def InCredit.invariant : Invariant Call.Auditable where
  holds := InCredit
  empty := fun _ member => by cases member
  hear credit _ := credit.append _
  apply permitted _ credit executed := credit.apply permitted executed
  move _ _ credit settles _ _ := credit.move settles

/-! ### The sum of the entries -/

namespace Ledger

/-- The sum of the entries of an account is told, by a statement on its own unless the ledger is in
trouble, and in a transaction of a calm ledger. -/
structure Audits (ledger : Ledger) (id sum : Int) : Prop where
  alone : ledger.Shows (Work.sumEntries id) sum
  transacted : ledger.Calm → (ledger.transact (Work.sumEntries id)).1 = .ok sum

/-- **A sum in the range of a balance is told.** -/
theorem audits_of_inRange {ledger : Ledger} (laid : ledger.tables.isSome = true) {id : Int}
    (inRange : IntegerRange.int64.contains (ledger.rows.entrySum id) = true) :
    ledger.Audits id (ledger.rows.entrySum id) := by
  have executed : ledger.books.execute ledger.clock (.sumEntries id) =
      .ok (ledger.rows.entrySum id, ledger.books) :=
    Books.execute_eq_ok.mpr ⟨if_pos inRange, rfl⟩
  refine ⟨(Work.single_ask (.sumEntries id)).shows rfl laid executed rfl, fun calm => ?_⟩
  have ended := calm.transact_outcome (Work.strict_ask (.sumEntries id)) (Work.asks_ask _ rfl)
  exact ended.trans (congrArg Prod.fst (Books.perform_ask_eq_ok.mpr executed))

end Ledger

variable {past : List Exchange} {ledger : Ledger}

/-- An account has one opening. -/
theorem eq_of_only_opening {id : Int} {opening other : Opening}
    (only : (openings past).filter (fun opening => opening.account == id) = [opening])
    (known : other ∈ openings past) (its : other.account = id) : other = opening := by
  have among : other ∈ (openings past).filter fun opening => opening.account == id :=
    List.mem_filter.mpr ⟨known, by simpa using its⟩
  rw [only] at among
  exact List.mem_singleton.mp among

/-- **The audit is exact.** In every state of a run in which no account is opened with a debt and
money moves only by whole transfers, the sum of the entries of an account is told, however many
there are, and it is the balance less what the account was opened with. Without entries, or without
an account, it is zero. -/
theorem audit_exact (reachable : Reachable Call.Auditable past ledger) :
    (∀ account ∈ ledger.rows.accounts, ∃ opening,
      (openings past).filter (fun opening => opening.account == account.id) = [opening] ∧
      ledger.Audits account.id (account.balance - opening.balance)) ∧
    (ledger.tables.isSome = true → ∀ id,
      ledger.rows.entriesOf id = [] ∨ ¬ ledger.rows.HasAccount id → ledger.Audits id 0) ∧
    (ledger.Calm → ∀ id, ∃ sum, (ledger.perform (Work.sumEntries id)).1 = .ok sum) := by
  have sound := reachable.sound
  have credit : InCredit past ledger.books := (InCredit.invariant.of_reachable reachable).holds
  have leaving := reachable.mono fun _ auditable => auditable.leaves
  have conserved : Conserved past ledger.books := (Conserved.invariant.of_reachable leaving).holds
  have floored : Floored past ledger.books :=
    (Floored.invariant.of_reachable (leaving.mono leavesBalances_of_leavesMoney)).holds
  have loadable : ledger.rows.Loadable :=
    (Tables.loadable.of_reachable (reachable.mono fun _ auditable => auditable.typed)).holds
  have stored : ∀ account ∈ ledger.rows.accounts, ∃ opening,
      (openings past).filter (fun opening => opening.account == account.id) = [opening] ∧
      ledger.Audits account.id (account.balance - opening.balance) := by
    intro account member
    obtain ⟨opening, only, balance⟩ := conserved.opening_of_mem member
    obtain ⟨other, known, its, nonneg, opened⟩ := credit account member
    obtain rfl := eq_of_only_opening only known its
    obtain ⟨other, known, its, held⟩ := floored.held account member
    obtain rfl := eq_of_only_opening only known its
    refine ⟨other, only, ?_⟩
    -- both balances lie between zero and the greatest, so their difference is in range
    have most := (IntegerRange.int64_contains.mp (loadable account member).1).2
    have openedMost := (IntegerRange.int64_contains.mp opened).2
    have sum : ledger.rows.entrySum account.id = account.balance - other.balance := by
      have balance : account.balance = other.balance + ledger.rows.entrySum account.id := balance
      omega
    rw [← sum]
    exact Ledger.audits_of_inRange (Ledger.laid_of_hasAccount ⟨account, member, rfl⟩)
      (IntegerRange.int64_contains.mpr (by omega))
  have absent : ledger.tables.isSome = true → ∀ id,
      ledger.rows.entriesOf id = [] ∨ ¬ ledger.rows.HasAccount id → ledger.Audits id 0 := by
    intro laid id nothing
    have sum : ledger.rows.entrySum id = 0 := by
      refine Tables.entrySum_eq_zero fun entry member here => ?_
      rcases nothing with none_stands | missing
      · have among : entry ∈ ledger.rows.entriesOf id :=
          List.mem_filter.mpr ⟨member, by simpa using here⟩
        rw [none_stands] at among
        cases among
      · exact missing (here ▸ (sound.postings entry member).2.2)
    rw [← sum]
    exact Ledger.audits_of_inRange laid (by rw [sum]; decide)
  refine ⟨stored, absent, fun calm id => ?_⟩
  by_cases there : ledger.rows.HasAccount id
  · obtain ⟨account, member, rfl⟩ := there
    obtain ⟨opening, _, audits⟩ := stored account member
    exact ⟨_, calm.perform_of_shows audits.alone⟩
  · exact ⟨0, calm.perform_of_shows (absent calm.laid id (.inr there)).alone⟩

/-- A user with as much as an account can hold in one account and nothing in another. -/
def endowing : Work Unit := do
  let _ ← Work.createUser ⟨"eve", "Eve", "eve@example.com"⟩
  let _ ← Work.createAccount ⟨"eve", 9223372036854775807, .usd⟩
  let _ ← Work.createAccount ⟨"eve", 0, .eur⟩

/-- All of it has gone to the other account, and as much from the empty account to itself. -/
def drained : Ledger :=
  (Operation.transfer ⟨1, 1, 9223372036854775807⟩).run
    ((Operation.transfer ⟨1, 2, 9223372036854775807⟩).run
      ((Operation.transact endowing).run .fresh))

/-- The sums are the greatest and its negative, after three entries of that size on one account. -/
theorem audit_exact_drained :
    drained.rows.entries.length = 4 ∧
      (drained.perform (Work.sumEntries 1)).1 = .ok (-9223372036854775807) ∧
      (drained.transact (Work.sumEntries 2)).1 = .ok 9223372036854775807 ∧
      (drained.perform (Work.sumEntries 3)).1 = .ok 0 := by
  have audited : ∀ opening : AccountOpening, 0 ≤ opening.balance →
      IntegerRange.int64.contains opening.balance = true →
      (Work.createAccount opening).run.Asks fun query => Call.Auditable (.query query) :=
    fun opening credit inRange =>
      Work.asks_createAccount ⟨id, ⟨inRange, opening.currency, rfl⟩, credit⟩
  have within : (Operation.transact endowing).Within Call.Auditable := by
    refine Script.asks_except_bind (Work.asks_ask _ ⟨id, trivial, trivial⟩) fun _ => ?_
    refine Script.asks_except_bind (audited _ (by decide) (by decide)) fun _ => ?_
    exact Script.asks_except_bind (audited _ (by decide) (by decide)) fun _ => trivial
  have transfers : ∀ movement, (Call.transfer movement).Auditable :=
    fun _ => ⟨trivial, trivial, trivial⟩
  have reachable : Reachable Call.Auditable _ drained :=
    .step _ (.step _ (.step _ .fresh within) (transfers _)) (transfers _)
  have calm : drained.Calm := ⟨by decide, by decide, by decide⟩
  obtain ⟨stored, absent, _⟩ := audit_exact reachable
  have first : (⟨1, "eve", 0, "USD", .newYear2024⟩ : AccountRow) ∈ drained.rows.accounts := by
    decide
  have second : (⟨2, "eve", 9223372036854775807, "EUR", .newYear2024⟩ : AccountRow) ∈
      drained.rows.accounts := by decide
  obtain ⟨opening, only, audits⟩ := stored _ first
  obtain rfl : ⟨1, 9223372036854775807⟩ = opening :=
    List.singleton_inj.mp (Eq.trans (by decide) only)
  obtain ⟨opening, only, audits'⟩ := stored _ second
  obtain rfl : ⟨2, 0⟩ = opening := List.singleton_inj.mp (Eq.trans (by decide) only)
  refine ⟨by decide, calm.perform_of_shows audits.alone, audits'.transacted calm, ?_⟩
  exact calm.perform_of_shows (absent calm.laid 3 (.inl (by decide))).alone

end Passbook
