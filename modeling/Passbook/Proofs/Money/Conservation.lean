/-
**No money is made or lost.**

* `Sound.entrySum_next`, `Movement.entrySum_settled` — the sum of the entries of an account that is
  opened next, and of any account after a transfer.
* `Conserved` — every balance is the one that the account was opened with and the sum of its
  entries.
* **`balances_conserved`** — after every run in which no work changes balances or stores transfers
  or entries by itself, the balance of each account is the one that it was opened with and the sum
  of its entries; so the balances add up to the balances that the accounts were opened with.
-/

import Passbook.Proofs.Money.Opening
import Passbook.Proofs.Money.Pairing

namespace Passbook

open Ledger (Query Books Tables AccountRow Exchange Numbered Serials)
open Time (Instant)

/-! ### Sums of entries -/

/-- Every balance is the one that the account was opened with and the sum of its entries. -/
structure Conserved (past : List Exchange) (books : Books) : Prop where
  numbers : Numbered books.serials.accounts ((openings past).map (·.account))
  opened : ∀ account ∈ books.rows.accounts, ∃ opening ∈ openings past,
    opening.account = account.id ∧
      account.balance = opening.balance + books.rows.entrySum account.id

namespace Ledger.Tables

theorem entrySum_eq_sum (tables : Tables) (id : Int) :
    tables.entrySum id =
      sum (tables.entries.map fun entry => only entry.account entry.amount id) := by
  unfold entrySum entriesOf
  induction tables.entries with
  | nil => rfl
  | cons entry rest ih =>
    rw [List.map_cons, sum, ← ih]
    by_cases here : id = entry.account
    · simp [only, here, sum]
    · have other : ¬ entry.account = id := Ne.symm here
      simp [only, here, other]

theorem entrySum_append (tables : Tables) (entries : List Entry) (id : Int) :
    ({ tables with entries := tables.entries ++ entries } : Tables).entrySum id =
      tables.entrySum id + sum (entries.map fun entry => only entry.account entry.amount id) := by
  rw [entrySum_eq_sum, entrySum_eq_sum, List.map_append, sum_append]

/-- An account on which no entry stands. -/
theorem entrySum_eq_zero {tables : Tables} {id : Int}
    (others : ∀ entry ∈ tables.entries, entry.account ≠ id) : tables.entrySum id = 0 := by
  have nothing : tables.entriesOf id = [] := by
    rw [entriesOf, List.filter_eq_nil_iff]
    intro entry member
    simpa using others entry member
  rw [entrySum, nothing]
  rfl

/-- An amount for an account is counted once among several accounts, if the account is there. -/
theorem sum_only {numbers : List Int} (nodup : numbers.Nodup) (account amount : Int) :
    sum (numbers.map (only account amount)) = if account ∈ numbers then amount else 0 := by
  induction numbers with
  | nil => rfl
  | cons number rest ih =>
    rw [List.nodup_cons] at nodup
    rw [List.map_cons, sum, ih nodup.2, only]
    by_cases here : number = account
    · subst here
      rw [if_pos rfl, if_neg nodup.1, if_pos List.mem_cons_self, Int.add_zero]
    · rw [if_neg here, Int.zero_add]
      simp [Ne.symm here]

/-- The sums of the entries of some accounts are the sum of all entries on these accounts. -/
theorem sum_entrySum {numbers : List Int} (nodup : numbers.Nodup) (tables : Tables) :
    sum (numbers.map tables.entrySum) =
      sum (tables.entries.map fun entry =>
        if entry.account ∈ numbers then entry.amount else 0) := by
  have each : numbers.map tables.entrySum = numbers.map fun id =>
      sum (tables.entries.map fun entry => only entry.account entry.amount id) :=
    List.map_congr_left fun id _ => tables.entrySum_eq_sum id
  rw [each]
  generalize tables.entries = entries
  induction entries with
  | nil => exact sum_map_eq_zero fun _ _ => rfl
  | cons entry rest ih =>
    simp only [List.map_cons, sum]
    rw [sum_map_add, ih]
    exact congrArg (· + _) (sum_only nodup entry.account entry.amount)

end Ledger.Tables

/-- No entry stands yet on the account that is opened next. -/
theorem Ledger.Books.Sound.entrySum_next {books : Books} (sound : books.Sound) :
    books.rows.entrySum (books.serials.accounts + 1) = 0 := by
  refine Tables.entrySum_eq_zero fun entry member => ?_
  obtain ⟨_, _, account, stored, its⟩ := sound.postings entry member
  rw [← its]
  exact sound.accounts.ne_next (List.mem_map_of_mem stored)

/-- A transfer adds to the sum of an account's entries what it adds to the balance. -/
theorem Movement.entrySum_settled (now : Instant) (movement : Movement) (before : Books)
    (id : Int) : (movement.settled now before).rows.entrySum id =
      before.rows.entrySum id + movement.change id := by
  have appended := Tables.entrySum_append before.rows
    [movement.debitRow now before, movement.creditRow now before] id
  have change : movement.change id = Tables.only movement.source (-movement.amount) id +
      (Tables.only movement.target movement.amount id + 0) := by
    rw [Movement.change]
    omega
  rw [change]
  exact appended

namespace Conserved

variable {past : List Exchange} {before after : Books}

/-- The one opening of an account. -/
theorem opening_of_mem (conserved : Conserved past before) {account : AccountRow}
    (member : account ∈ before.rows.accounts) : ∃ opening,
    (openings past).filter (fun opening => opening.account == account.id) = [opening] ∧
      account.balance = opening.balance + before.rows.entrySum account.id := by
  obtain ⟨opening, known, its, balance⟩ := conserved.opened account member
  refine ⟨opening, ?_, balance⟩
  rw [← its]
  exact Ledger.filter_eq_singleton conserved.numbers.nodup known

theorem balance_eq (conserved : Conserved past before) : ∀ account ∈ before.rows.accounts,
    account.balance = openedWith past account.id + before.rows.entrySum account.id := by
  intro account member
  obtain ⟨opening, only, balance⟩ := conserved.opening_of_mem member
  rw [openedWith, ← List.head?_filter, only]
  exact balance

/-- What was opened stays opened, whatever becomes of a statement. -/
theorem hear {serials later : Serials} {rows : Tables} {exchange : Exchange}
    (conserved : Conserved past ⟨serials, rows⟩) (hands : serials.Hands exchange later) :
    Conserved (past ++ [exchange]) ⟨later, rows⟩ := by
  obtain ⟨numbers, stays⟩ := openings_of_hands conserved.numbers hands
  refine ⟨numbers, fun account member => ?_⟩
  obtain ⟨opening, known, its⟩ := conserved.opened account member
  exact ⟨opening, stays opening known, its⟩

/-- An account that is opened has no entries yet. -/
theorem apply {now : Instant} {query : Query} {answer : query.Answer}
    (conserved : Conserved past before) (still : ¬ query.MovesMoney) (sound : before.Sound)
    (executed : before.execute now query = .ok (answer, after)) :
    Conserved (past ++ [⟨query, .ok answer⟩]) after := by
  have heard := conserved.hear (Serials.hands_of_execute executed)
  cases Books.effect_of_execute executed with
  | read _ | userStored _ _ | userMissed _ | userChanged _ _ | balanceMissed _ =>
    exact ⟨heard.numbers, heard.opened⟩
  | @accountOpened owner currency balance _ _ =>
    refine ⟨heard.numbers, Ledger.forall_mem_snoc heard.opened ?_⟩
    refine ⟨⟨before.serials.accounts + 1, balance⟩, ?_, rfl, ?_⟩
    · rw [openings_snoc_insertAccount]
      exact List.mem_append_right _ List.mem_cons_self
    · have none_yet := sound.entrySum_next
      show balance = balance + before.rows.entrySum (before.serials.accounts + 1)
      omega
  | balanceChanged _ _ | transferStored _ _ _ | entryStored _ _ _ => exact absurd trivial still

/-- A transfer adds to each balance what its entries add to the sum of the account's entries. -/
theorem move {now : Instant} {movement : Movement} {exchanges : List Exchange}
    (conserved : Conserved past before)
    (moving : ∀ exchange ∈ exchanges, exchange.query.MovesMoney) :
    Conserved (past ++ exchanges) (movement.settled now before) := by
  have same : openings (past ++ exchanges) = openings past := openings_append_of_movesMoney moving
  refine ⟨?_, fun account member => ?_⟩
  · rw [same]
    exact conserved.numbers
  · obtain ⟨row, stored, rfl⟩ := List.mem_map.mp member
    obtain ⟨opening, known, its, balance⟩ := conserved.opened row stored
    rw [same]
    refine ⟨opening, known, its, ?_⟩
    have sum := movement.entrySum_settled now before row.id
    show row.balance + movement.change row.id = opening.balance +
      (movement.settled now before).rows.entrySum row.id
    omega

end Conserved

/-! ### Runs -/

/-- A call that changes no balance and stores no transfer and no entry by itself; it may be a whole
transfer. -/
def Call.LeavesMoney : Call → Prop
  | .query asked => ¬ asked.MovesMoney
  | .transfer _ => True

theorem leavesMovements_of_leavesMoney (call : Call) (leaves : call.LeavesMoney) :
    call.LeavesMovements := by
  cases call with
  | query query => exact leavesMovements_of_still leaves
  | transfer movement => exact trivial

/-- Money stays conserved. -/
def Conserved.invariant : Invariant Call.LeavesMoney where
  holds := Conserved
  empty := ⟨.nil 0, fun _ member => by cases member⟩
  hear conserved hands := conserved.hear hands
  apply permitted sound conserved executed :=
    conserved.apply (permitted.admitted id) sound executed
  move _ _ conserved settles _ moving := by
    rw [settles.books]
    exact conserved.move moving

variable {past : List Exchange} {ledger : Ledger}

/-- **No money is made or lost** in a run in which balances change and transfers and entries are
stored only by whole transfers. -/
theorem balances_conserved (reachable : Reachable Call.LeavesMoney past ledger) :
    (∀ account ∈ ledger.rows.accounts, ∃ opening,
      (openings past).filter (fun opening => opening.account == account.id) = [opening] ∧
      account.balance = opening.balance + ledger.rows.entrySum account.id) ∧
    ledger.rows.total =
      Tables.sum (ledger.rows.accounts.map fun account => openedWith past account.id) := by
  have kept := Conserved.invariant.of_reachable reachable
  have conserved : Conserved past ledger.books := kept.holds
  refine ⟨fun account member => conserved.opening_of_mem member, ?_⟩
  have paired := Paired.invariant.of_reachable (reachable.mono leavesMovements_of_leavesMoney)
  have pairs : Paired ledger.rows.transfers ledger.rows.entries := paired.holds
  have everywhere : ∀ entry ∈ ledger.rows.entries,
      entry.account ∈ ledger.rows.accounts.map (·.id) :=
    fun entry member => List.mem_map.mpr (kept.sound.postings entry member).2.2
  have nothing : Tables.sum (ledger.rows.accounts.map fun account =>
      ledger.rows.entrySum account.id) = 0 := by
    have among := Tables.sum_entrySum kept.sound.accounts.nodup ledger.rows
    rw [List.map_map] at among
    refine Eq.trans among (Eq.trans ?_ pairs.sum_eq_zero)
    exact congrArg Tables.sum
      (List.map_congr_left fun entry member => if_pos (everywhere entry member))
  calc ledger.rows.total
      = Tables.sum (ledger.rows.accounts.map fun account =>
          openedWith past account.id + ledger.rows.entrySum account.id) := by
        exact congrArg Tables.sum (List.map_congr_left conserved.balance_eq)
    _ = Tables.sum (ledger.rows.accounts.map fun account => openedWith past account.id) +
          Tables.sum (ledger.rows.accounts.map fun account => ledger.rows.entrySum account.id) :=
        Tables.sum_map_add _ _ _
    _ = Tables.sum (ledger.rows.accounts.map fun account => openedWith past account.id) := by
        rw [nothing, Int.add_zero]

/-- What is heard of the run that leads to `paidOnce`. -/
def paidOncePast : List Exchange :=
  [] ++ Operation.seed.exchanges .fresh ++
    (Operation.transfer ⟨1, 4, 30⟩).exchanges (Operation.seed.run .fresh)

/-- The six accounts of the demonstration hold together what they were opened with. -/
theorem balances_conserved_paidOnce :
    paidOnce.rows.accounts.map (·.balance) = [70, 100, 100, 130, 100, 100] ∧
      paidOnce.rows.total = 600 := by
  have reachable : Reachable Call.LeavesMoney paidOncePast paidOnce :=
    .step (.transfer ⟨1, 4, 30⟩) (.step .seed .fresh trivial) trivial
  obtain ⟨_, total⟩ := balances_conserved reachable
  have opened : Tables.sum (paidOnce.rows.accounts.map fun account =>
      openedWith paidOncePast account.id) = 600 := by decide
  exact ⟨by decide, total.trans opened⟩

end Passbook
