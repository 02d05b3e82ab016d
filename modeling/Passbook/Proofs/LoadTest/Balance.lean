/-
**The accounts of a load test.**

Each transfer of a load test goes from one account to the other as a whole or not at all, so the
accounts always hold what they were opened with and what their entries add up to, and these sums
cancel. How much they come to, and which transfers are stored, is told by the numbers of the
transfers that succeeded.

* `Ledger.Attained` — some run leads to the state.
* `Holds rows id net` — an account of the test holds what it was opened with and what its entries
  add up to; `Holds.settled` — so it does after a transfer.
* `Balanced pair made rows` — so do both, after the transfers of some numbers, which are those that
  are stored for them.
* `succeeded` — the numbers of the transfers that succeeded.
* **`Balanced.fire`** — the accounts are balanced after transfers in any order.
* `brought_of_perm` — what all transfers bring the first account, in any order.
* `Balanced.gather_of_ok`, `Balanced.gather_of_calm` — the test finds what is there.
-/

import Passbook.LoadTest.Run
import Passbook.Proofs.Money.Conservation
import Passbook.Proofs.Money.Outcome
import Passbook.Proofs.Store.Single

namespace Passbook

open Ledger (Query Books Tables AccountRow)
open Time (Instant)

/-- What a transfer moves. -/
def Transfer.movement (transfer : Transfer) : Movement :=
  ⟨transfer.source, transfer.target, transfer.amount⟩

/-! ### States that are attained -/

/-- Some run leads to the state. -/
def Ledger.Attained (ledger : Ledger) : Prop :=
  ∃ past, Reachable (fun _ => True) past ledger

namespace Ledger.Attained

variable {ledger : Ledger} (attained : ledger.Attained)

include attained

theorem sound : ledger.books.Sound := by
  obtain ⟨past, reachable⟩ := attained
  exact reachable.sound

theorem transfer (movement : Movement) : (ledger.transfer movement).2.Attained := by
  obtain ⟨past, reachable⟩ := attained
  exact ⟨_, .step (.transfer movement) reachable trivial⟩

theorem perform {α : Type} (work : Work α) : (ledger.perform work).2.Attained := by
  obtain ⟨past, reachable⟩ := attained
  exact ⟨_, .step (.perform work) reachable (Script.asks_true work.run)⟩

theorem migrate : ledger.migrate.2.Attained := by
  obtain ⟨past, reachable⟩ := attained
  exact ⟨_, .step .migrate reachable trivial⟩

end Ledger.Attained

namespace LoadTest

/-! ### The accounts of the test -/

/-- An account of the test: it can be loaded, it holds what it was opened with and what its entries
add up to, and it is not overdrawn. -/
structure Holds (rows : Tables) (id net : Int) : Prop where
  stored : ∃ row, rows.account? id = some row ∧ row.Readable ∧ row.balance = openingBalance + net
  entries : rows.entrySum id = net
  funded : 0 ≤ openingBalance + net

namespace Holds

variable {rows : Tables} {id net : Int}

theorem balance (holds : Holds rows id net) : rows.balance? id = some (openingBalance + net) := by
  obtain ⟨row, found, _, balance⟩ := holds.stored
  rw [Tables.balance?, found, Option.map_some, balance]

/-- **A transfer** adds to the balance what it adds to the sum of the entries, and does not overdraw
the account. -/
theorem settled {now : Instant} {movement : Movement} {before after : Books}
    {settlement : Settlement} (holds : Holds before.rows id net) (sound : before.Sound)
    (settles : movement.Settles now before settlement after) :
    Holds after.rows id (net + movement.change id) := by
  obtain ⟨row, found, readable, balance⟩ := holds.stored
  obtain ⟨member, its⟩ := Tables.account?_eq_some found
  have floor := settles.floor sound member
  have funded := holds.funded
  rw [its] at floor
  rw [settles.books]
  refine ⟨⟨Tables.added row (movement.change id), ?_, readable, ?_⟩, ?_, by omega⟩
  · have adjusted := Tables.account?_adjusted movement.change before.rows id
    rw [found, Option.map_some, its] at adjusted
    exact adjusted
  · show row.balance + movement.change id = _
    omega
  · rw [movement.entrySum_settled, holds.entries]

end Holds

/-! ### Transfers to and fro -/

/-- What the transfer of a number brings the first account. -/
def share (n : Nat) : Int :=
  if n % 2 = 0 then -amount else amount

section Movement

variable {pair : Pair} (apart : pair.first ≠ pair.second) (n : Nat)

include apart

theorem change_first : (movement pair n).change pair.first = share n := by
  unfold movement share
  by_cases even : n % 2 = 0
  · rw [if_pos even, if_pos even]
    exact @Movement.change_source ⟨pair.first, pair.second, amount⟩ apart
  · rw [if_neg even, if_neg even]
    exact @Movement.change_target ⟨pair.second, pair.first, amount⟩ apart.symm

theorem change_second : (movement pair n).change pair.second = -share n := by
  unfold movement share
  by_cases even : n % 2 = 0
  · rw [if_pos even, if_pos even, Int.neg_neg]
    exact @Movement.change_target ⟨pair.first, pair.second, amount⟩ apart
  · rw [if_neg even, if_neg even]
    exact @Movement.change_source ⟨pair.second, pair.first, amount⟩ apart.symm

end Movement

/-- What the transfers of these numbers bring the first account. -/
def brought (made : List Nat) : Int :=
  Tables.sum (made.map share)

theorem brought_cons (n : Nat) (rest : List Nat) : brought (n :: rest) = share n + brought rest :=
  rfl

theorem brought_append (made more : List Nat) :
    brought (made ++ more) = brought made + brought more := by
  rw [brought, List.map_append, Tables.sum_append]
  rfl

theorem brought_singleton (n : Nat) : brought [n] = share n :=
  Int.add_zero (share n)

/-- The numbers of the transfers that succeeded. -/
def succeeded (numbered : List (Nat × Except StoreError Settlement)) : List Nat :=
  (numbered.filter fun entry => isSuccess entry.2).map (·.1)

theorem succeeded_cons (n : Nat) (outcome : Except StoreError Settlement)
    (rest : List (Nat × Except StoreError Settlement)) :
    succeeded ((n, outcome) :: rest) =
      (if isSuccess outcome then [n] else []) ++ succeeded rest := by
  unfold succeeded
  by_cases success : isSuccess outcome = true
  · rw [List.filter_cons, if_pos success, if_pos success]
    rfl
  · rw [List.filter_cons, if_neg success, if_neg success]
    rfl

/-- The stored transfers that come from an account of the pair or go to one. -/
def Pair.transfers (pair : Pair) (rows : Tables) : List Transfer :=
  rows.transfers.filter fun transfer =>
    transfer.source == pair.first || transfer.source == pair.second ||
      transfer.target == pair.first || transfer.target == pair.second

/-- The two accounts are balanced after the transfers of these numbers: what the transfers brought
one account, they took from the other, and they are the ones that are stored. -/
structure Balanced (pair : Pair) (made : List Nat) (rows : Tables) : Prop where
  apart : pair.first ≠ pair.second
  first : Holds rows pair.first (brought made)
  second : Holds rows pair.second (-brought made)
  stored : (pair.transfers rows).map Transfer.movement = made.map (movement pair)

theorem fire_cons (pair : Pair) (n : Nat) (rest : List Nat) (ledger : Ledger) :
    fire pair (n :: rest) ledger =
      ((n, (ledger.transfer (movement pair n)).1) ::
          (fire pair rest (ledger.transfer (movement pair n)).2).1,
        (fire pair rest (ledger.transfer (movement pair n)).2).2) :=
  rfl

/-- Each number has an outcome. -/
theorem map_fst_fire (pair : Pair) (order : List Nat) (ledger : Ledger) :
    (fire pair order ledger).1.map (·.1) = order := by
  induction order generalizing ledger with
  | nil => rfl
  | cons n rest ih => rw [fire_cons, List.map_cons, ih]

variable {pair : Pair} {made : List Nat} {net : Int} {ledger : Ledger}

/-- The transfer of a number is one of the pair. -/
theorem movement_cases (pair : Pair) (n : Nat) :
    (movement pair n).source = pair.first ∧ (movement pair n).target = pair.second ∨
      (movement pair n).source = pair.second ∧ (movement pair n).target = pair.first := by
  unfold movement
  split
  · exact .inl ⟨rfl, rfl⟩
  · exact .inr ⟨rfl, rfl⟩

theorem amount_movement (pair : Pair) (n : Nat) : (movement pair n).amount = amount := by
  unfold movement
  split <;> rfl

/-- A transfer of the pair is stored after those before. -/
theorem Pair.transfers_settled (now : Instant) (before : Books) (n : Nat) :
    pair.transfers ((movement pair n).settled now before).rows =
      pair.transfers before.rows ++ [(movement pair n).transferRow now before] := by
  have appended : ((movement pair n).settled now before).rows.transfers =
      before.rows.transfers ++ [(movement pair n).transferRow now before] := rfl
  unfold Pair.transfers
  rw [appended, List.filter_append]
  refine congrArg (_ ++ ·) (List.filter_cons_of_pos ?_)
  unfold Movement.transferRow
  rcases movement_cases pair n with ⟨source, _⟩ | ⟨source, _⟩
  · simp [source]
  · simp [source]

namespace Balanced

/-- A transfer that is settled leaves the accounts balanced. -/
theorem settled {now : Instant} {before after : Books} {settlement : Settlement} {n : Nat}
    (balanced : Balanced pair made before.rows) (sound : before.Sound)
    (settles : (movement pair n).Settles now before settlement after) :
    Balanced pair (made ++ [n]) after.rows := by
  have sum : brought (made ++ [n]) = brought made + share n := by
    rw [brought_append, brought_singleton]
  have first := balanced.first.settled sound settles
  have second := balanced.second.settled sound settles
  rw [change_first balanced.apart, ← sum] at first
  rw [change_second balanced.apart, ← Int.neg_add, ← sum] at second
  refine ⟨balanced.apart, first, second, ?_⟩
  rw [settles.books, Pair.transfers_settled, List.map_append, List.map_append, balanced.stored]
  rfl

/-- **One transfer** leaves the accounts balanced, whatever becomes of it. -/
theorem transfer (balanced : Balanced pair made ledger.rows) (attained : ledger.Attained)
    (n : Nat) :
    Balanced pair
      (made ++ if isSuccess (ledger.transfer (movement pair n)).1 then [n] else [])
      (ledger.transfer (movement pair n)).2.rows := by
  cases met : (ledger.transfer (movement pair n)).1 with
  | ok settlement =>
    exact balanced.settled attained.sound (Ledger.settles_of_transfer attained.sound met).1
  | error error =>
    rw [Ledger.rows_of_transfer_error met]
    show Balanced pair (made ++ []) ledger.rows
    rw [List.append_nil]
    exact balanced

/-- **Transfers in any order** leave the accounts balanced, whatever becomes of each. -/
theorem fire (balanced : Balanced pair made ledger.rows) (attained : ledger.Attained)
    (order : List Nat) :
    Balanced pair (made ++ succeeded (fire pair order ledger).1)
      (fire pair order ledger).2.rows := by
  induction order generalizing made ledger with
  | nil =>
    show Balanced pair (made ++ []) ledger.rows
    rw [List.append_nil]
    exact balanced
  | cons n rest ih =>
    have later := ih (balanced.transfer attained n) (attained.transfer _)
    rw [fire_cons, succeeded_cons, ← List.append_assoc]
    exact later

end Balanced

/-- The transfers of all numbers below a bound bring nothing, but for the last of an odd number. -/
theorem brought_range (count : Nat) : brought (List.range count) = Findings.expectedNet count := by
  induction count with
  | zero => rfl
  | succ count ih =>
    rw [List.range_succ, brought_append, brought_singleton, ih]
    simp only [share, Findings.expectedNet, amount]
    omega

/-- **All transfers** bring what is expected, in any order. -/
theorem brought_of_perm {count : Nat} (permutes : made.Perm (List.range count)) :
    brought made = Findings.expectedNet count := by
  rw [← brought_range, brought, brought, Tables.sum_perm (permutes.map share)]

/-! ### Findings -/

/-- What the test finds in these rows. -/
def Findings.within (pair : Pair) (rows : Tables) : Findings :=
  ⟨rows.balance? pair.first, rows.balance? pair.second, rows.entrySum pair.first,
    rows.entrySum pair.second⟩

section Books

variable {books : Books} {id : Int} (now : Instant)

theorem Holds.perform_findAccount (holds : Holds books.rows id net) : ∃ account,
    books.perform now (Work.findAccount id) = (.ok (some account), books) ∧
      books.rows.balance? id = some account.balance := by
  obtain ⟨row, found, readable, _⟩ := holds.stored
  obtain ⟨account, loads⟩ := readable.load
  have executed : books.execute now (.findAccount id) = .ok (some row, books) := by
    refine Books.execute_eq_ok.mpr ⟨?_, rfl⟩
    rw [← found]
    rfl
  refine ⟨account, (Work.single_findAccount id).perform_books executed ?_,
    (Tables.loaded found loads).2⟩
  rw [Option.mapM_some, loads]
  rfl

theorem Holds.perform_sumEntries (holds : Holds books.rows id net) (most : net ≤ openingBalance) :
    books.perform now (Work.sumEntries id) = (.ok (books.rows.entrySum id), books) := by
  have inRange : Text.IntegerRange.int64.contains (books.rows.entrySum id) = true := by
    have funded := holds.funded
    rw [holds.entries, Text.IntegerRange.int64_contains]
    unfold openingBalance at most funded
    omega
  exact Books.perform_ask_eq_ok.mpr (Books.execute_eq_ok.mpr ⟨if_pos inRange, rfl⟩)

/-- **On the books** the test finds what is there. -/
theorem Balanced.perform_gather (balanced : Balanced pair made books.rows) :
    books.perform now (Findings.gather pair) = (.ok (.within pair books.rows), books) := by
  have firstFunded := balanced.first.funded
  have secondFunded := balanced.second.funded
  obtain ⟨first, findsFirst, firstBalance⟩ := balanced.first.perform_findAccount now
  obtain ⟨second, findsSecond, secondBalance⟩ := balanced.second.perform_findAccount now
  rw [Findings.gather, Books.perform_bind_of_ok findsFirst, Books.perform_bind_of_ok findsSecond,
    Books.perform_bind_of_ok (balanced.first.perform_sumEntries now (by omega)),
    Books.perform_bind_of_ok (balanced.second.perform_sumEntries now (by omega)),
    Findings.within, firstBalance, secondBalance]
  rfl

end Books

theorem strict_gather (pair : Pair) : (Findings.gather pair).Strict := by
  refine Work.strict_bind (Work.single_findAccount _).strict fun first => ?_
  refine Work.strict_bind (Work.single_findAccount _).strict fun second => ?_
  refine Work.strict_bind (Work.strict_ask _) fun firstNet => ?_
  exact Work.strict_bind (Work.strict_ask _) fun secondNet => Work.strict_pure _

theorem clean_gather (pair : Pair) : (Findings.gather pair).run.Asks Query.Clean := by
  refine Script.asks_except_bind ((Work.single_findAccount _).asks rfl) fun first => ?_
  refine Script.asks_except_bind ((Work.single_findAccount _).asks rfl) fun second => ?_
  refine Script.asks_except_bind (Work.asks_ask _ rfl) fun firstNet => ?_
  exact Script.asks_except_bind (Work.asks_ask _ rfl) fun secondNet => trivial

namespace Balanced

variable (balanced : Balanced pair made ledger.rows)

include balanced

/-- What the test finds is what is there. -/
theorem gather_of_ok {findings : Findings}
    (succeeds : (ledger.perform (Findings.gather pair)).1 = .ok findings) :
    findings = .within pair ledger.rows ∧
      (ledger.perform (Findings.gather pair)).2.rows = ledger.rows := by
  have here : Balanced pair made ledger.books.rows := balanced
  have performs := Ledger.books_of_perform (strict_gather pair) succeeds
  rw [here.perform_gather, Prod.mk.injEq, Except.ok.injEq] at performs
  exact ⟨performs.1.symm, (congrArg Books.rows performs.2).symm⟩

/-- In a calm ledger it is found. -/
theorem gather_of_calm (calm : ledger.Calm) :
    (ledger.perform (Findings.gather pair)).1 = .ok (.within pair ledger.rows) := by
  have here : Balanced pair made ledger.books.rows := balanced
  rw [calm.perform_outcome (strict_gather pair) (clean_gather pair), here.perform_gather]
  rfl

end Balanced

end LoadTest

end Passbook
