/-
**The trial of a load test.**

A trial is right about the two accounts whatever becomes of its transfers, since they are balanced
after any of them.

* `countP_outcomes`, `failures_eq_zero` — what is counted and reported of the transfers.
* `Passed plan pair made tally ended` — a test passed after it had made the transfers of some
  numbers.
* `conclude_of_ok`, `verdict_of_balanced` — how a test ends that can look at its accounts.
* **`trial_cases`** — the trial passes its checks, unless it cannot look at the accounts;
  `passed_of_calm` — in a calm ledger it passes them after all transfers that can be paid for.
-/

import Passbook.LoadTest.Run
import Passbook.Proofs.LoadTest.Payable

namespace Passbook.LoadTest

open Ledger (Tables)

variable {pair : Pair} {made : List Nat} {ledger : Ledger}

/-! ### What is reported -/

section Outcomes

variable {numbered : List (Nat × Except StoreError Settlement)}

/-- The outcomes tell how many transfers succeeded. -/
theorem countP_outcomes : (outcomes numbered).countP isSuccess = (succeeded numbered).length := by
  rw [outcomes, List.countP_map, (List.mergeSort_perm numbered _).countP_eq, succeeded,
    List.length_map, List.countP_eq_length_filter]
  rfl

theorem length_outcomes : (outcomes numbered).length = numbered.length := by
  rw [outcomes, List.length_map, List.length_mergeSort]

theorem forall_mem_outcomes {good : Except StoreError Settlement → Prop} :
    (∀ outcome ∈ outcomes numbered, good outcome) ↔ ∀ entry ∈ numbered, good entry.2 := by
  simp only [outcomes, List.forall_mem_map, List.mem_mergeSort]

theorem failures_eq_zero (around : Surroundings) (plan : Plan) :
    (counted around plan numbered).failures = 0 ↔ ∀ entry ∈ numbered, isSuccess entry.2 = true := by
  have most := List.countP_le_length (p := isSuccess) (l := outcomes numbered)
  show (outcomes numbered).length - (outcomes numbered).countP isSuccess = 0 ↔ _
  rw [← @forall_mem_outcomes numbered fun outcome => isSuccess outcome = true,
    ← List.countP_eq_length]
  omega

/-- A transfer that failed is reported, in one line at least. -/
theorem failureLines_eq_nil {outcome : Except StoreError Settlement} :
    failureLines outcome = [] ↔ isSuccess outcome = true := by
  cases outcome with
  | ok settlement => exact iff_of_true rfl rfl
  | error error =>
    refine iff_of_false ?_ Bool.false_ne_true
    rw [failureLines, ProgramError.linesOf, List.map_eq_nil_iff]
    exact Text.split_ne_nil _ _

end Outcomes

/-- The accounts of a test that passed after it had made the transfers of some numbers, and how it
ends: its findings are those of the rows that it leaves, both balances are the opening one and the
sum of the entries, the sums cancel, and if no transfer failed there are as many transfers to as
fro, but for the last of an odd number. The transfers that are stored for the pair are those that
were made, and as many are reported as successful. -/
structure Passed (plan : Plan) (pair : Pair) (made : List Nat) (tally : Tally)
    (ended : Ending × Ledger) : Prop where
  code : ended.1.code = 0
  output : ended.1.output = heading plan ++ resultLines pair tally (.within pair ended.2.rows) ++
    ["Conservation check passed", "Net balance check passed"]
  firstBalance : ended.2.rows.balance? pair.first =
    some (openingBalance + ended.2.rows.entrySum pair.first)
  secondBalance : ended.2.rows.balance? pair.second =
    some (openingBalance + ended.2.rows.entrySum pair.second)
  cancels : ended.2.rows.entrySum pair.first + ended.2.rows.entrySum pair.second = 0
  stored : (pair.transfers ended.2.rows).map Transfer.movement = made.map (movement pair)
  transfers : tally.transfers = plan.transfers
  successes : tally.successes = (pair.transfers ended.2.rows).length
  counts : tally.successes + tally.failures = plan.transfers
  reports : tally.failures = 0 ↔ ended.1.errors = []
  net : tally.failures = 0 →
    ended.2.rows.entrySum pair.first = if plan.transfers % 2 = 0 then 0 else -10

/-- What is found of balanced accounts passes both checks. -/
theorem verdict_of_balanced {rows : Tables} (balanced : Balanced pair made rows) {tally : Tally}
    (expected : tally.failures = 0 → brought made = Findings.expectedNet tally.transfers) :
    verdict pair tally (.within pair rows) =
      (["Conservation check passed", "Net balance check passed"], .ok ()) := by
  have conserved : (Findings.within pair rows).conserved = true := by
    simp only [Findings.conserved, Findings.within, balanced.first.balance,
      balanced.first.entries, balanced.second.balance, balanced.second.entries, Int.add_right_neg,
      beq_self_eq_true, Bool.and_self]
  have netIsExpected :
      (Findings.within pair rows).netIsExpected tally.transfers tally.failures = true := by
    rw [Findings.netIsExpected, Findings.within, balanced.first.entries]
    by_cases failed : tally.failures = 0
    · simp [expected failed]
    · simp [failed]
  simp only [verdict, conserved, netIsExpected, Bool.not_true, Bool.false_eq_true, if_false]

section Conclusion

variable {around : Surroundings} {plan : Plan}
  {numbered : List (Nat × Except StoreError Settlement)}

theorem conclude_of_error {error : StoreError}
    (fails : (ledger.perform (Findings.gather pair)).1 = .error error) :
    (conclude around plan pair numbered ledger).1 =
      .ofResult (heading plan) (reported numbered) (.error (.ofStore error)) := by
  unfold conclude
  rcases gathers : ledger.perform (Findings.gather pair) with ⟨outcome, after⟩
  rw [gathers] at fails
  cases fails
  rfl

/-- A test that can look at the accounts in the end goes by its verdict. -/
theorem conclude_of_ok {findings : Findings} {tally : Tally}
    (gathers : (ledger.perform (Findings.gather pair)).1 = .ok findings)
    (tallies : tally = counted around plan numbered) :
    conclude around plan pair numbered ledger =
      (.ofResult
        (heading plan ++ resultLines pair tally findings ++ (verdict pair tally findings).1)
        (reported numbered) (verdict pair tally findings).2,
        (ledger.perform (Findings.gather pair)).2) := by
  subst tallies
  unfold conclude
  rcases performed : ledger.perform (Findings.gather pair) with ⟨outcome, after⟩
  rw [performed] at gathers
  cases gathers
  rfl

/-- **The test passes** where the accounts are balanced after the transfers that succeeded, if it
can look at the accounts. -/
theorem passed_of_gather (balanced : Balanced pair (succeeded numbered) ledger.rows)
    (permutes : (numbered.map (·.1)).Perm (List.range plan.transfers)) {findings : Findings}
    (gathers : (ledger.perform (Findings.gather pair)).1 = .ok findings) :
    Passed plan pair (succeeded numbered) (counted around plan numbered)
      (conclude around plan pair numbered ledger) := by
  obtain ⟨found, same⟩ := balanced.gather_of_ok gathers
  have carries : (counted around plan numbered).failures = 0 →
      brought (succeeded numbered) = Findings.expectedNet plan.transfers := by
    intro none_failed
    have all := (failures_eq_zero around plan).mp none_failed
    rw [succeeded, List.filter_eq_self.mpr all]
    exact brought_of_perm permutes
  have count : (outcomes numbered).length = plan.transfers := by
    rw [length_outcomes, ← List.length_map (·.1), permutes.length_eq, List.length_range]
  rw [conclude_of_ok gathers rfl, found, verdict_of_balanced balanced carries, ← same]
  rw [← same] at balanced
  exact {
    code := rfl
    output := rfl
    firstBalance := balanced.first.entries.symm ▸ balanced.first.balance
    secondBalance := balanced.second.entries.symm ▸ balanced.second.balance
    cancels := by
      show Tables.entrySum _ _ + Tables.entrySum _ _ = 0
      rw [balanced.first.entries, balanced.second.entries, Int.add_right_neg]
    stored := balanced.stored
    transfers := rfl
    successes := by
      show (outcomes numbered).countP isSuccess = _
      rw [countP_outcomes, ← List.length_map (movement pair), ← balanced.stored, List.length_map]
    counts := by
      have most := List.countP_le_length (p := isSuccess) (l := outcomes numbered)
      show (outcomes numbered).countP isSuccess +
        ((outcomes numbered).length - (outcomes numbered).countP isSuccess) = _
      omega
    reports := by
      rw [failures_eq_zero, ← @forall_mem_outcomes numbered fun outcome => isSuccess outcome = true]
      show _ ↔ (outcomes numbered).flatMap failureLines = []
      simp only [List.flatMap_eq_nil_iff, failureLines_eq_nil]
    net := by
      intro none_failed
      rw [balanced.first.entries, carries none_failed, Findings.expectedNet]
      unfold amount
      split <;> omega }

end Conclusion

/-! ### The trial -/

section Trial

variable {around : Surroundings} {plan : Plan}

theorem map_fst_fired :
    (fired around plan pair ledger).1.map (·.1) = around.order plan.transfers :=
  map_fst_fire pair _ ledger

variable (balanced : Balanced pair [] ledger.rows) (attained : ledger.Attained)
  (permutes : (around.order plan.transfers).Perm (List.range plan.transfers))

include balanced attained permutes

/-- **The trial passes its checks** if it can look at the accounts in the end. -/
theorem passed_of_fired {findings : Findings} (gathers :
    ((fired around plan pair ledger).2.perform (Findings.gather pair)).1 = .ok findings) :
    Passed plan pair (succeeded (fired around plan pair ledger).1)
      (counted around plan (fired around plan pair ledger).1) (trial around plan pair ledger) := by
  have after : Balanced pair (succeeded (fired around plan pair ledger).1)
      (fired around plan pair ledger).2.rows := balanced.fire attained _
  rw [← @map_fst_fired pair ledger] at permutes
  exact passed_of_gather after permutes gathers

/-- **Whatever becomes of the transfers**, the trial passes its checks or cannot look at the
accounts. -/
theorem trial_cases :
    (∃ errors error, (trial around plan pair ledger).1 =
      .ofResult (heading plan) errors (.error error)) ∨
    ∃ tally made, made.Sublist (around.order plan.transfers) ∧
      Passed plan pair made tally (trial around plan pair ledger) := by
  cases gathers : ((fired around plan pair ledger).2.perform (Findings.gather pair)).1 with
  | ok findings =>
    have among : (succeeded (fired around plan pair ledger).1).Sublist
        ((fired around plan pair ledger).1.map (·.1)) := List.filter_sublist.map _
    rw [map_fst_fired] at among
    exact .inr ⟨_, _, among, passed_of_fired balanced attained permutes gathers⟩
  | error error => exact .inl ⟨_, _, conclude_of_error gathers⟩

/-- **In a calm ledger** the trial passes its checks, and has made the transfers that can be paid
for. -/
theorem passed_of_calm (calm : ledger.Calm) : ∃ tally,
    Passed plan pair (affordable openingBalance openingBalance (around.order plan.transfers)) tally
      (trial around plan pair ledger) := by
  have after : Balanced pair (succeeded (fired around plan pair ledger).1)
      (fired around plan pair ledger).2.rows := balanced.fire attained _
  have stays : (fired around plan pair ledger).2.Calm := calm_fire calm pair _
  have made : succeeded (fired around plan pair ledger).1 =
      affordable openingBalance openingBalance (around.order plan.transfers) :=
    balanced.succeeded_fire attained calm (around.order plan.transfers)
  rw [← made]
  exact ⟨_, passed_of_fired balanced attained permutes (after.gather_of_calm stays)⟩

end Trial

end Passbook.LoadTest
