/-
**Every transfer has its two entries.**

* `Transfer.PairOf transfer debit credit` — the two entries of a transfer: what is taken from its
  source and given to its target.
* `Paired transfers entries` — transfers and entries that were stored together, pair by pair.
* **`entries_paired`** — after every run in which no work stores transfers or entries by itself,
  each transfer has exactly its pair of entries and each entry belongs to exactly one transfer; so
  there are twice as many entries as transfers, and all amounts of entries add up to nothing.
-/

import Passbook.Proofs.Run.Invariant

namespace Passbook

open Ledger (Query Books Tables Exchange)

/-! ### Transfers with their entries -/

/-- The two entries of a transfer. -/
structure Transfer.PairOf (transfer : Transfer) (debit credit : Entry) : Prop where
  positive : 0 < transfer.amount
  debited : debit.transfer = transfer.id
  credited : credit.transfer = transfer.id
  source : debit.account = transfer.source
  target : credit.account = transfer.target
  taken : debit.amount = -transfer.amount
  given : credit.amount = transfer.amount

/-- Transfers and entries that were stored together. -/
inductive Paired : List Transfer → List Entry → Prop
  | nil : Paired [] []
  | snoc {transfers : List Transfer} {entries : List Entry} {transfer : Transfer}
    {debit credit : Entry} : Paired transfers entries → transfer.PairOf debit credit →
    Paired (transfers ++ [transfer]) (entries ++ [debit, credit])

/-- The entries of a transfer. -/
def Ledger.Tables.entriesFor (tables : Tables) (transfer : Int) : List Entry :=
  tables.entries.filter fun entry => entry.transfer == transfer

namespace Paired

variable {transfers : List Transfer} {entries : List Entry}

theorem length_eq (paired : Paired transfers entries) : entries.length = 2 * transfers.length := by
  induction paired with
  | nil => rfl
  | snoc _ _ ih =>
    rw [List.length_append, List.length_append, ih]
    simp only [List.length_cons, List.length_nil]
    omega

/-- The entries on some accounts add up to nothing when no transfer leads out of these accounts or
into them. -/
theorem sum_among_eq_zero (paired : Paired transfers entries) {among : Int → Prop}
    [DecidablePred among]
    (together : ∀ transfer ∈ transfers, among transfer.source ↔ among transfer.target) :
    Tables.sum (entries.map fun entry => if among entry.account then entry.amount else 0) = 0 := by
  induction paired with
  | nil => rfl
  | @snoc transfers entries transfer debit credit _ pair ih =>
    have earlier := ih fun other member => together other (List.mem_append_left _ member)
    have last := together transfer (List.mem_append_right _ List.mem_cons_self)
    rw [List.map_append, Tables.sum_append, earlier]
    simp only [List.map_cons, List.map_nil, Tables.sum, pair.source, pair.target, pair.taken,
      pair.given, last]
    by_cases here : among transfer.target
    · rw [if_pos here, if_pos here]
      omega
    · rw [if_neg here, if_neg here]
      rfl

theorem sum_eq_zero (paired : Paired transfers entries) :
    Tables.sum (entries.map (·.amount)) = 0 := by
  have all : Tables.sum (entries.map fun entry => if True then entry.amount else 0) = 0 :=
    @sum_among_eq_zero _ _ paired (fun _ => True) _ fun _ _ => Iff.rfl
  simpa using all

theorem transfer_mem (paired : Paired transfers entries) :
    ∀ entry ∈ entries, ∃ transfer ∈ transfers, transfer.id = entry.transfer := by
  induction paired with
  | nil => exact fun _ member => by cases member
  | @snoc transfers entries transfer debit credit _ pair ih =>
    have last : transfer ∈ transfers ++ [transfer] := List.mem_append_right _ List.mem_cons_self
    intro entry member
    rcases List.mem_append.mp member with before | here
    · obtain ⟨other, inside, its⟩ := ih entry before
      exact ⟨other, List.mem_append_left _ inside, its⟩
    · rcases List.mem_cons.mp here with rfl | here
      · exact ⟨transfer, last, pair.debited.symm⟩
      · rw [List.mem_singleton.mp here]
        exact ⟨transfer, last, pair.credited.symm⟩

/-- **A transfer has its pair of entries and no others**, where numbers are not shared. -/
theorem filter_eq (paired : Paired transfers entries) (numbers : (transfers.map (·.id)).Nodup) :
    ∀ transfer ∈ transfers, ∃ debit credit, transfer.PairOf debit credit ∧
      entries.filter (fun entry => entry.transfer == transfer.id) = [debit, credit] := by
  induction paired with
  | nil => exact fun _ member => by cases member
  | @snoc transfers entries last debit credit paired pair ih =>
    rw [List.map_append, List.nodup_append] at numbers
    obtain ⟨earlier, _, apart⟩ := numbers
    intro transfer member
    rw [List.filter_append]
    rcases List.mem_append.mp member with before | here
    · -- the last pair belongs to another transfer
      obtain ⟨debit', credit', pair', found⟩ := ih earlier transfer before
      have other : last.id ≠ transfer.id := fun same =>
        apart transfer.id (List.mem_map_of_mem before) last.id (by simp) same.symm
      refine ⟨debit', credit', pair', ?_⟩
      rw [found]
      simp [pair.debited, pair.credited, other]
    · -- no earlier entry names the last transfer
      rw [List.mem_singleton.mp here]
      refine ⟨debit, credit, pair, ?_⟩
      have none_before : entries.filter (fun entry => entry.transfer == last.id) = [] := by
        rw [List.filter_eq_nil_iff]
        intro entry inside
        obtain ⟨other, stored, its⟩ := paired.transfer_mem entry inside
        have differs := apart other.id (List.mem_map_of_mem stored) last.id (by simp)
        rw [← its]
        simpa using differs
      rw [none_before]
      simp [pair.debited, pair.credited]

end Paired

/-! ### Runs -/

/-- A call that stores no transfer and no entry by itself; it may be a whole transfer. -/
def Call.LeavesMovements : Call → Prop
  | .query (.insertTransfer _) | .query (.insertEntry _) => False
  | _ => True

theorem leavesMovements_of_still {query : Query} (still : ¬ query.MovesMoney) :
    (Call.query query).LeavesMovements := by
  cases query with
  | insertTransfer _ | insertEntry _ => exact absurd trivial still
  | insertUser _ | findUser _ | updateUser _ | insertAccount _ _ _ | findAccount _ | listAccounts _
  | addBalance _ | findTransfer _ | listTransfers _ | findEntry _ | listEntries _
  | sumEntries _ => exact trivial

theorem Movement.pairOf (now : Time.Instant) (movement : Movement) (before : Books)
    (positive : 0 < movement.amount) : (movement.transferRow now before).PairOf
      (movement.debitRow now before) (movement.creditRow now before) :=
  ⟨positive, rfl, rfl, rfl, rfl, rfl, rfl⟩

/-- Transfers and entries stay paired. -/
def Paired.invariant : Invariant Call.LeavesMovements where
  holds _ books := Paired books.rows.transfers books.rows.entries
  empty := .nil
  hear paired _ := paired
  apply permitted _ paired executed := by
    cases Books.effect_of_execute executed with
    | read _ | userStored _ _ | userMissed _ | userChanged _ _ | accountOpened _ _
    | balanceMissed _ | balanceChanged _ _ => exact paired
    | transferStored _ _ _ | entryStored _ _ _ =>
      exact (permitted.admitted leavesMovements_of_still).elim
  move _ _ paired settles _ _ := by
    rw [settles.books]
    exact paired.snoc (Movement.pairOf _ _ _ settles.positive)

variable {past : List Exchange} {ledger : Ledger}

/-- **Entries are paired** after every run in which transfers and entries are stored only by whole
transfers. -/
theorem entries_paired (reachable : Reachable Call.LeavesMovements past ledger) :
    (∀ transfer ∈ ledger.rows.transfers, ∃ debit credit, transfer.PairOf debit credit ∧
      ledger.rows.entriesFor transfer.id = [debit, credit]) ∧
    (∀ entry ∈ ledger.rows.entries, ∃ transfer ∈ ledger.rows.transfers,
      transfer.id = entry.transfer ∧
      ∀ other ∈ ledger.rows.transfers, other.id = entry.transfer → other = transfer) ∧
    ledger.rows.entries.length = 2 * ledger.rows.transfers.length ∧
    Tables.sum (ledger.rows.entries.map (·.amount)) = 0 := by
  have kept := Paired.invariant.of_reachable reachable
  have paired : Paired ledger.rows.transfers ledger.rows.entries := kept.holds
  have numbers : (ledger.rows.transfers.map (·.id)).Nodup := kept.sound.transfers.nodup
  refine ⟨paired.filter_eq numbers, fun entry member => ?_, paired.length_eq, paired.sum_eq_zero⟩
  obtain ⟨transfer, inside, its⟩ := paired.transfer_mem entry member
  refine ⟨transfer, inside, its, fun other stored named => ?_⟩
  exact Ledger.eq_of_nodup_map numbers stored inside (named.trans its.symm)

/-- A ledger with the demonstration data, in which one account has paid another. -/
def paidOnce : Ledger :=
  (Operation.transfer ⟨1, 4, 30⟩).run (Operation.seed.run .fresh)

/-- A transfer between two accounts of the demonstration has its pair of entries. -/
theorem entries_paired_paidOnce :
    paidOnce.rows.transfers.map (·.amount) = [30] ∧ paidOnce.rows.entries.length = 2 ∧
      Tables.sum (paidOnce.rows.entries.map (·.amount)) = 0 := by
  have reachable : Reachable Call.LeavesMovements _ paidOnce :=
    .step (.transfer ⟨1, 4, 30⟩) (.step .seed .fresh trivial) trivial
  obtain ⟨_, _, twice, nothing⟩ := entries_paired reachable
  have stored : paidOnce.rows.transfers.map (·.amount) = [30] := by decide
  have one : paidOnce.rows.transfers.length = 1 := by
    rw [← List.length_map (·.amount), stored]
    rfl
  rw [one] at twice
  exact ⟨stored, twice, nothing⟩

end Passbook
