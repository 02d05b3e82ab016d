/-
**Money stays within its currency.**

A payment asks for a transfer only between accounts that are held in the currency of its order, and
they are so still when the transfer is carried out, however the clients take turns. So the two
entries of a transfer stand on accounts of one currency, where they cancel each other.

* `Tables.heldIn` — the accounts of a currency; `sum_entrySum_heldIn` — their entries add up to
  nothing where every transfer lies within one currency.
* **`checks_stay_valid`** — in traffic of clients that take turns in any order, no payment whose
  accounts passed is refused for want of them, every transfer lies within one currency, and the
  money of a currency is what its accounts were opened with.
-/

import Passbook.Proofs.Traffic.Checks

namespace Passbook

open Ledger (Tables AccountRow Exchange)

/-! ### Accounts of a currency -/

namespace Ledger.Tables

/-- The accounts that are held in the currency of the code. -/
def heldIn (rows : Tables) (code : String) : List AccountRow :=
  rows.accounts.filter fun account => account.currency == code

variable {rows : Tables}

/-- An account is among those of the currency that it is held in, and of no other. -/
theorem Holds.mem_heldIn_iff (nodup : (rows.accounts.map (·.id)).Nodup) {id : Int}
    {held code : String} (holds : rows.Holds id held) :
    id ∈ (rows.heldIn code).map (·.id) ↔ held = code := by
  obtain ⟨account, member, rfl, rfl⟩ := holds
  constructor
  · intro named
    obtain ⟨other, inside, its⟩ := List.mem_map.mp named
    obtain ⟨stored, same⟩ := List.mem_filter.mp inside
    rw [← eq_of_nodup_map nodup stored member its]
    exact eq_of_beq same
  · rintro rfl
    exact List.mem_map_of_mem (List.mem_filter.mpr ⟨member, beq_self_eq_true _⟩)

/-- The entries on the accounts of a currency add up to nothing where every transfer lies within one
currency. -/
theorem sum_entrySum_heldIn (nodup : (rows.accounts.map (·.id)).Nodup)
    (paired : Paired rows.transfers rows.entries)
    (within : ∀ transfer ∈ rows.transfers, ∃ held, rows.Holds transfer.source held ∧
      rows.Holds transfer.target held) (code : String) :
    sum ((rows.heldIn code).map fun account => rows.entrySum account.id) = 0 := by
  have numbers : ((rows.heldIn code).map (·.id)).Nodup :=
    nodup.sublist (List.filter_sublist.map _)
  have together : ∀ transfer ∈ rows.transfers,
      transfer.source ∈ (rows.heldIn code).map (·.id) ↔
        transfer.target ∈ (rows.heldIn code).map (·.id) := by
    intro transfer member
    obtain ⟨held, source, target⟩ := within transfer member
    rw [source.mem_heldIn_iff nodup, target.mem_heldIn_iff nodup]
  have among := rows.sum_entrySum numbers
  rw [paired.sum_among_eq_zero together, List.map_map] at among
  exact among

end Ledger.Tables

/-- Where every transfer lies within one currency, the money of a currency is what its accounts were
opened with. -/
theorem Conserved.sum_heldIn {past : List Exchange} {books : Ledger.Books}
    (conserved : Conserved past books) (sound : books.Sound)
    (paired : Paired books.rows.transfers books.rows.entries)
    (within : ∀ transfer ∈ books.rows.transfers, ∃ held, books.rows.Holds transfer.source held ∧
      books.rows.Holds transfer.target held) (code : String) :
    Tables.sum ((books.rows.heldIn code).map (·.balance)) =
      Tables.sum ((books.rows.heldIn code).map fun account => openedWith past account.id) := by
  have balances : ∀ account ∈ books.rows.heldIn code,
      account.balance = openedWith past account.id + books.rows.entrySum account.id :=
    fun account member => conserved.balance_eq account (List.mem_filter.mp member).1
  rw [List.map_congr_left balances, Tables.sum_map_add,
    Tables.sum_entrySum_heldIn sound.accounts.nodup paired within, Int.add_zero]

/-! ### Traffic -/

variable {traffic : Traffic}

/-- A transfer is that of its deal, whose accounts are held in the currency of its order. -/
theorem Traffic.Fair.deal_of_transfer (fair : traffic.Fair) {transfer : Transfer}
    (stored : transfer ∈ traffic.ledger.rows.transfers) : ∃ deal ∈ traffic.deals,
      (∃ settlement, deal.outcome = .ok settlement ∧ settlement.transfer = transfer) ∧
      (transfer.source = deal.order.source ∧ transfer.target = deal.order.target ∧
        transfer.amount = deal.order.amount) ∧
      traffic.ledger.rows.Holds transfer.source deal.order.currency ∧
      traffic.ledger.rows.Holds transfer.target deal.order.currency ∧
      (deal.policy = .reject → transfer.source ≠ transfer.target) := by
  obtain ⟨deal, known, settlement, succeeds, rfl⟩ := fair.transfers transfer stored
  obtain ⟨founded, persists⟩ := fair.deals deal known
  obtain ⟨source, target, amount⟩ := founded.transfer_of_ok succeeds
  refine ⟨deal, known, ⟨settlement, succeeds, rfl⟩, ⟨source, target, amount⟩, ?_, ?_, ?_⟩
  · rw [source]
    exact founded.cleared.source.persists persists
  · rw [target]
    exact founded.cleared.target.persists persists
  · intro rejects self
    have permitted := founded.cleared.permitted
    rw [rejects, ← source, ← target, self] at permitted
    simp [SelfTransferPolicy.permits] at permitted

/-- **Checks stay valid** while clients take turns in any order.

A payment that asks for its transfer has found both of its accounts, held in the currency of its
order, and they are so when the transfer meets the ledger; so it does not fail for want of an
account, nor for a reference to a row that is not there, unless a fault says so. Every transfer that
is stored comes from such a payment and lies between two accounts of the currency of its order, and
between two different ones where the policy rejects others. What the accounts of a currency hold
together is what they were opened with. -/
theorem checks_stay_valid (interleaved : Interleaved traffic) :
    (∀ deal ∈ traffic.deals, deal.movement = deal.order.movement ∧
      deal.order.Cleared deal.policy deal.ledger.rows ∧
      ∀ error, deal.outcome = .error error → (∀ id, error.origin ≠ .accountNotFound id) ∧
        ((∀ fault ∈ deal.ledger.faults, fault.failure.error.code? ≠ some "23503") →
          error.isForeignKeyViolation = false)) ∧
    (∀ transfer ∈ traffic.ledger.rows.transfers, ∃ deal ∈ traffic.deals,
      (∃ settlement, deal.outcome = .ok settlement ∧ settlement.transfer = transfer) ∧
      (transfer.source = deal.order.source ∧ transfer.target = deal.order.target ∧
        transfer.amount = deal.order.amount) ∧
      traffic.ledger.rows.Holds transfer.source deal.order.currency ∧
      traffic.ledger.rows.Holds transfer.target deal.order.currency ∧
      (deal.policy = .reject → transfer.source ≠ transfer.target)) ∧
    (∀ account ∈ traffic.ledger.rows.accounts, ∃ opening,
      (openings traffic.past).filter (fun opening => opening.account == account.id) = [opening]) ∧
    ∀ code, Tables.sum ((traffic.ledger.rows.heldIn code).map (·.balance)) =
      Tables.sum ((traffic.ledger.rows.heldIn code).map fun account =>
        openedWith traffic.past account.id) := by
  have fair := Traffic.Fair.of_interleaved interleaved
  have reachable := interleaved.reachable
  have kept := Conserved.invariant.of_reachable reachable
  have conserved : Conserved traffic.past traffic.ledger.books := kept.holds
  have paired := Paired.invariant.of_reachable (reachable.mono leavesMovements_of_leavesMoney)
  refine ⟨fun deal known => ?_, fun transfer => fair.deal_of_transfer, fun account member => ?_,
    conserved.sum_heldIn kept.sound paired.holds fun transfer stored => ?_⟩
  · have founded := (fair.deals deal known).1
    exact ⟨founded.movement, founded.cleared, fun error => founded.accounts_of_error⟩
  · obtain ⟨opening, only, _⟩ := conserved.opening_of_mem member
    exact ⟨opening, only⟩
  · obtain ⟨deal, _, _, _, source, target, _⟩ := fair.deal_of_transfer stored
    exact ⟨_, source, target⟩

/-- Two payments between the same accounts, and an account that is opened meanwhile. -/
def arrivals : List Move :=
  [.aside .seed,
    .enter (.payer .reject ⟨1, 4, 30, "USD"⟩ (Service.pay .reject ⟨1, 4, 30, "USD"⟩).run),
    .enter (.payer .reject ⟨4, 1, 10, "USD"⟩ (Service.pay .reject ⟨4, 1, 10, "USD"⟩).run),
    .enter (.other (Service.openAccount ⟨"peepo", "MXN"⟩).run)]

/-- The payment that came later overtakes the other. -/
def overtaken : Traffic :=
  (Traffic.start .fresh).run (arrivals ++ [0, 1, 2, 0, 1, 2, 1, 0].map .turn)

/-- Both payments found their accounts held in their currency, and left it with what it had. -/
theorem checks_stay_valid_overtaken :
    overtaken.deals.map (·.order.amount) = [10, 30] ∧
      (∀ deal ∈ overtaken.deals, deal.order.Cleared deal.policy deal.ledger.rows) ∧
      overtaken.ledger.rows.accounts.map (·.balance) = [80, 100, 100, 120, 100, 100, 0] ∧
      Tables.sum ((overtaken.ledger.rows.heldIn "USD").map (·.balance)) = 200 := by
  have proper : ∀ move ∈ arrivals ++ [0, 1, 2, 0, 1, 2, 1, 0].map .turn, move.Proper := by
    rw [List.forall_mem_append]
    constructor
    · simp only [arrivals, List.forall_mem_cons]
      exact ⟨Operation.asks_seed_still, rfl, rfl,
        Client.enters_of_queried (Service.asks_openAccount _), fun _ member => by cases member⟩
    · intro move member
      obtain ⟨number, _, rfl⟩ := List.mem_map.mp member
      exact trivial
  have interleaved : Interleaved overtaken := Interleaved.fresh.run proper
  obtain ⟨deals, _, _, sums⟩ := checks_stay_valid interleaved
  refine ⟨by decide, fun deal known => (deals deal known).2.1, by decide, (sums "USD").trans ?_⟩
  decide

end Passbook
