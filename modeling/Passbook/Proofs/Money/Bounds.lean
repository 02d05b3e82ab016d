/-
**Money behind the service is bounded.**

The service opens only empty accounts; all its money comes from the demonstration data, which opens
each account of a fixed list once, since no two accounts share owner and currency.

* `Serving opened ledger` — runs of handlers, requests, readings and any number of seedings, with
  the number of accounts that the seedings opened.
* `Grown start now opened` — the total has grown by as many demonstration balances, and so many more
  accounts of the demonstration are there; `demonstrated_length_le` bounds their number.
* **`money_bounded`** — after every such run the total is that of the accounts that were seeded, all
  balances lie between zero and it, no transfer leaves the range of a balance, and every payment
  over HTTP is answered with the status 200, 400 or 404 while the database can be reached.
-/

import Mathlib.Data.List.Perm.Subperm
import Passbook.Proofs.Money.Conservation
import Passbook.Proofs.Money.Overdraft
import Passbook.Proofs.Service.Payment

namespace Passbook

open Ledger (Query Books Tables AccountRow Exchange)
open Time (Instant)

/-! ### Accounts of the demonstration -/

/-- Owner and currency of an account, which no two accounts share. -/
def Ledger.AccountRow.holding (row : AccountRow) : String × String :=
  (row.owner, row.currency)

/-- Owner and currency of each account of the demonstration. -/
def Seed.holdings : List (String × String) :=
  demos.flatMap fun demo => demo.currencies.map fun currency => (demo.user.username, currency.code)

theorem Seed.mem_holdings {demo : Demo} (member : demo ∈ demos) {currency : Currency}
    (held : currency ∈ demo.currencies) : (demo.user.username, currency.code) ∈ holdings :=
  List.mem_flatMap.mpr ⟨demo, member, List.mem_map_of_mem held⟩

namespace Ledger.Tables

/-- The accounts of the demonstration. -/
def demonstrated (tables : Tables) : List AccountRow :=
  tables.accounts.filter fun account => Seed.holdings.contains account.holding

/-- Accounts that are kept for their owner and currency are no more than there are of these. -/
theorem length_filter_le {books : Books} (sound : books.Sound) {keep : AccountRow → Bool}
    {holdings : List (String × String)} (named : ∀ account ∈ books.rows.accounts,
      keep account = true → account.holding ∈ holdings) :
    (books.rows.accounts.filter keep).length ≤ holdings.length := by
  have nodup : ((books.rows.accounts.filter keep).map AccountRow.holding).Nodup :=
    sound.holdings.sublist (List.filter_sublist.map AccountRow.holding)
  have among : (books.rows.accounts.filter keep).map AccountRow.holding ⊆ holdings := by
    intro holding member
    obtain ⟨account, inside, rfl⟩ := List.mem_map.mp member
    obtain ⟨stored, kept⟩ := List.mem_filter.mp inside
    exact named account stored kept
  have shorter := (List.subperm_of_subset nodup among).length_le
  rwa [List.length_map] at shorter

/-- There are no more accounts of the demonstration than it names. -/
theorem demonstrated_length_le {books : Books} (sound : books.Sound) :
    books.rows.demonstrated.length ≤ Seed.holdings.length :=
  length_filter_le sound fun _ _ kept => by simpa using kept

theorem demonstrated_snoc (tables : Tables) (account : AccountRow) :
    ({ tables with accounts := tables.accounts ++ [account] } : Tables).demonstrated.length =
      tables.demonstrated.length + if account.holding ∈ Seed.holdings then 1 else 0 := by
  unfold demonstrated
  rw [List.filter_append, List.length_append]
  by_cases known : account.holding ∈ Seed.holdings <;> simp [known]

theorem demonstrated_adjusted (tables : Tables) (change : Int → Int) :
    (tables.adjusted change).demonstrated.length = tables.demonstrated.length := by
  unfold demonstrated adjusted
  rw [List.filter_map, List.length_map]
  rfl

theorem total_snoc (tables : Tables) (account : AccountRow) :
    ({ tables with accounts := tables.accounts ++ [account] } : Tables).total =
      tables.total + account.balance := by
  unfold total
  rw [List.map_append, sum_append]
  simp [sum]

/-- What one account is given is counted once. -/
theorem sum_only_of_hasAccount {books : Books} (sound : books.Sound) {id : Int}
    (there : books.rows.HasAccount id) (amount : Int) :
    sum (books.rows.accounts.map fun row => only id amount row.id) = amount := by
  have one := sum_only sound.accounts.nodup id amount
  rw [List.map_map, if_pos (List.mem_map.mpr there)] at one
  exact one

/-- A transfer takes from one account what it gives to another, and leaves the total. -/
theorem total_settled {now : Instant} {before after : Books} {movement : Movement}
    {settlement : Settlement} (settles : movement.Settles now before settlement after)
    (sound : before.Sound) : after.rows.total = before.rows.total := by
  have given := sum_only_of_hasAccount sound settles.hasTarget movement.amount
  have taken := sum_only_of_hasAccount sound settles.hasSource (-movement.amount)
  have nothing : sum (before.rows.accounts.map fun row => movement.change row.id) = 0 := by
    unfold Movement.change
    rw [sum_map_add, given, taken]
    omega
  rw [settles.books]
  calc (movement.settled now before).rows.total
      = sum (before.rows.accounts.map fun row => row.balance + movement.change row.id) := by
        unfold Tables.total Movement.settled adjusted
        rw [List.map_map]
        rfl
    _ = before.rows.total := by
        rw [sum_map_add, nothing, Int.add_zero]
        rfl

end Ledger.Tables

/-! ### Growth -/

/-- From one state of the rows to another as many demonstration balances were added as accounts of
the demonstration. -/
structure Grown (start now : Tables) (opened : Nat) : Prop where
  total : now.total = start.total + Seed.balance * opened
  demonstrated : start.demonstrated.length + opened ≤ now.demonstrated.length

namespace Grown

variable {start : Tables} {opened : Nat} {now : Instant} {before after : Books}

theorem refl (tables : Tables) : Grown tables tables 0 :=
  ⟨by simp, Nat.le_refl _⟩

theorem trans {first second third : Tables} {more : Nat} (earlier : Grown first second opened)
    (later : Grown second third more) : Grown first third (opened + more) := by
  have total := later.total
  have demonstrated := later.demonstrated
  have total' := earlier.total
  have demonstrated' := earlier.demonstrated
  constructor
  · rw [total, total', Int.add_assoc, ← Int.mul_add, Int.natCast_add]
  · omega

theorem of_accounts (grown : Grown start before.rows opened)
    (same : after.rows.accounts = before.rows.accounts) : Grown start after.rows opened := by
  have total : after.rows.total = before.rows.total := by rw [Tables.total, same, Tables.total]
  have demonstrated : after.rows.demonstrated = before.rows.demonstrated := by
    rw [Tables.demonstrated, same, Tables.demonstrated]
  exact ⟨total.trans grown.total, demonstrated ▸ grown.demonstrated⟩

theorem snoc (grown : Grown start before.rows opened) {account : AccountRow} {more : Nat}
    (rows : after.rows.accounts = before.rows.accounts ++ [account])
    (balance : account.balance = Seed.balance * more)
    (demonstrated : more ≤ if account.holding ∈ Seed.holdings then 1 else 0) :
    Grown start after.rows (opened + more) := by
  have step : Grown before.rows after.rows more := by
    constructor
    · have total := before.rows.total_snoc account
      rw [← balance, ← total, Tables.total, rows, Tables.total]
    · have same : after.rows.demonstrated.length = before.rows.demonstrated.length +
          if account.holding ∈ Seed.holdings then 1 else 0 := by
        rw [Tables.demonstrated, rows]
        exact before.rows.demonstrated_snoc account
      omega
  exact grown.trans step

theorem settled {movement : Movement} {settlement : Settlement}
    (grown : Grown start before.rows opened) (sound : before.Sound)
    (settles : movement.Settles now before settlement after) : Grown start after.rows opened := by
  have demonstrated : after.rows.demonstrated.length = before.rows.demonstrated.length := by
    rw [settles.books]
    exact before.rows.demonstrated_adjusted movement.change
  exact ⟨(Tables.total_settled settles sound).trans grown.total,
    demonstrated ▸ grown.demonstrated⟩

end Grown

/-! ### Calls of the service and of the seeding -/

def Call.Seeded : Call → Prop
  | .query asked => asked.Seeded
  | .transfer _ => False

/-- What does not seed makes only calls of the service. -/
theorem Operation.asks_served {operation : Operation} (within : operation.Within Call.Reads)
    (other : operation ≠ .seed) : operation.Asks Call.Served := by
  have queried : ∀ call : Call, call.Queried → call.Served := fun _ => Call.Queried.served
  cases operation with
  | perform work | transact work =>
    exact Script.asks_mono (fun _ => Query.served_of_isRead) within
  | transfer movement => exact absurd within id
  | seed => exact absurd rfl other
  | register user => exact Script.asks_mono queried (Service.asks_register user)
  | changeProfile change => exact Script.asks_mono queried (Service.asks_changeProfile change)
  | openAccount account => exact Script.asks_mono queried (Service.asks_openAccount account)
  | pay policy order => exact Service.asks_pay policy order
  | request policy fresh asked => exact Http.asks_respond policy fresh asked
  | migrate | surround _ _ _ => exact trivial

/-- The service opens only empty accounts. -/
def Grown.served (start : Tables) : Preserved Call.Served where
  holds _ books := Grown start books.rows 0
  hear grown _ := grown
  apply served _ grown executed := by
    have leaves := leavesBalances_of_still (Query.Served.not_movesMoney served)
    rcases accounts_of_execute leaves executed with same | ⟨account, rfl, _, _, rows⟩
    · exact grown.of_accounts same
    · refine grown.snoc rows ?_ (Nat.zero_le _)
      rw [served.1]
      rfl
  move _ sound grown settles _ _ := grown.settled sound settles

/-- Each account that the seeding opens is one of the demonstration, with its balance. -/
def Grown.seeded (start : Tables) : Preserved Call.Seeded where
  holds _ books := ∃ opened, books.rows.accounts.length = start.accounts.length + opened ∧
    Grown start books.rows opened
  hear grown _ := grown
  apply seeded _ grown executed := by
    obtain ⟨opened, length, grown⟩ := grown
    have leaves := leavesBalances_of_still (Query.Seeded.not_movesMoney seeded)
    rcases accounts_of_execute leaves executed with same | ⟨account, rfl, _, _, rows⟩
    · exact ⟨opened, same ▸ length, grown.of_accounts same⟩
    · obtain ⟨balance, demo, member, owner, currency, held, code⟩ := seeded
      have known : account.holding ∈ Seed.holdings := by
        rw [AccountRow.holding, ← owner, ← code]
        exact Seed.mem_holdings member held
      refine ⟨opened + 1, ?_, grown.snoc rows ?_ ?_⟩
      · rw [rows, List.length_append, length]
        rfl
      · rw [balance]
        rfl
      · exact Nat.le_of_eq (if_pos known).symm
  move moves := moves.elim

/-! ### Solvent rows -/

/-- No balance is negative, and every currency is known. -/
def Ledger.Tables.Solvent (rows : Tables) : Prop :=
  ∀ account ∈ rows.accounts, 0 ≤ account.balance ∧ account.Readable

/-- Behind the service, rows stay solvent. -/
def Ledger.Tables.solvent : Invariant Call.Reads where
  holds _ books := books.rows.Solvent
  empty := fun _ member => by cases member
  hear solvent _ := solvent
  apply permitted _ solvent executed := by
    have kinds := permitted.elim (fun reads => .inl (Query.served_of_isRead reads)) id
    have still := kinds.elim Query.Served.not_movesMoney Query.Seeded.not_movesMoney
    rcases accounts_of_execute (leavesBalances_of_still still) executed with
      same | ⟨account, rfl, _, _, rows⟩
    · unfold Tables.Solvent
      rw [same]
      exact solvent
    · unfold Tables.Solvent
      rw [rows]
      refine Ledger.forall_mem_snoc solvent ?_
      rcases kinds with ⟨balance, known⟩ | ⟨balance, _, _, _, held, _, code⟩
      · exact ⟨Int.le_of_eq balance.symm, known⟩
      · exact ⟨by rw [balance]; decide, held, code⟩
  move _ sound solvent settles _ _ := by
    rw [settles.books]
    intro account member
    obtain ⟨row, stored, rfl⟩ := List.mem_map.mp member
    obtain ⟨nonneg, readable⟩ := solvent row stored
    have floor := settles.floor sound stored
    refine ⟨?_, readable⟩
    show 0 ≤ row.balance + _
    omega

/-! ### Runs -/

/-- The number of accounts that an operation opens, if it is a seeding. -/
def Operation.seeds : Operation → Ledger → Nat
  | seed, ledger => ledger.seed.2.rows.accounts.length - ledger.rows.accounts.length
  | _, _ => 0

/-- **A run behind the service**: handlers, requests, readings and seedings, on laid-out tables. -/
inductive Serving : Nat → Ledger → Prop
  | fresh : Serving 0 .fresh
  | step {opened : Nat} {ledger : Ledger} (operation : Operation) :
    Serving opened ledger → operation.Within Call.Reads →
    Serving (opened + operation.seeds ledger) (operation.run ledger)

namespace Serving

variable {opened : Nat} {ledger : Ledger}

theorem reachable (serving : Serving opened ledger) : ∃ past, Reachable Call.Reads past ledger := by
  induction serving with
  | fresh => exact ⟨[], .fresh⟩
  | step operation _ within ih =>
    obtain ⟨past, reachable⟩ := ih
    exact ⟨_, .step operation reachable within⟩

theorem laid (serving : Serving opened ledger) : ledger.tables.isSome = true := by
  induction serving with
  | fresh => rfl
  | step operation _ _ ih => exact operation.run_laid ih

/-- One operation lets the rows grow by the accounts that it seeds. -/
theorem grown_step (sound : ledger.books.Sound) {operation : Operation}
    (within : operation.Within Call.Reads) :
    Grown ledger.rows (operation.run ledger).rows (operation.seeds ledger) := by
  by_cases seeds : operation = .seed
  · subst seeds
    have start : (Grown.seeded ledger.rows).Kept [] ledger.books := ⟨sound, 0, rfl, .refl _⟩
    have asks : Operation.seed.Asks Call.Seeded := Seed.asks_seedAll fun _ => Seed.Demo.asks_seeded
    obtain ⟨more, length, grown⟩ := (start.operation asks).holds
    have counted : Operation.seed.seeds ledger = more := by
      show (Operation.seed.run ledger).rows.accounts.length - ledger.rows.accounts.length = more
      have length : (Operation.seed.run ledger).rows.accounts.length =
          ledger.rows.accounts.length + more := length
      omega
    rw [counted]
    exact grown
  · have start : (Grown.served ledger.rows).Kept [] ledger.books := ⟨sound, .refl _⟩
    have none_seeded : operation.seeds ledger = 0 := by
      cases operation with
      | seed => exact absurd rfl seeds
      | perform _ | transact _ | transfer _ | migrate | register _ | changeProfile _
      | openAccount _ | pay _ _ | request _ _ _ | surround _ _ _ => rfl
    rw [none_seeded]
    exact (start.operation (Operation.asks_served within seeds)).holds

theorem grown (serving : Serving opened ledger) : Grown .empty ledger.rows opened := by
  induction serving with
  | fresh => exact .refl .empty
  | step operation serving within ih =>
    obtain ⟨past, reachable⟩ := serving.reachable
    exact ih.trans (grown_step reachable.sound within)

/-- The demonstration is opened once at most. -/
theorem opened_le (serving : Serving opened ledger) : opened ≤ Seed.holdings.length := by
  obtain ⟨past, reachable⟩ := serving.reachable
  have grown := serving.grown.demonstrated
  have bound : ledger.rows.demonstrated.length ≤ Seed.holdings.length :=
    Tables.demonstrated_length_le reachable.sound
  omega

theorem total (serving : Serving opened ledger) : ledger.rows.total = Seed.balance * opened := by
  rw [serving.grown.total, show Tables.empty.total = 0 from rfl, Int.zero_add]

end Serving

/-- Where no balance is negative, every balance lies between zero and the total. -/
theorem Ledger.Tables.Solvent.bounds {rows : Tables} (solvent : rows.Solvent) :
    ∀ account ∈ rows.accounts, 0 ≤ account.balance ∧ account.balance ≤ rows.total := by
  intro account member
  refine ⟨(solvent account member).1, Tables.le_sum_of_mem ?_ (List.mem_map_of_mem member)⟩
  intro balance inside
  obtain ⟨row, stored, rfl⟩ := List.mem_map.mp inside
  exact (solvent row stored).1

/-- Small amounts fit small balances. -/
theorem Movement.fits_of_small {movement : Movement} {rows : Tables} (solvent : rows.Solvent)
    (total : rows.total ≤ Amount.greatest) (positive : 0 < movement.amount)
    (small : movement.amount ≤ Amount.greatest) : movement.Fits rows := by
  have taken : -movement.amount ≤ movement.change movement.source ∧
      movement.change movement.source ≤ 0 := by
    by_cases self : movement.source = movement.target
    · simp [change, Tables.only, self]
      omega
    · simp [change, Tables.only, self]
      omega
  have bounds : ∀ {id : Int} {row : AccountRow}, rows.account? id = some row →
      0 ≤ row.balance ∧ row.balance ≤ Amount.greatest := fun found => by
    obtain ⟨nonneg, most⟩ := solvent.bounds _ (Tables.account?_eq_some found).1
    exact ⟨nonneg, Int.le_trans most total⟩
  unfold Amount.greatest at bounds small
  refine fits_of_room (fun row found => ?_) (fun row found => ?_)
  · have held := bounds found
    rw [Text.IntegerRange.int64_contains]
    omega
  · have held := bounds found
    rw [Text.IntegerRange.int64_contains]
    omega

variable {opened : Nat} {ledger : Ledger}

/-- **Money is bounded** after every run behind the service. The total is that of the seeded
accounts, and every balance lies between zero and it. No transfer that is attempted leaves the range
of a balance, in either order of its changes: none of its statements is refused for it, unless a
fault says so. While the database can be reached, every payment over HTTP is answered with the
status 200, 400 or 404. -/
theorem money_bounded (serving : Serving opened ledger) :
    ledger.rows.total = Seed.balance * opened ∧
    (∀ account ∈ ledger.rows.accounts,
      0 ≤ account.balance ∧ account.balance ≤ Seed.balance * opened) ∧
    (∀ operation : Operation, operation.Within Call.Reads →
      ∀ attempt ∈ operation.attempts ledger, attempt.movement.Fits attempt.ledger.rows ∧
        ((∀ fault ∈ attempt.ledger.faults, fault.failure.error ≠ .ofRefusal .outOfRange) →
          ∀ exchange ∈ attempt.ledger.transferExchanges attempt.movement,
            exchange.reply ≠ .error (.ofRefusal .outOfRange))) ∧
    (ledger.access = .granted → ledger.faults = [] →
      ∀ policy fresh, ∀ request : Http.Request, request.method = "POST" →
        Http.Resource.ofPath? request.path = some .transfers →
        (Http.serve policy fresh request ledger).1.status = 200 ∨
          (Http.serve policy fresh request ledger).1.status = 400 ∨
          (Http.serve policy fresh request ledger).1.status = 404) := by
  obtain ⟨past, reachable⟩ := serving.reachable
  have kept := Tables.solvent.of_reachable reachable
  have solvent : ledger.rows.Solvent := kept.holds
  have total := serving.total
  have small : ledger.rows.total ≤ Amount.greatest := by
    have opened_le : opened ≤ 6 := serving.opened_le
    rw [total, Seed.balance, Amount.greatest]
    omega
  refine ⟨total, ?_, fun operation within attempt member => ?_, ?_⟩
  · rw [← total]
    exact solvent.bounds
  · by_cases seeds : operation = .seed
    · subst seeds
      cases member
    obtain ⟨_, _, solvency⟩ := kept.of_attempts (Operation.asks_of_within within) attempt member
    have start : (Grown.served ledger.rows).Kept [] ledger.books := ⟨kept.sound, .refl _⟩
    obtain ⟨⟨positive, bounded⟩, _, growth⟩ :=
      start.of_attempts (Operation.asks_served within seeds) attempt member
    have same : attempt.ledger.rows.total = ledger.rows.total + Seed.balance * 0 :=
      growth.holds.total
    have fits := Movement.fits_of_small solvency.holds
      (by rw [show attempt.ledger.books.rows.total = _ from same]; omega) positive bounded
    exact ⟨fits, Ledger.transfer_inRange solvency.sound
      (operation.attempts_laid serving.laid attempt member) fits⟩
  · intro granted faultless policy fresh request method path
    have calm : ledger.Calm := ⟨granted, faultless, serving.laid⟩
    refine Http.status_of_pay fresh path method fun order => ?_
    refine Service.pay_of_calm calm kept.sound (fun row stored => (solvent row stored).2) policy
      order fun amount => ?_
    exact Movement.fits_of_small solvent small amount.positive amount.le_greatest

/-- A ledger with the demonstration data, in which the service has carried out a payment. -/
def servedOnce : Ledger :=
  (Operation.pay .reject ⟨1, 4, 30, "USD"⟩).run (Operation.seed.run .fresh)

/-- A payment over HTTP of an amount from the first account to the fourth. -/
def paymentOf (amount : Nat) : Http.Request :=
  ⟨"POST", "/transfers", [Http.Header.ofText "content-type" "application/json"],
    "\x7b\"from_account_id\":1,\"to_account_id\":4,\"amount\":" ++ toString amount ++
      ",\"currency\":\"USD\"\x7d"⟩

/-- The seeding opens six accounts, and further payments over HTTP are answered. Both come to the
transfer: the one that the first account can still pay for is carried out, and that of more than it
holds is not. -/
theorem money_bounded_servedOnce :
    servedOnce.rows.accounts.map (·.balance) = [70, 100, 100, 130, 100, 100] ∧
    servedOnce.rows.total = 600 ∧
    (∀ amount ∈ [70, 71],
      (Http.serve .reject .nil (paymentOf amount) servedOnce).1.status ∈ [200, 400, 404]) ∧
    ([70, 71].map fun amount =>
      let (response, ledger) := Http.serve .reject .nil (paymentOf amount) servedOnce
      (response.status, ledger.serials.transfers, ledger.rows.accounts.map (·.balance))) =
      [(200, 2, [0, 100, 100, 200, 100, 100]), (400, 2, [70, 100, 100, 130, 100, 100])] := by
  have serving : Serving _ servedOnce :=
    .step (.pay .reject ⟨1, 4, 30, "USD"⟩) (.step .seed .fresh trivial) trivial
  obtain ⟨total, _, _, answers⟩ := money_bounded serving
  have opened : Operation.seed.seeds .fresh = 6 := by decide
  refine ⟨by decide, ?_, fun amount _ => ?_, by decide +kernel⟩
  · rw [total]
    show Seed.balance * ((0 + Operation.seed.seeds .fresh + 0 : Nat) : Int) = 600
    rw [opened]
    rfl
  · have path : Http.Resource.ofPath? (Http.Request.path ⟨"POST", "/transfers", [], ""⟩) =
        some .transfers := by decide
    have answered := answers (by decide) (by decide) .reject .nil (paymentOf amount) rfl path
    simpa using answered

end Passbook
