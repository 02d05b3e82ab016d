/-
**Transfers in any order.**

Where every account covers all that goes out of it and has room for all that comes into it, each of
several transfers is settled whatever came before: what is left to go out is still covered, and
there is still room for what is left to come in. The balances at the end are then the same for every
order.

* `Movement.outgoing`, `Movement.incoming` — what movements take from an account and give to it.
* `Tables.Bears rows movements` — the accounts are there, cover what goes out and have room for what
  comes in; `Bears.settled` says so of what is left after a transfer.
* `Tables.Typed` — no balance is below the range of its column, and every currency is known.
* **`Calm.transferAll_of_bears`** — transfers that a calm ledger bears are settled one after
  another.
* **`transfers_in_any_order`** — so they are in every state that is reached, in every order.
-/

import Mathlib.Data.List.Forall2
import Passbook.Proofs.Run.Invariant
import Passbook.Proofs.Store.Settling

namespace Passbook

open Ledger (Query Books Tables AccountRow)
open Time (Instant)

/-! ### What movements take and give -/

namespace Movement

/-- What movements take from an account. -/
def outgoing (movements : List Movement) (account : Int) : Int :=
  Tables.sum (movements.map fun movement => Tables.only movement.source movement.amount account)

/-- What movements give to an account. -/
def incoming (movements : List Movement) (account : Int) : Int :=
  Tables.sum (movements.map fun movement => Tables.only movement.target movement.amount account)

/-- What movements add to the balance of each account. -/
def net (movements : List Movement) : Int → Int :=
  fun account => incoming movements account - outgoing movements account

variable {movements order : List Movement}

theorem outgoing_perm (same : order.Perm movements) : outgoing order = outgoing movements :=
  funext fun _ => Tables.sum_perm (same.map _)

theorem incoming_perm (same : order.Perm movements) : incoming order = incoming movements :=
  funext fun _ => Tables.sum_perm (same.map _)

theorem net_perm (same : order.Perm movements) : net order = net movements := by
  unfold net
  rw [outgoing_perm same, incoming_perm same]

theorem outgoing_nonneg (positive : ∀ movement ∈ movements, 0 < movement.amount) (account : Int) :
    0 ≤ outgoing movements account := by
  refine Tables.sum_nonneg fun amount member => ?_
  obtain ⟨movement, inside, rfl⟩ := List.mem_map.mp member
  exact (Tables.only_bounds (Int.le_of_lt (positive movement inside)) _ _).1

theorem incoming_nonneg (positive : ∀ movement ∈ movements, 0 < movement.amount) (account : Int) :
    0 ≤ incoming movements account := by
  refine Tables.sum_nonneg fun amount member => ?_
  obtain ⟨movement, inside, rfl⟩ := List.mem_map.mp member
  exact (Tables.only_bounds (Int.le_of_lt (positive movement inside)) _ _).1

theorem outgoing_cons (movement : Movement) (rest : List Movement) (account : Int) :
    outgoing (movement :: rest) account =
      Tables.only movement.source movement.amount account + outgoing rest account := rfl

theorem incoming_cons (movement : Movement) (rest : List Movement) (account : Int) :
    incoming (movement :: rest) account =
      Tables.only movement.target movement.amount account + incoming rest account := rfl

theorem change_eq (movement : Movement) (account : Int) :
    movement.change account = Tables.only movement.target movement.amount account -
      Tables.only movement.source movement.amount account := by
  rw [change, Tables.only_neg]
  omega

theorem net_cons (movement : Movement) (rest : List Movement) :
    net (movement :: rest) = fun account => movement.change account + net rest account := by
  funext account
  rw [net, net, outgoing_cons, incoming_cons, change_eq]
  omega

/-- The result of a movement: it is balanced, and tells of the movement. -/
structure Yields (movement : Movement) (settlement : Settlement) : Prop where
  source : settlement.transfer.source = movement.source
  target : settlement.transfer.target = movement.target
  amount : settlement.transfer.amount = movement.amount
  balanced : settlement.isBalanced = true

theorem Settles.yields {now : Instant} {movement : Movement} {before after : Books}
    {settlement : Settlement} (settles : movement.Settles now before settlement after) :
    movement.Yields settlement := by
  have balanced : settlement.isBalanced = true := by
    rw [Settlement.isBalanced, settles.transfer, settles.debit, settles.credit]
    simp only [transferRow, debitRow, creditRow, Int.add_left_neg, beq_self_eq_true, Bool.and_self]
  refine ⟨?_, ?_, ?_, balanced⟩ <;> rw [settles.transfer] <;> rfl

end Movement

/-! ### Accounts that bear movements -/

namespace Ledger.Tables

open Movement (outgoing incoming net)

/-- No balance is below the range of its column, and every currency is known. -/
def Typed (rows : Tables) : Prop :=
  ∀ account ∈ rows.accounts, -9223372036854775808 ≤ account.balance ∧ account.Readable

/-- The accounts of the movements are there. What goes out of an account is covered, and an account
has room for what comes into it. -/
structure Bears (rows : Tables) (movements : List Movement) : Prop where
  positive : ∀ movement ∈ movements, 0 < movement.amount
  hasSource : ∀ movement ∈ movements, rows.HasAccount movement.source
  hasTarget : ∀ movement ∈ movements, rows.HasAccount movement.target
  funds : ∀ account ∈ rows.accounts, 0 < outgoing movements account.id →
    outgoing movements account.id ≤ account.balance
  room : ∀ account ∈ rows.accounts,
    account.balance + incoming movements account.id ≤ 9223372036854775807

variable {rows : Tables} {movement : Movement} {movements order rest : List Movement}

theorem Bears.perm (bears : rows.Bears movements) (same : order.Perm movements) :
    rows.Bears order := by
  refine ⟨fun movement member => bears.positive movement (same.mem_iff.mp member),
    fun movement member => bears.hasSource movement (same.mem_iff.mp member),
    fun movement member => bears.hasTarget movement (same.mem_iff.mp member), ?_, ?_⟩
  · rw [Movement.outgoing_perm same]
    exact bears.funds
  · rw [Movement.incoming_perm same]
    exact bears.room

namespace Bears

variable (bears : rows.Bears (movement :: rest))

include bears

theorem positive_rest : ∀ other ∈ rest, 0 < other.amount :=
  fun other member => bears.positive other (List.mem_cons_of_mem _ member)

/-- The source of the first movement covers it, and what follows. -/
theorem covers {row : AccountRow} (found : rows.account? movement.source = some row) :
    movement.amount + outgoing rest movement.source ≤ row.balance := by
  obtain ⟨stored, its⟩ := account?_eq_some found
  have funds := bears.funds row stored
  have positive := bears.positive movement List.mem_cons_self
  have later := Movement.outgoing_nonneg bears.positive_rest movement.source
  rw [its, Movement.outgoing_cons, only_self] at funds
  exact funds (by omega)

/-- The target of the first movement has room for it, and for what follows. -/
theorem holds {row : AccountRow} (found : rows.account? movement.target = some row) :
    row.balance + (movement.amount + incoming rest movement.target) ≤ 9223372036854775807 := by
  obtain ⟨stored, its⟩ := account?_eq_some found
  have room := bears.room row stored
  rw [its, Movement.incoming_cons, only_self] at room
  exact room

/-- The first movement keeps both balances within their range, whichever is changed first. -/
theorem fits (typed : rows.Typed) : movement.Fits rows := by
  have positive := bears.positive movement List.mem_cons_self
  refine Movement.fits_of_room (fun row found => ?_) (fun row found => ?_)
  · have covered := bears.covers found
    have later := Movement.outgoing_nonneg bears.positive_rest movement.source
    have room := bears.room row (account?_eq_some found).1
    have comes := Movement.incoming_nonneg bears.positive row.id
    have given := only_bounds (Int.le_of_lt positive) movement.target movement.source
    rw [Text.IntegerRange.int64_contains, Movement.change_eq, only_self]
    omega
  · have room := bears.holds found
    have comes := Movement.incoming_nonneg bears.positive_rest movement.target
    have least := (typed row (account?_eq_some found).1).1
    rw [Text.IntegerRange.int64_contains]
    omega

/-- What is left to be moved is borne after the first movement is settled. -/
theorem settled {now : Instant} {before after : Books} {settlement : Settlement}
    (same : before.rows = rows) (settles : movement.Settles now before settlement after) :
    after.rows.Bears rest := by
  have positive := bears.positive movement List.mem_cons_self
  have there : ∀ {id : Int}, rows.HasAccount id → after.rows.HasAccount id := fun here => by
    refine here.of_map_eq ?_
    rw [settles.books, ← same]
    exact List.map_map
  refine ⟨bears.positive_rest,
    fun other member => there (bears.hasSource other (List.mem_cons_of_mem _ member)),
    fun other member => there (bears.hasTarget other (List.mem_cons_of_mem _ member)), ?_, ?_⟩
  all_goals
    rw [settles.books]
    intro account member
    obtain ⟨row, stored, rfl⟩ := List.mem_map.mp member
    rw [same] at stored
    have given := only_bounds (Int.le_of_lt positive) movement.target row.id
    have taken := only_bounds (Int.le_of_lt positive) movement.source row.id
    have change := movement.change_eq row.id
  · have funds := bears.funds row stored
    rw [Movement.outgoing_cons] at funds
    intro goes
    have goes : 0 < outgoing rest row.id := goes
    show outgoing rest row.id ≤ row.balance + movement.change row.id
    omega
  · have room := bears.room row stored
    rw [Movement.incoming_cons] at room
    show row.balance + movement.change row.id + incoming rest row.id ≤ 9223372036854775807
    omega

end Bears

/-- A transfer that is settled takes no balance below its range, and no currency away. -/
theorem Typed.settled {now : Instant} {before after : Books} {settlement : Settlement}
    (typed : before.rows.Typed) (sound : before.Sound)
    (settles : movement.Settles now before settlement after) : after.rows.Typed := by
  rw [settles.books]
  intro account member
  obtain ⟨row, stored, rfl⟩ := List.mem_map.mp member
  obtain ⟨least, readable⟩ := typed row stored
  have floor := settles.floor sound stored
  refine ⟨?_, readable⟩
  show -9223372036854775808 ≤ row.balance + movement.change row.id
  omega

end Ledger.Tables

/-! ### Transfers one after another -/

/-- Rows after movements that were all settled. -/
def Ledger.Tables.settledAll (rows : Tables) (movements : List Movement)
    (settlements : List Settlement) : Tables :=
  { rows.adjusted (Movement.net movements) with
    transfers := rows.transfers ++ settlements.map (·.transfer)
    entries := rows.entries ++ settlements.flatMap fun settlement =>
      [settlement.debit, settlement.credit] }

theorem Ledger.Tables.settledAll_nil (rows : Tables) : rows.settledAll [] [] = rows := by
  have nothing : rows.adjusted (Movement.net []) = rows := by
    have same : (fun row : AccountRow => added row (Movement.net [] row.id)) = id :=
      funext fun row => added_zero row
    rw [adjusted, same, List.map_id]
  unfold settledAll
  rw [nothing]
  simp

theorem Ledger.Tables.settledAll_cons {now : Instant} {before after : Books} {movement : Movement}
    {settlement : Settlement} (settles : movement.Settles now before settlement after)
    (rest : List Movement) (settlements : List Settlement) :
    after.rows.settledAll rest settlements =
      before.rows.settledAll (movement :: rest) (settlement :: settlements) := by
  have adjusts : (before.rows.adjusted movement.change).adjusted (Movement.net rest) =
      before.rows.adjusted (Movement.net (movement :: rest)) := by
    rw [adjusted_adjusted, Movement.net_cons]
  unfold settledAll
  rw [← adjusts, settles.books]
  simp [Movement.settled, settles.debit, settles.credit, settles.transfer, adjusted]

namespace Ledger.Calm

variable {ledger : Ledger} {movement : Movement} {order rest : List Movement}

/-- **One transfer** that a calm ledger bears is settled. -/
theorem settles_of_bears (calm : ledger.Calm) (sound : ledger.books.Sound)
    (typed : ledger.rows.Typed) (bears : ledger.rows.Bears (movement :: rest)) :
    ∃ settlement after, ledger.transfer movement = (.ok settlement, after) ∧
      movement.Settles ledger.clock ledger.books settlement after.books ∧
      after.Calm ∧ after.books.Sound := by
  have positive := bears.positive movement List.mem_cons_self
  have settled : ∃ settlement, (ledger.transfer movement).1 = .ok settlement := by
    rcases calm.transfer_cases sound positive (bears.hasSource movement List.mem_cons_self)
      (bears.hasTarget movement List.mem_cons_self) with settled | ⟨error, _, misses⟩
    · exact settled
    · cases misses with
      | overdrawn found short =>
        have covered := bears.covers found
        have later := Movement.outgoing_nonneg bears.positive_rest movement.source
        have given := Tables.only_bounds (Int.le_of_lt positive) movement.target movement.source
        rw [Movement.change_eq, Tables.only_self] at short
        omega
      | outOfRange wide => exact absurd (bears.fits typed) wide
      | unreadable _ found unread =>
        exact absurd unread (typed _ (Tables.account?_eq_some found).1).2.load_ne_error
  obtain ⟨settlement, succeeds⟩ := settled
  obtain ⟨settles, executes⟩ := settles_of_transfer sound succeeds
  exact ⟨settlement, _, Prod.ext succeeds rfl, settles, calm.transfer movement,
    sound.executes executes⟩

/-- **Transfers that a calm ledger bears** are all settled, one after another. -/
theorem transferAll_of_bears (calm : ledger.Calm) (sound : ledger.books.Sound)
    (typed : ledger.rows.Typed) (bears : ledger.rows.Bears order) :
    ∃ settlements, (ledger.transferAll order).1 = settlements.map .ok ∧
      List.Forall₂ Movement.Yields order settlements ∧
      (ledger.transferAll order).2.rows = ledger.rows.settledAll order settlements := by
  induction order generalizing ledger with
  | nil => exact ⟨[], rfl, .nil, ledger.rows.settledAll_nil.symm⟩
  | cons movement rest ih =>
    obtain ⟨settlement, after, met, settles, afterCalm, afterSound⟩ :=
      calm.settles_of_bears sound typed bears
    obtain ⟨settlements, outcomes, yields, rows⟩ :=
      ih afterCalm afterSound (Tables.Typed.settled typed sound settles) (bears.settled rfl settles)
    refine ⟨settlement :: settlements, ?_, .cons settles.yields yields, ?_⟩
    · rw [transferAll, met]
      show _ :: (after.transferAll rest).1 = _
      rw [outcomes]
      rfl
    · rw [transferAll, met]
      show (after.transferAll rest).2.rows = _
      rw [rows]
      exact Tables.settledAll_cons settles rest settlements

end Ledger.Calm

/-! ### Runs -/

/-- A call whose values are of the types of their columns: an account is opened with a balance in
range and in a known currency. -/
def Call.Typed : Call → Prop
  | .query (.insertAccount _ balance currency) =>
    Text.IntegerRange.int64.contains balance = true ∧ ∃ held : Currency, held.code = currency
  | _ => True

/-- An account that an operation of a run opens has a balance in range and a known currency. -/
theorem typed_of_permitted {owner currency : String} {balance : Int}
    (permitted : (Call.query (.insertAccount owner balance currency)).Permitted Call.Typed) :
    Text.IntegerRange.int64.contains balance = true ∧ ∃ held : Currency, held.code = currency := by
  rcases permitted with typed | ⟨rfl, known⟩ | ⟨rfl, _, _, _, held, _, code⟩
  · exact typed
  · exact ⟨by decide, known⟩
  · exact ⟨by decide, held, code⟩

/-- Rows stay typed. -/
def Ledger.Tables.typed : Invariant Call.Typed where
  holds _ books := books.rows.Typed
  empty := fun _ member => by cases member
  hear typed _ := typed
  apply permitted _ typed executed := by
    cases Books.effect_of_execute executed with
    | read _ | userStored _ _ | userMissed _ | userChanged _ _ | balanceMissed _
    | transferStored _ _ _ | entryStored _ _ _ => exact typed
    | accountOpened _ _ =>
      obtain ⟨inRange, known⟩ := typed_of_permitted permitted
      rw [Text.IntegerRange.int64_contains] at inRange
      exact Ledger.forall_mem_snoc typed ⟨inRange.1, known⟩
    | balanceChanged found inRange =>
      intro account member
      rcases Ledger.mem_put member with rfl | ⟨before, _⟩
      · rw [Text.IntegerRange.int64_contains] at inRange
        exact ⟨inRange.1, (typed _ (Tables.account?_eq_some found).1).2⟩
      · exact typed account before
  move _ sound typed settles _ _ := Tables.Typed.settled typed sound settles

variable {past : List Ledger.Exchange} {ledger : Ledger}

/-- **Transfers in any order.** In every state that a run leads to, with the database at hand:
several transfers whose sources cover all that goes out of them, and whose targets have room for all
that comes into them, are all settled in every order. Each result is balanced, each balance is what
it was, less what went out and plus what came in, and one transfer with two entries is stored for
each. -/
theorem transfers_in_any_order (reachable : Reachable Call.Typed past ledger)
    (granted : ledger.access = .granted) (faultless : ledger.faults = [])
    {movements : List Movement} (bears : ledger.rows.Bears movements) :
    ∀ order : List Movement, order.Perm movements → ∃ settlements,
      (ledger.transferAll order).1 = settlements.map .ok ∧
      List.Forall₂ Movement.Yields order settlements ∧
      (ledger.transferAll order).2.rows.users = ledger.rows.users ∧
      (ledger.transferAll order).2.rows.accounts = ledger.rows.accounts.map (fun account =>
        { account with balance := account.balance - Movement.outgoing movements account.id +
            Movement.incoming movements account.id }) ∧
      (ledger.transferAll order).2.rows.transfers =
        ledger.rows.transfers ++ settlements.map (·.transfer) ∧
      (ledger.transferAll order).2.rows.entries =
        ledger.rows.entries ++ settlements.flatMap fun settlement =>
          [settlement.debit, settlement.credit] := by
  intro order same
  have kept := Tables.typed.of_reachable reachable
  have borne := bears.perm same
  have settled : ∃ settlements, (ledger.transferAll order).1 = settlements.map .ok ∧
      List.Forall₂ Movement.Yields order settlements ∧
      (ledger.transferAll order).2.rows = ledger.rows.settledAll order settlements := by
    cases order with
    | nil => exact ⟨[], rfl, .nil, ledger.rows.settledAll_nil.symm⟩
    | cons movement rest =>
      have laid := Ledger.laid_of_hasAccount (borne.hasSource movement List.mem_cons_self)
      have calm : ledger.Calm := ⟨granted, faultless, laid⟩
      exact calm.transferAll_of_bears kept.sound kept.holds borne
  obtain ⟨settlements, outcomes, yields, rows⟩ := settled
  refine ⟨settlements, outcomes, yields, ?_, ?_, ?_, ?_⟩ <;> rw [rows]
  · rfl
  · show ledger.rows.accounts.map (fun row => Tables.added row (Movement.net order row.id)) = _
    rw [Movement.net_perm same]
    refine List.map_congr_left fun account _ => ?_
    have balance : account.balance + Movement.net movements account.id = account.balance -
        Movement.outgoing movements account.id + Movement.incoming movements account.id := by
      rw [Movement.net]
      omega
    rw [Tables.added, balance]
  · rfl
  · rfl

/-- The demonstration data. -/
def demonstration : Ledger :=
  Operation.seed.run .fresh

/-- Movements that leave nothing in two accounts but what came in meanwhile. -/
def crossing : List Movement :=
  [⟨1, 4, 70⟩, ⟨4, 1, 100⟩, ⟨1, 1, 30⟩]

theorem bears_crossing : demonstration.rows.Bears crossing where
  positive := by decide
  hasSource := by
    unfold Tables.HasAccount
    decide
  hasTarget := by
    unfold Tables.HasAccount
    decide
  funds := by decide
  room := by decide

/-- In the opposite order the movements come to the same. -/
theorem transfers_in_any_order_crossing :
    crossing.reverse.Perm crossing ∧
      (demonstration.transferAll crossing.reverse).2.rows.accounts.map (·.balance) =
        [130, 100, 100, 70, 100, 100] := by
  have reachable : Reachable Call.Typed _ demonstration := .step .seed .fresh trivial
  have reversed : crossing.reverse.Perm crossing := crossing.reverse_perm
  obtain ⟨_, _, _, _, accounts, _⟩ :=
    transfers_in_any_order reachable rfl rfl bears_crossing crossing.reverse reversed
  refine ⟨reversed, ?_⟩
  rw [accounts]
  decide

end Passbook
