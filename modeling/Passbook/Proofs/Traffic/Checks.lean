/-
**What a payment checks stays true.**

A payment looks at its two accounts before it asks for the transfer, and anything may happen in
between. But accounts are never removed, and none ever changes its owner or its currency.

* `Tables.Persists before after` — the accounts of before are there afterwards.
* `TransferOrder.Cleared policy order rows` — the order breaks no rule, and both of its accounts are
  there and held in its currency.
* `Paying` — how far a payment has come, and what it has found so far; **`Paying.turn`** is one call
  of it.
* `Deal.Founded` — a deal that was cleared; it does not fail for want of its accounts
  (`accounts_of_error`).
* `Traffic.Fair` — all payments stand so, every deal was cleared, and every transfer comes from a
  deal.
* **`Traffic.Fair.step`** — one move leaves traffic fair; so it stays in any order of moves
  (`Fair.of_interleaved`).
-/

import Passbook.Proofs.Traffic.Clients

namespace Passbook

open Ledger (Query Books Tables AccountRow Exchange)
open Time (Instant)

/-! ### Accounts stay -/

namespace Ledger.Tables

/-- Number, owner and currency of each account. -/
def identities (tables : Tables) : List (Int × String × String) :=
  tables.accounts.map fun row => (row.id, row.owner, row.currency)

/-- The accounts of before are there afterwards, whatever they hold. -/
def Persists (before after : Tables) : Prop :=
  before.identities <+: after.identities

theorem Persists.of_identities {before after : Tables}
    (same : after.identities = before.identities) : before.Persists after :=
  ⟨[], by rw [List.append_nil, same]⟩

theorem Persists.refl (tables : Tables) : tables.Persists tables :=
  .of_identities rfl

theorem Persists.trans {first second third : Tables} (before : first.Persists second)
    (after : second.Persists third) : first.Persists third :=
  List.IsPrefix.trans before after

theorem Holds.persists {before after : Tables} {id : Int} {code : String}
    (holds : before.Holds id code) (persists : before.Persists after) : after.Holds id code := by
  obtain ⟨account, member, rfl, rfl⟩ := holds
  have known := persists.subset (List.mem_map_of_mem member)
  obtain ⟨later, inside, same⟩ := List.mem_map.mp known
  rw [Prod.mk.injEq, Prod.mk.injEq] at same
  exact ⟨later, inside, same.1, same.2.2⟩

end Ledger.Tables

section Steps

variable {now : Instant} {before after : Books}

theorem persists_of_execute {query : Query} {answer : query.Answer} (leaves : ¬ query.AddsBalance)
    (executed : before.execute now query = .ok (answer, after)) :
    before.rows.Persists after.rows := by
  rcases accounts_of_execute leaves executed with same | ⟨account, _, _, _, grown⟩
  · exact .of_identities (congrArg (List.map _) same)
  · refine ⟨[(account.id, account.owner, account.currency)], ?_⟩
    rw [Tables.identities, Tables.identities, grown, List.map_append]
    rfl

theorem Movement.Settles.persists {movement : Movement} {settlement : Settlement}
    (settles : movement.Settles now before settlement after) : before.rows.Persists after.rows := by
  refine .of_identities ?_
  rw [settles.books, Tables.identities, Tables.identities]
  exact List.map_map

end Steps

/-- The accounts of a start stay. -/
def Ledger.Tables.persisting (start : Tables) : Preserved Call.LeavesMoney where
  holds _ books := start.Persists books.rows
  hear persists _ := persists
  apply leaves _ persists executed :=
    persists.trans (persists_of_execute (fun adds => leaves adds.movesMoney) executed)
  move _ _ persists settles _ _ := persists.trans settles.persists

/-- Calls that move no money leave the transfers of a start. -/
def Ledger.Tables.leavingTransfers (start : Tables) : Preserved Call.Still where
  holds _ books := books.rows.transfers = start.transfers
  hear same _ := same
  apply still _ same executed := by
    cases Books.effect_of_execute executed with
    | read _ | userStored _ _ | userMissed _ | userChanged _ _ | accountOpened _ _
    | balanceMissed _ => exact same
    | balanceChanged _ _ | transferStored _ _ _ | entryStored _ _ _ => exact absurd trivial still
  move still := still.elim

/-! ### Orders -/

namespace TransferOrder

variable {policy : SelfTransferPolicy} {order : TransferOrder}

/-- The order breaks no rule, and both of its accounts are there and held in its currency. -/
structure Cleared (policy : SelfTransferPolicy) (order : TransferOrder) (rows : Tables) :
    Prop where
  valid : ∃ checked, order.validate policy = .ok checked
  source : rows.Holds order.source order.currency
  target : rows.Holds order.target order.currency

theorem Cleared.permitted {rows : Tables} (cleared : order.Cleared policy rows) :
    policy.permits order.source order.target = true := by
  obtain ⟨⟨amount, currency⟩, valid⟩ := cleared.valid
  exact (of_validate valid).2.2

end TransferOrder

/-! ### Payments on their way -/

section Paying

open Service (payFrom payTo vet holds_of_vet accountIn_bind_run)

variable {policy : SelfTransferPolicy} {order : TransferOrder} {rows later : Tables}

/-- What is left of a payment, and what it has found of its accounts. -/
inductive Paying (policy : SelfTransferPolicy) (order : TransferOrder) (rows : Tables) :
    Script Call Call.Reply (Except ServiceError Settlement) → Prop
  | ended (result : Except ServiceError Settlement) : Paying policy order rows (.done result)
  | begun {amount : Amount} {currency : Currency}
    (valid : order.validate policy = .ok (amount, currency)) :
    Paying policy order rows (payFrom currency order.movement).run
  | halfway {amount : Amount} {currency : Currency}
    (valid : order.validate policy = .ok (amount, currency))
    (source : rows.Holds order.source order.currency) :
    Paying policy order rows (payTo currency order.movement).run
  | cleared (cleared : order.Cleared policy rows) :
    Paying policy order rows (Dialogue.transfer order.movement).run

theorem Paying.pay (policy : SelfTransferPolicy) (order : TransferOrder) (rows : Tables) :
    Paying policy order rows (Service.pay policy order).run := by
  rcases Service.pay_run policy order with ⟨problem, _, ends⟩ | ⟨amount, currency, valid, goes⟩
  · rw [ends]
    exact .ended _
  · rw [goes, (TransferOrder.of_validate valid).1]
    exact .begun valid

/-- What was found stays true while accounts stay. -/
theorem Paying.persists {rest : Script Call Call.Reply (Except ServiceError Settlement)}
    (paying : Paying policy order rows rest) (persists : rows.Persists later) :
    Paying policy order later rest := by
  cases paying with
  | ended result => exact .ended result
  | begun valid => exact .begun valid
  | halfway valid source => exact .halfway valid (source.persists persists)
  | cleared cleared =>
    exact .cleared ⟨cleared.valid, cleared.source.persists persists,
      cleared.target.persists persists⟩

variable {ledger : Ledger}

/-- A payment goes on from a lookup only where the account is there and held in the currency. -/
theorem Paying.lookup {currency : Currency} {id : Int} {rest : Dialogue Settlement} {call : Call}
    {next : call.Reply → Script Call Call.Reply (Except ServiceError Settlement)}
    (goes : (Service.accountIn currency id >>= fun _ => rest).run = .ask call next)
    (later : ledger.rows.Holds id currency.code → Paying policy order ledger.rows rest.run) :
    Paying policy order ledger.rows (next (ledger.answer call).1) ∧
      call = .query (.findAccount id) := by
  rw [accountIn_bind_run] at goes
  cases goes
  refine ⟨?_, rfl⟩
  dsimp only [Ledger.answer]
  cases admits : vet currency id (ledger.query (.findAccount id)).1 with
  | error error => exact .ended _
  | ok account => exact later (holds_of_vet admits)

/-- **One call of a payment** is a lookup, or the transfer of an order that is cleared. -/
theorem Paying.turn {call : Call}
    {next : call.Reply → Script Call Call.Reply (Except ServiceError Settlement)}
    (paying : Paying policy order ledger.rows (.ask call next)) :
    Paying policy order ledger.rows (next (ledger.answer call).1) ∧
      ((∃ id, call = .query (.findAccount id)) ∨
        call = .transfer order.movement ∧ order.Cleared policy ledger.rows) := by
  generalize goes : Script.ask call next = rest at paying
  cases paying with
  | ended result => cases goes
  | begun valid =>
    have code := (TransferOrder.of_validate valid).2.1
    obtain ⟨stays, looks⟩ := Paying.lookup goes.symm fun source => .halfway valid (code ▸ source)
    exact ⟨stays, .inl ⟨_, looks⟩⟩
  | halfway valid source =>
    have code := (TransferOrder.of_validate valid).2.1
    obtain ⟨stays, looks⟩ := Paying.lookup goes.symm fun target =>
      .cleared ⟨⟨_, valid⟩, source, code ▸ target⟩
    exact ⟨stays, .inl ⟨_, looks⟩⟩
  | cleared cleared =>
    cases goes
    exact ⟨.ended _, .inr ⟨rfl, cleared⟩⟩

end Paying

/-! ### Deals -/

/-- Trouble says nothing of references, unless a fault does. -/
theorem Ledger.Trouble.not_foreignKey {ledger : Ledger} {error : DatabaseError}
    (trouble : ledger.Trouble error)
    (spared : ∀ fault ∈ ledger.faults, fault.failure.error.code? ≠ some "23503") :
    (error.code? == some "23503") = false := by
  rcases trouble with refused | ⟨fault, waiting, rfl⟩
  · cases access : ledger.access with
    | granted =>
      rw [access] at refused
      cases refused
    | closed | unreachable =>
      rw [access] at refused
      cases refused
      rfl
  · exact beq_false_of_ne (spared fault waiting)

namespace Movement.Misses

variable {movement : Movement} {rows : Tables} {miss : StoreError}
  (misses : movement.Misses rows miss)

include misses

theorem not_accountNotFound : ∀ id, miss.origin ≠ .accountNotFound id := by
  cases misses with
  | overdrawn _ _ | outOfRange _ | unreadable _ _ _ => exact fun _ => StoreError.noConfusion

theorem not_foreignKey : (miss.code? == some "23503") = false := by
  cases misses with
  | overdrawn _ _ => rfl
  | outOfRange _ => decide
  | unreadable _ _ unread =>
    rw [(AccountRow.load_eq_error.mp unread).2]
    rfl

end Movement.Misses

/-- A deal that a payment was cleared for. -/
structure Deal.Founded (deal : Deal) : Prop where
  sound : deal.ledger.books.Sound
  movement : deal.movement = deal.order.movement
  cleared : deal.order.Cleared deal.policy deal.ledger.rows

namespace Deal.Founded

variable {deal : Deal} (founded : deal.Founded)

include founded

/-- A deal that succeeds stores the transfer of its order. -/
theorem transfer_of_ok {settlement : Settlement} (succeeds : deal.outcome = .ok settlement) :
    settlement.transfer.source = deal.order.source ∧
      settlement.transfer.target = deal.order.target ∧
      settlement.transfer.amount = deal.order.amount := by
  have settles := (Ledger.settles_of_transfer founded.sound succeeds).1
  rw [settles.transfer, founded.movement]
  exact ⟨rfl, rfl, rfl⟩

/-- **A deal does not fail for want of its accounts**: the failure is no missing account, and no
reference to a row that is not there, unless a fault says so. -/
theorem accounts_of_error {error : StoreError} (fails : deal.outcome = .error error) :
    (∀ id, error.origin ≠ .accountNotFound id) ∧
      ((∀ fault ∈ deal.ledger.faults, fault.failure.error.code? ≠ some "23503") →
        error.isForeignKeyViolation = false) := by
  have hasSource : deal.ledger.rows.HasAccount deal.movement.source := by
    rw [founded.movement]
    exact founded.cleared.source.hasAccount
  have hasTarget : deal.ledger.rows.HasAccount deal.movement.target := by
    rw [founded.movement]
    exact founded.cleared.target.hasAccount
  rcases Ledger.origin_of_transfer founded.sound hasSource hasTarget fails with
    rfl | ⟨trouble, why, origin⟩ | ⟨miss, why, origin⟩
  · exact ⟨fun _ => StoreError.noConfusion, fun _ => rfl⟩
  · refine ⟨fun id => origin ▸ StoreError.noConfusion, fun spared => ?_⟩
    rw [StoreError.isForeignKeyViolation, ← error.code?_origin, origin]
    exact why.not_foreignKey spared
  · rw [StoreError.isForeignKeyViolation, ← error.code?_origin, origin, miss.code?_origin]
    exact ⟨why.not_accountNotFound, fun _ => why.not_foreignKey⟩

end Deal.Founded

/-! ### Fair traffic -/

/-- What is known of a client: a payment has looked at its accounts, and another moves no money. -/
def Client.Fair (rows : Tables) : Client → Prop
  | payer policy order rest => Paying policy order rows rest
  | other rest => rest.Asks Call.Still

namespace Client

variable {client : Client}

theorem Enters.fair (enters : client.Enters) (rows : Tables) : client.Fair rows := by
  cases client with
  | payer policy order rest =>
    rw [show rest = (Service.pay policy order).run from enters]
    exact .pay policy order rows
  | other rest => exact enters

theorem Fair.persists {rows later : Tables} (fair : client.Fair rows)
    (persists : rows.Persists later) : client.Fair later := by
  cases client with
  | payer policy order rest => exact Paying.persists fair persists
  | other rest => exact fair

/-- **One call of a client** moves no money, or is a transfer that is cleared and noted. -/
theorem Fair.turn {ledger : Ledger} (fair : client.Fair ledger.rows) {call : Call}
    (comes : client.call? = some call) :
    (client.resumed ledger).Fair ledger.rows ∧
      ((call.Still ∧ client.deals ledger = []) ∨
        ∃ policy order, call = .transfer order.movement ∧ order.Cleared policy ledger.rows ∧
          client.deals ledger = [⟨⟨order.movement, ledger⟩, policy, order⟩]) := by
  cases client with
  | other rest =>
    cases rest with
    | done result => cases comes
    | ask asked next =>
      cases comes
      exact ⟨fair.2 _, .inl ⟨fair.1, rfl⟩⟩
  | payer policy order rest =>
    cases rest with
    | done result => cases comes
    | ask asked next =>
      cases comes
      obtain ⟨goesOn, looks | ⟨asks, cleared⟩⟩ := Paying.turn fair
      · obtain ⟨id, rfl⟩ := looks
        exact ⟨goesOn, .inl ⟨not_false, rfl⟩⟩
      · subst asks
        exact ⟨goesOn, .inr ⟨policy, order, rfl, cleared, rfl⟩⟩

end Client

/-- **Fair traffic**: every payment has found what it goes by, every deal was cleared, and every
transfer comes from a deal. -/
structure Traffic.Fair (traffic : Traffic) : Prop where
  clients : ∀ client ∈ traffic.clients, client.Fair traffic.ledger.rows
  deals : ∀ deal ∈ traffic.deals,
    deal.Founded ∧ deal.ledger.rows.Persists traffic.ledger.rows
  transfers : ∀ transfer ∈ traffic.ledger.rows.transfers, ∃ deal ∈ traffic.deals,
    ∃ settlement, deal.outcome = .ok settlement ∧ settlement.transfer = transfer

namespace Traffic.Fair

variable {traffic : Traffic}

/-- Calls that move no money store no transfer. -/
theorem transfers_of_still {ledger : Ledger} (sound : ledger.books.Sound) {call : Call}
    (still : call.Still) : (ledger.answer call).2.rows.transfers = ledger.rows.transfers := by
  have start : (Tables.leavingTransfers ledger.rows).Kept [] ledger.books := ⟨sound, rfl⟩
  exact (start.call still).holds

/-- Every transfer that is stored by a transfer comes from it. -/
theorem transfer_of_answer {ledger : Ledger} (sound : ledger.books.Sound) (movement : Movement) :
    ∀ transfer ∈ (ledger.answer (.transfer movement)).2.rows.transfers,
      transfer ∈ ledger.rows.transfers ∨ ∃ settlement,
        (ledger.transfer movement).1 = .ok settlement ∧ settlement.transfer = transfer := by
  intro transfer member
  have member : transfer ∈ (ledger.transfer movement).2.rows.transfers := member
  rcases Ledger.transfer_cases movement sound with
    ⟨settlement, after, met, settles, _⟩ | ⟨error, after, met, same⟩
  · rw [met] at member ⊢
    have stored : transfer ∈ after.books.rows.transfers := member
    rw [settles.books] at stored
    rcases List.mem_append.mp stored with before | here
    · exact .inl before
    · exact .inr ⟨settlement, rfl, settles.transfer.trans (List.mem_singleton.mp here).symm⟩
  · rw [met, Ledger.rows, same] at member
    exact .inl member

/-- What comes of a call of a client is fair. -/
theorem answered (fair : traffic.Fair) (sound : traffic.ledger.books.Sound) {number : Nat}
    {client : Client} (member : client ∈ traffic.clients) {call : Call}
    (comes : client.call? = some call)
    (persists : traffic.ledger.rows.Persists (traffic.ledger.answer call).2.rows) :
    (traffic.answered number client call).Fair := by
  obtain ⟨resumed, kinds⟩ := (fair.clients client member).turn comes
  have clients : ∀ other ∈ traffic.clients.set number (client.resumed traffic.ledger),
      other.Fair (traffic.ledger.answer call).2.rows := by
    intro other inside
    rcases List.mem_or_eq_of_mem_set inside with before | rfl
    · exact (fair.clients other before).persists persists
    · exact resumed.persists persists
  have deals : ∀ deal ∈ traffic.deals,
      deal.Founded ∧ deal.ledger.rows.Persists (traffic.ledger.answer call).2.rows :=
    fun deal known => ⟨(fair.deals deal known).1, (fair.deals deal known).2.trans persists⟩
  rcases kinds with ⟨still, nothing⟩ | ⟨policy, order, rfl, cleared, noted⟩
  · have same := transfers_of_still sound still
    refine ⟨clients, ?_, ?_⟩
    · rw [Traffic.answered, nothing, List.append_nil]
      exact deals
    · simp only [Traffic.answered, nothing, List.append_nil, same]
      exact fair.transfers
  · refine ⟨clients, ?_, ?_⟩
    · rw [Traffic.answered, noted]
      exact List.forall_mem_append.mpr
        ⟨deals, List.forall_mem_singleton.mpr ⟨⟨sound, rfl, cleared⟩, persists⟩⟩
    · rw [Traffic.answered, noted]
      intro transfer stored
      rcases transfer_of_answer sound order.movement transfer stored with
        before | ⟨settlement, succeeds, its⟩
      · obtain ⟨deal, known, why⟩ := fair.transfers transfer before
        exact ⟨deal, List.mem_append_left _ known, why⟩
      · exact ⟨_, List.mem_append_right _ List.mem_cons_self, settlement, succeeds, its⟩

/-- **One move** leaves traffic fair. -/
theorem step (fair : traffic.Fair) (interleaved : Interleaved traffic) {move : Move}
    (proper : move.Proper) : (traffic.step move).Fair := by
  have sound := interleaved.reachable.sound
  have start : (Tables.persisting traffic.ledger.rows).Kept [] traffic.ledger.books :=
    ⟨sound, .refl _⟩
  obtain ⟨_, kept⟩ := interleaved.kept_step proper start
  have persists : traffic.ledger.rows.Persists (traffic.step move).ledger.rows := kept.holds
  cases move with
  | enter client =>
    exact ⟨List.forall_mem_append.mpr
      ⟨fair.clients, List.forall_mem_singleton.mpr (Client.Enters.fair proper _)⟩, fair.deals,
      fair.transfers⟩
  | turn number =>
    rcases traffic.turn_cases number with same | ⟨client, call, member, comes, answered⟩
    · rw [Traffic.step, same]
      exact fair
    · rw [Traffic.step, answered] at persists ⊢
      exact fair.answered sound member comes persists
  | aside operation =>
    have unmoved : (Tables.leavingTransfers traffic.ledger.rows).Kept [] traffic.ledger.books :=
      ⟨sound, rfl⟩
    have same : (operation.run traffic.ledger).rows.transfers = traffic.ledger.rows.transfers :=
      (unmoved.operation proper).holds
    refine ⟨fun client member => (fair.clients client member).persists persists,
      fun deal known => ⟨(fair.deals deal known).1, (fair.deals deal known).2.trans persists⟩, ?_⟩
    show ∀ transfer ∈ (operation.run traffic.ledger).rows.transfers, _
    rw [same]
    exact fair.transfers

theorem of_interleaved (interleaved : Interleaved traffic) : traffic.Fair := by
  have nothing : ∀ ledger : Ledger, ledger.rows.transfers = [] → (Traffic.start ledger).Fair := by
    intro ledger none_stored
    refine ⟨fun _ member => (by cases member), fun _ member => (by cases member), ?_⟩
    show ∀ transfer ∈ ledger.rows.transfers, _
    rw [none_stored]
    exact fun _ member => by cases member
  induction interleaved with
  | blank => exact nothing _ rfl
  | fresh => exact nothing _ rfl
  | step move interleaved proper ih => exact ih.step interleaved proper

end Traffic.Fair

end Passbook
