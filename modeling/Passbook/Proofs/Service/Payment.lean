/-
**How a payment proceeds.**

A payment checks its order, looks up the source, looks up the target, and asks for the transfer;
each of the last three is one call, and each step that goes wrong ends it.

* `Service.payFrom`, `Service.payTo` — what is left of a payment before each of the two lookups.
* `Service.vet` — what is made of the row that a lookup found; `accountIn_bind_run`,
  `serve_accountIn_bind`.
* **`Service.pay_of_calm`** — in a calm ledger whose accounts can be read, a payment whose changes
  of balance fit is answered, or declined with the status 400 or 404; `Http.status_of_pay`.
-/

import Passbook.Proofs.Service.Serving
import Passbook.Proofs.Store.Settling

namespace Passbook

open Ledger (Query Books Tables AccountRow)

variable {β : Type}

/-! ### Orders -/

namespace TransferOrder

/-- The movement that an order asks for. -/
def movement (order : TransferOrder) : Movement :=
  ⟨order.source, order.target, order.amount⟩

theorem of_validate {policy : SelfTransferPolicy} {order : TransferOrder} {amount : Amount}
    {currency : Currency} (valid : order.validate policy = .ok (amount, currency)) :
    amount.value = order.amount ∧ currency.code = order.currency ∧
      policy.permits order.source order.target = true := by
  unfold validate at valid
  cases sum : Amount.ofInt order.amount with
  | error problem =>
    simp only [sum] at valid
    cases valid
  | ok given =>
  cases known : Currency.ofCode order.currency with
  | error problem =>
    simp only [sum, known] at valid
    cases valid
  | ok held =>
  by_cases permitted : policy.permits order.source order.target = true
  · simp only [sum, known, if_pos permitted] at valid
    cases valid
    exact ⟨Amount.value_of_ofInt sum, Currency.code_of_ofCode known, permitted⟩
  · simp only [sum, known, if_neg permitted] at valid
    cases valid

end TransferOrder

namespace Service

/-! ### The steps of a payment -/

/-- What is left of a payment when its source is known. -/
def payTo (currency : Currency) (movement : Movement) : Dialogue Settlement := do
  let _ ← accountIn currency movement.target
  Dialogue.transfer movement

/-- What is left of a payment when its order is known to break no rule. -/
def payFrom (currency : Currency) (movement : Movement) : Dialogue Settlement := do
  let _ ← accountIn currency movement.source
  payTo currency movement

/-- A payment breaks a rule by itself, or it goes on to its accounts. -/
theorem pay_run (policy : SelfTransferPolicy) (order : TransferOrder) :
    (∃ problem, order.validate policy = .error problem ∧
      (pay policy order).run = .done (.error (.rule problem))) ∨
    ∃ amount currency, order.validate policy = .ok (amount, currency) ∧
      (pay policy order).run =
        (payFrom currency ⟨order.source, order.target, amount.value⟩).run := by
  cases valid : order.validate policy with
  | error problem =>
    refine .inl ⟨problem, rfl, ?_⟩
    rw [pay, valid]
    rfl
  | ok checked =>
    obtain ⟨amount, currency⟩ := checked
    refine .inr ⟨amount, currency, rfl, ?_⟩
    rw [pay, valid]
    rfl

/-! ### Lookups -/

/-- What a payment makes of the reply to a lookup. -/
def vet (currency : Currency) (id : Int) :
    Except DatabaseError (Option AccountRow) → Except ServiceError Account
  | .error error => .error (.store (.database error))
  | .ok none => .error (.accountNotFound id)
  | .ok (some row) =>
    match row.load with
    | .error error => .error (.store (.database error))
    | .ok account =>
      if account.currency = currency then .ok account
      else .error (.rule (.currencyMismatch id currency account.currency))

theorem choice_bind_run {condition : Prop} [Decidable condition] {account : Account}
    (error : ServiceError) (rest : Account → Dialogue β) :
    ((if condition then pure account else throw error : Dialogue Account) >>= rest).run =
      match (if condition then .ok account else .error error : Except ServiceError Account) with
      | .ok account => (rest account).run
      | .error error => .done (.error error) := by
  by_cases holds : condition
  · rw [if_pos holds, if_pos holds]
    rfl
  · rw [if_neg holds, if_neg holds]
    rfl

/-- A lookup is one question, and what follows is asked only of an account that is admitted. -/
theorem accountIn_bind_run (currency : Currency) (id : Int) (rest : Account → Dialogue β) :
    (accountIn currency id >>= rest).run = .ask (.query (.findAccount id)) fun reply =>
      match vet currency id reply with
      | .ok account => (rest account).run
      | .error error => .done (.error error) := by
  refine congrArg (Script.ask (Call.query (.findAccount id))) (funext fun reply => ?_)
  rcases reply with error | found
  · rfl
  cases found with
  | none => rfl
  | some row =>
    -- the row is loaded within the work that was asked, and again by `vet`
    dsimp only [Script.done_bind, ExceptT.bindCont, Except.mapError, vet]
    cases row.load with
    | error problem => rfl
    | ok account => exact choice_bind_run _ rest

/-- An account that is admitted was found, and is held in the currency. -/
theorem found_of_vet {currency : Currency} {id : Int} {account : Account}
    {reply : Except DatabaseError (Option AccountRow)}
    (admits : vet currency id reply = .ok account) :
    reply = .ok (some account.toRow) ∧ account.currency = currency := by
  rcases reply with error | found
  · cases admits
  cases found with
  | none => cases admits
  | some row =>
    unfold vet at admits
    cases loads : row.load with
    | error problem =>
      simp only [loads] at admits
      cases admits
    | ok given =>
      simp only [loads] at admits
      by_cases held : given.currency = currency
      · rw [if_pos held] at admits
        cases admits
        exact ⟨by rw [AccountRow.load_eq_ok.mp loads], held⟩
      · rw [if_neg held] at admits
        cases admits

/-- A lookup that is answered finds what is stored. -/
theorem found_of_lookup {ledger : Ledger} {id : Int} {found : Option AccountRow}
    (answered : (ledger.query (.findAccount id)).1 = .ok found) :
    found = ledger.rows.account? id :=
  (congrArg Prod.fst (Except.ok.inj (Ledger.answering_of_query answered).books)).symm

/-- An account that a lookup admits is there, and is held in the currency. -/
theorem holds_of_vet {ledger : Ledger} {currency : Currency} {id : Int} {account : Account}
    (admits : vet currency id (ledger.query (.findAccount id)).1 = .ok account) :
    ledger.rows.Holds id currency.code := by
  obtain ⟨found, held⟩ := found_of_vet admits
  obtain ⟨member, its⟩ := Tables.account?_eq_some (found_of_lookup found).symm
  exact ⟨_, member, its, congrArg Currency.code held⟩

/-- A lookup is played, and what follows is played only with an account that is admitted. -/
theorem serve_accountIn_bind (ledger : Ledger) (currency : Currency) (id : Int)
    (rest : Account → Dialogue β) :
    (ledger.serve (accountIn currency id >>= rest)) =
      match vet currency id (ledger.query (.findAccount id)).1 with
      | .ok account => (ledger.query (.findAccount id)).2.serve (rest account)
      | .error error => (.error error, (ledger.query (.findAccount id)).2) := by
  rw [Ledger.serve, accountIn_bind_run, Script.run_ask]
  show Script.run Ledger.answer (match vet currency id (ledger.query (.findAccount id)).1 with
    | .ok account => (rest account).run
    | .error error => .done (.error error)) (ledger.query (.findAccount id)).2 = _
  cases vet currency id (ledger.query (.findAccount id)).1 with
  | error error => rfl
  | ok account => rfl

/-- The answers to a payment that is not carried out and not at fault. -/
def Declines (error : ServiceError) : Prop :=
  error.status = 400 ∨ error.status = 404

/-- A dialogue comes to an answer, or is declined. -/
def Answers (ledger : Ledger) (dialogue : Dialogue β) : Prop :=
  (∃ value, (ledger.serve dialogue).1 = .ok value) ∨
    ∃ error, (ledger.serve dialogue).1 = .error error ∧ Declines error

theorem declines_of_vet {currency : Currency} {id : Int} {found : Option AccountRow}
    {error : ServiceError}
    (readable : ∀ row, found = some row → row.Readable)
    (refuses : vet currency id (.ok found) = .error error) : Declines error := by
  cases found with
  | none =>
    cases refuses
    exact .inr rfl
  | some row =>
    obtain ⟨account, loads⟩ := (readable row rfl).load
    simp only [vet, loads] at refuses
    by_cases held : account.currency = currency
    · rw [if_pos held] at refuses
      cases refuses
    · rw [if_neg held] at refuses
      cases refuses
      exact .inl rfl

theorem declines_of_misses {movement : Movement} {rows : Tables} {error : StoreError}
    (readable : ∀ row ∈ rows.accounts, row.Readable)
    (fits : movement.Fits rows) (misses : movement.Misses rows error) :
    Declines (.store error) := by
  cases misses with
  | overdrawn found short => exact .inl rfl
  | outOfRange wide => exact absurd fits wide
  | unreadable _ found unread =>
    exact absurd unread (readable _ (Tables.account?_eq_some found).1).load_ne_error

/-! ### Payments in a calm ledger -/

section Calm

variable {ledger : Ledger} (calm : ledger.Calm)

include calm

/-- A lookup in a calm ledger finds what is stored. -/
theorem run_accountIn_bind (currency : Currency) (id : Int) (rest : Account → Dialogue β) :
    ∃ after : Ledger, after.Calm ∧ after.books = ledger.books ∧
      (ledger.serve (accountIn currency id >>= rest)).1 =
        match vet currency id (.ok (ledger.rows.account? id)) with
        | .ok account => (after.serve (rest account)).1
        | .error error => .error error := by
  have executed : ledger.books.execute ledger.clock (.findAccount id) =
      .ok (ledger.rows.account? id, ledger.books) := rfl
  obtain ⟨after, met, books, stays, _⟩ := calm.query_of_execute rfl executed
  refine ⟨after, stays, books, ?_⟩
  rw [serve_accountIn_bind, met]
  show (match vet currency id (.ok (ledger.rows.account? id)) with
    | .ok account => after.serve (rest account)
    | .error error => (.error error, after)).1 = _
  cases vet currency id (.ok (ledger.rows.account? id)) with
  | error error => rfl
  | ok account => rfl

/-- A lookup is declined, or what follows is asked where the account is there. -/
theorem answers_accountIn_bind (readable : ∀ row ∈ ledger.rows.accounts, row.Readable)
    (currency : Currency) (id : Int) {rest : Dialogue β}
    (later : ∀ after : Ledger, after.Calm → after.books = ledger.books →
      ledger.rows.HasAccount id → Answers after rest) :
    Answers ledger (accountIn currency id >>= fun _ => rest) := by
  obtain ⟨after, stays, books, gives⟩ := run_accountIn_bind calm currency id fun _ => rest
  unfold Answers
  rw [gives]
  cases vets : vet currency id (.ok (ledger.rows.account? id)) with
  | error error =>
    refine .inr ⟨error, rfl, declines_of_vet (fun row found => ?_) vets⟩
    exact readable row (Tables.account?_eq_some found).1
  | ok account =>
    have found : ledger.rows.account? id = some account.toRow :=
      Except.ok.inj (found_of_vet vets).1
    exact later after stays books ⟨_, Tables.account?_eq_some found⟩

variable (sound : ledger.books.Sound) (readable : ∀ row ∈ ledger.rows.accounts, row.Readable)

include sound readable

/-- A transfer between accounts that were looked up is settled or declined. -/
theorem transfer_of_calm {movement : Movement} (positive : 0 < movement.amount)
    (hasSource : ledger.rows.HasAccount movement.source)
    (hasTarget : ledger.rows.HasAccount movement.target) (fits : movement.Fits ledger.rows) :
    Answers ledger (Dialogue.transfer movement) := by
  show (∃ settlement, (ledger.transfer movement).1.mapError ServiceError.store = .ok settlement) ∨
    ∃ error, (ledger.transfer movement).1.mapError ServiceError.store = .error error ∧
      Declines error
  rcases calm.transfer_cases sound positive hasSource hasTarget with
    ⟨settlement, settled⟩ | ⟨error, fails, misses⟩
  · exact .inl ⟨settlement, by rw [settled]; rfl⟩
  · exact .inr ⟨.store error, by rw [fails]; rfl, declines_of_misses readable fits misses⟩

/-- **A payment in a calm ledger** is answered or declined. -/
theorem pay_of_calm (policy : SelfTransferPolicy) (order : TransferOrder)
    (fits : ∀ amount : Amount,
      (Movement.mk order.source order.target amount.value).Fits ledger.rows) :
    Answers ledger (pay policy order) := by
  rcases pay_run policy order with ⟨problem, _, ends⟩ | ⟨amount, currency, _, goes⟩
  · refine .inr ⟨.rule problem, ?_, .inl rfl⟩
    rw [Ledger.serve, ends, Script.run_done]
  unfold Answers
  rw [Ledger.serve, goes]
  refine answers_accountIn_bind calm readable currency order.source
    fun once onceCalm onceBooks hasSource => ?_
  have onceRows : once.rows = ledger.rows := congrArg Books.rows onceBooks
  refine answers_accountIn_bind onceCalm (onceRows ▸ readable) currency order.target
    fun twice twiceCalm twiceBooks hasTarget => ?_
  have books : twice.books = ledger.books := twiceBooks.trans onceBooks
  have rows : twice.rows = ledger.rows := congrArg Books.rows books
  rw [onceRows] at hasTarget
  exact transfer_of_calm twiceCalm (books ▸ sound) (rows ▸ readable) amount.positive
    (rows ▸ hasSource) (rows ▸ hasTarget) (rows ▸ fits amount)

end Calm

end Service

/-! ### Payments over HTTP -/

namespace Http

/-- A body that cannot be read makes the request invalid. -/
theorem Intake.status_of_body {α : Type} {reader : Json.Reader α} {request : Request}
    {error : ServiceError} (fails : Intake.body reader request = .error error) :
    error.status = 400 := by
  unfold Intake.body at fails
  by_cases json : (!Intake.isJson request) = true
  · rw [if_pos json] at fails
    cases fails
    rfl
  rw [if_neg json] at fails
  by_cases long : Intake.greatestBody < request.body.utf8ByteSize
  · rw [if_pos long] at fails
    cases fails
    rfl
  rw [if_neg long] at fails
  cases reads : reader.runFront request.body with
  | error problem =>
    rw [reads] at fails
    cases fails
    rfl
  | ok value =>
    rw [reads] at fails
    cases fails

/-- A payment over HTTP is the payment of the order that its body holds. -/
theorem serve_pay (policy : SelfTransferPolicy) (request : Request) (ledger : Ledger) :
    (ledger.serve (Action.pay.perform policy request)).1 =
      (Intake.body (TransferOrder.reader "TransferRequest") request).bind fun order =>
        (ledger.serve (Service.pay policy order)).1.map fun settlement =>
          (200, settlement.toJson) := by
  unfold Action.perform
  rw [Ledger.serve_ofExcept_bind]
  cases Intake.body (TransferOrder.reader "TransferRequest") request with
  | error error => rfl
  | ok order => exact congrArg Prod.fst (ledger.serve_bind_pure (Service.pay policy order) _)

/-- **The response to a payment** has the status 200, 400 or 404 where the payment is answered or
declined, whatever its order is. -/
theorem status_of_pay {policy : SelfTransferPolicy} (fresh : Uuid) {request : Request}
    {ledger : Ledger} (path : Resource.ofPath? request.path = some .transfers)
    (method : request.method = "POST")
    (ends : ∀ order, Service.Answers ledger (Service.pay policy order)) :
    (serve policy fresh request ledger).1.status = 200 ∨
      (serve policy fresh request ledger).1.status = 400 ∨
      (serve policy fresh request ledger).1.status = 404 := by
  have named : request.action? = some .pay := by
    rw [Request.action?, path, method]
    rfl
  rw [status_of_serve policy fresh ledger named, serve_pay]
  cases read : Intake.body (TransferOrder.reader "TransferRequest") request with
  | error error => exact .inr (.inl (Intake.status_of_body read))
  | ok order =>
    show (Response.ofOutcome ((ledger.serve (Service.pay policy order)).1.map _)).status = 200 ∨
      (Response.ofOutcome ((ledger.serve (Service.pay policy order)).1.map _)).status = 400 ∨
      (Response.ofOutcome ((ledger.serve (Service.pay policy order)).1.map _)).status = 404
    rcases ends order with ⟨settlement, pays⟩ | ⟨error, fails, declines⟩
    · rw [pays]
      exact .inl rfl
    · rw [fails]
      exact .inr declines

end Http

end Passbook
