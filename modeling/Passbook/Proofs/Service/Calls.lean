/-
**What the service asks of the store.**

Whatever a caller sends, the service reaches the store only with valid users and profiles, opens
only empty accounts in known currencies, and moves only amounts within bounds.

* `Call.Served` — such a call; `Call.Queried` — one that is no transfer. Three of the handlers ask
  statements alone (`asks_register`, `asks_changeProfile`, `asks_openAccount`), and a payment asks
  for a transfer besides (`asks_pay`); the answer to every request asks such calls (`asks_respond`).
* `Call.Reads` — a statement that only reads; an action that shows something asks nothing else
  (`Action.Shows.asks`).
* `Query.Seeded` — a statement that stores demonstration data or reads; `asks_seedAll`.
-/

import Passbook.Http.Api
import Passbook.Proofs.Store.Settlement
import Passbook.Store.Seed

namespace Passbook

open Ledger (Query)

variable {α β : Type}

/-! ### Calls of the service -/

/-- A statement of the service: a valid user or profile, an empty account in a known currency, or a
reading. -/
def Ledger.Query.Served : Query → Prop
  | .insertUser user => user.validate = .ok ()
  | .updateUser change => change.patch.validate = .ok ()
  | .insertAccount _ balance currency => balance = 0 ∧ ∃ held : Currency, held.code = currency
  | .addBalance _ | .insertTransfer _ | .insertEntry _ => False
  | _ => True

/-- A call of the service: such a statement, or the transfer of an amount within bounds. -/
def Call.Served : Call → Prop
  | .query asked => asked.Served
  | .transfer movement => 0 < movement.amount ∧ movement.amount ≤ Amount.greatest

/-- A call of the service that is a statement on its own. -/
def Call.Queried : Call → Prop
  | .query asked => asked.Served
  | .transfer _ => False

theorem Call.Queried.served {call : Call} (queried : call.Queried) : call.Served := by
  cases call with
  | query asked => exact queried
  | transfer movement => exact queried.elim

/-- A statement on its own that only reads. -/
def Call.Reads : Call → Prop
  | .query asked => asked.isRead = true
  | .transfer _ => False

theorem Ledger.Query.served_of_isRead {query : Query} (reads : query.isRead = true) :
    query.Served := by
  cases query with
  | insertUser _ | updateUser _ | insertAccount _ _ _ | addBalance _ | insertTransfer _
  | insertEntry _ => cases reads
  | findUser _ | findAccount _ | listAccounts _ | findTransfer _ | listTransfers _ | findEntry _
  | listEntries _ | sumEntries _ => exact trivial

theorem Call.Reads.queried {call : Call} (reads : call.Reads) : call.Queried := by
  cases call with
  | query asked => exact Query.served_of_isRead reads
  | transfer movement => exact reads.elim

theorem Ledger.Query.Served.not_movesMoney {query : Query} (served : query.Served) :
    ¬ query.MovesMoney := by
  intro moves
  cases query with
  | addBalance _ | insertTransfer _ | insertEntry _ => exact served
  | insertUser _ | findUser _ | updateUser _ | insertAccount _ _ _ | findAccount _ | listAccounts _
  | findTransfer _ | listTransfers _ | findEntry _ | listEntries _ | sumEntries _ => exact moves

/-! ### Dialogues -/

namespace Dialogue

variable {kind : Call → Prop}

/-- The rest of a dialogue is asked only where what comes first succeeds. -/
theorem asks_ofExcept_bind {result : Except ServiceError α} {rest : α → Dialogue β}
    (later : ∀ value, result = .ok value → (rest value).run.Asks kind) :
    (ofExcept result >>= rest).run.Asks kind := by
  cases result with
  | error problem => exact trivial
  | ok value => exact later value rfl

theorem asks_throw (error : ServiceError) : (throw error : Dialogue α).run.Asks kind := trivial

theorem asks_pure (value : α) : (pure value : Dialogue α).run.Asks kind := trivial

theorem asks_outcome {work : Work α} (asks : work.run.Asks fun query => kind (.query query)) :
    (outcome work).run.Asks kind := by
  have same : ∀ query : Query, kind (.query query) → kind (Call.query query) := fun _ here => here
  exact Script.asks_bind (Script.asks_rephrase same asks) fun _ => trivial

theorem asks_store {work : Work α} (asks : work.run.Asks fun query => kind (.query query)) :
    (store work).run.Asks kind :=
  Script.asks_except_bind (asks_outcome asks) fun _ => trivial

end Dialogue

/-! ### Works of one statement -/

namespace Work

variable {kind : Query → Prop}

theorem asks_load (outcome : Except DatabaseError α) : (load outcome).run.Asks kind := trivial

theorem asks_findAccount {id : Int} (here : kind (.findAccount id)) :
    (findAccount id).run.Asks kind := by
  refine Script.asks_except_bind (asks_ask _ here) fun found => ?_
  cases found with
  | some row => exact Script.asks_except_map (asks_load _)
  | none => exact trivial

theorem asks_listAccounts {rows : AccountRows} (here : kind (.listAccounts rows)) :
    (listAccounts rows).run.Asks kind :=
  Script.asks_except_bind (asks_ask _ here) fun _ => asks_load _

theorem asks_createAccount {opening : AccountOpening}
    (here : kind (.insertAccount opening.owner opening.balance opening.currency.code)) :
    (createAccount opening).run.Asks kind :=
  Script.asks_except_bind (asks_ask _ here) fun _ => asks_load _

end Work

/-! ### Handlers -/

namespace Service

open Dialogue (asks_ofExcept_bind asks_throw asks_pure asks_outcome asks_store)

theorem asks_register (user : NewUser) : (register user).run.Asks Call.Queried := by
  refine asks_ofExcept_bind fun _ valid => ?_
  have asks : (Work.createUser user).run.Asks Query.Served :=
    Work.asks_ask _ (mapError_eq_ok.mp valid)
  refine Script.asks_except_bind (asks_outcome asks) fun outcome => ?_
  cases outcome with
  | ok stored => exact asks_pure stored
  | error error => exact Script.asks_ite (asks_throw _) (asks_throw _)

theorem asks_changeProfile (change : ProfileChange) :
    (changeProfile change).run.Asks Call.Queried := by
  refine asks_ofExcept_bind fun _ valid => ?_
  have asks : (Work.updateUser change).run.Asks Query.Served :=
    Work.asks_ask _ (mapError_eq_ok.mp valid)
  refine Script.asks_except_bind (asks_outcome asks) fun outcome => ?_
  cases outcome with
  | ok found =>
    cases found with
    | some user => exact asks_pure user
    | none => exact asks_throw _
  | error error => exact Script.asks_ite (asks_throw _) (asks_throw _)

theorem asks_openAccount (account : NewAccount) : (openAccount account).run.Asks Call.Queried := by
  refine asks_ofExcept_bind fun currency _ => ?_
  refine Script.asks_except_bind (asks_store (Work.asks_ask _ trivial)) fun found => ?_
  have asks : (Work.createAccount ⟨account.owner, 0, currency⟩).run.Asks Query.Served :=
    Work.asks_createAccount ⟨rfl, currency, rfl⟩
  refine Script.asks_ite (asks_throw _) ?_
  refine Script.asks_except_bind (asks_outcome asks) fun outcome => ?_
  cases outcome with
  | ok opened => exact asks_pure opened
  | error error =>
    refine Script.asks_ite (asks_throw _) ?_
    exact Script.asks_ite (asks_throw _) (asks_throw _)

theorem asks_accountIn (currency : Currency) (id : Int) :
    (accountIn currency id).run.Asks Call.Reads := by
  refine Script.asks_except_bind (asks_store (Work.asks_findAccount rfl)) fun found => ?_
  cases found with
  | none => exact asks_throw _
  | some account => exact Script.asks_ite (asks_pure _) (asks_throw _)

theorem asks_pay (policy : SelfTransferPolicy) (order : TransferOrder) :
    (pay policy order).run.Asks Call.Served := by
  have looks : ∀ currency id, (accountIn currency id).run.Asks Call.Served :=
    fun currency id =>
      Script.asks_mono (fun _ reads => reads.queried.served) (asks_accountIn currency id)
  refine asks_ofExcept_bind fun (amount, currency) _ => ?_
  refine Script.asks_except_bind (looks currency _) fun _ => ?_
  refine Script.asks_except_bind (looks currency _) fun _ => ?_
  exact ⟨⟨amount.positive, amount.le_greatest⟩, fun _ => trivial⟩

/-! ### Views -/

theorem asks_need {absent : ServiceError} {work : Work (Option α)}
    (asks : work.run.Asks fun query => query.isRead = true) :
    (need absent work).run.Asks Call.Reads := by
  refine Script.asks_except_bind (asks_store asks) fun found => ?_
  cases found with
  | some value => exact asks_pure value
  | none => exact asks_throw _

theorem asks_account (id : Int) : (account id).run.Asks Call.Reads :=
  asks_need (Work.asks_findAccount rfl)

theorem asks_accounts (listing : AccountListing) : (accounts listing).run.Asks Call.Reads :=
  asks_ofExcept_bind fun _ _ => asks_store (Work.asks_listAccounts rfl)

theorem asks_transfers (listing : TransferListing) : (transfers listing).run.Asks Call.Reads :=
  asks_ofExcept_bind fun _ _ => asks_store (Work.asks_ask _ rfl)

theorem asks_entries (id : Int) (page : Page) : (entries id page).run.Asks Call.Reads := by
  refine asks_ofExcept_bind fun _ _ => ?_
  refine Script.asks_except_bind (asks_account id) fun _ => ?_
  exact asks_store (Work.asks_ask _ rfl)

end Service

/-! ### Requests -/

namespace Http

open Dialogue (asks_ofExcept_bind asks_pure)
open Service

/-- An action that shows what there is. -/
def Action.Shows : Action → Prop
  | .register | .changeProfile _ | .openAccount | .pay => False
  | _ => True

/-- **An action that shows something only reads.** -/
theorem Action.Shows.asks {action : Action} (shown : action.Shows) (policy : SelfTransferPolicy)
    (request : Request) : (action.perform policy request).run.Asks Call.Reads := by
  cases action with
  | register | changeProfile _ | openAccount | pay => exact shown.elim
  | showUser segment =>
    refine asks_ofExcept_bind fun username _ => ?_
    exact Script.asks_except_bind (asks_need (Work.asks_ask _ rfl)) fun _ => asks_pure _
  | listAccounts =>
    refine asks_ofExcept_bind fun listing _ => ?_
    exact Script.asks_except_bind (asks_accounts listing) fun _ => asks_pure _
  | showAccount segment =>
    refine asks_ofExcept_bind fun id _ => ?_
    exact Script.asks_except_bind (asks_account id) fun _ => asks_pure _
  | listEntries segment =>
    refine asks_ofExcept_bind fun id _ => ?_
    refine asks_ofExcept_bind fun page _ => ?_
    exact Script.asks_except_bind (asks_entries id page) fun _ => asks_pure _
  | listTransfers =>
    refine asks_ofExcept_bind fun listing _ => ?_
    exact Script.asks_except_bind (asks_transfers listing) fun _ => asks_pure _
  | showTransfer segment =>
    refine asks_ofExcept_bind fun id _ => ?_
    exact Script.asks_except_bind (asks_need (Work.asks_ask _ rfl)) fun _ => asks_pure _
  | showEntry segment =>
    refine asks_ofExcept_bind fun id _ => ?_
    exact Script.asks_except_bind (asks_need (Work.asks_ask _ rfl)) fun _ => asks_pure _

/-- An action other than a payment asks statements alone. -/
theorem asks_perform_of_ne_pay (policy : SelfTransferPolicy) (request : Request) {action : Action}
    (other : action ≠ .pay) : (action.perform policy request).run.Asks Call.Queried := by
  have of_shown : action.Shows → (action.perform policy request).run.Asks Call.Queried :=
    fun shown => Script.asks_mono (fun _ => Call.Reads.queried) (shown.asks policy request)
  cases action with
  | register =>
    refine asks_ofExcept_bind fun user _ => ?_
    exact Script.asks_except_bind (asks_register user) fun _ => asks_pure _
  | changeProfile segment =>
    refine asks_ofExcept_bind fun username _ => ?_
    refine asks_ofExcept_bind fun patch _ => ?_
    exact Script.asks_except_bind (asks_changeProfile ⟨username, patch⟩) fun _ => asks_pure _
  | openAccount =>
    refine asks_ofExcept_bind fun account _ => ?_
    exact Script.asks_except_bind (asks_openAccount account) fun _ => asks_pure _
  | pay => exact absurd rfl other
  | showUser _ | listAccounts | showAccount _ | listEntries _ | listTransfers | showTransfer _
  | showEntry _ => exact of_shown trivial

theorem asks_perform (policy : SelfTransferPolicy) (request : Request) (action : Action) :
    (action.perform policy request).run.Asks Call.Served := by
  by_cases pays : action = .pay
  · subst pays
    refine asks_ofExcept_bind fun order _ => ?_
    exact Script.asks_except_bind (asks_pay policy order) fun _ => asks_pure _
  · exact Script.asks_mono (fun _ => Call.Queried.served)
      (asks_perform_of_ne_pay policy request pays)

/-- **The answer to a request asks only calls of the service.** -/
theorem asks_respond (policy : SelfTransferPolicy) (fresh : Uuid) (request : Request) :
    (Api.respond policy fresh request).Asks Call.Served := by
  refine Script.asks_bind ?_ fun _ => trivial
  unfold Api.bare
  cases Resource.ofPath? request.path with
  | none => exact trivial
  | some resource =>
    cases found : resource.action? request.method with
    | none =>
      simp only [found]
      exact trivial
    | some action =>
      simp only [found]
      exact Script.asks_bind (asks_perform policy request action) fun _ => trivial

end Http

/-! ### Demonstration data -/

/-- A statement of the seeding: a demonstration user, an account with the demonstration balance in
one of the user's currencies, or a reading. -/
def Ledger.Query.Seeded : Query → Prop
  | .insertUser user => ∃ demo ∈ Seed.demos, demo.user = user
  | .insertAccount owner balance currency =>
    balance = Seed.balance ∧ ∃ demo ∈ Seed.demos, demo.user.username = owner ∧
      ∃ held ∈ demo.currencies, held.code = currency
  | .updateUser _ | .addBalance _ | .insertTransfer _ | .insertEntry _ => False
  | _ => True

theorem Ledger.Query.Seeded.not_movesMoney {query : Query} (seeded : query.Seeded) :
    ¬ query.MovesMoney := by
  intro moves
  cases query with
  | addBalance _ | insertTransfer _ | insertEntry _ => exact seeded
  | insertUser _ | findUser _ | updateUser _ | insertAccount _ _ _ | findAccount _ | listAccounts _
  | findTransfer _ | listTransfers _ | findEntry _ | listEntries _ | sumEntries _ => exact moves

namespace Seed

/-- The statements that the seeding can come to make for a user are of the kind. -/
structure Demo.Asks (demo : Demo) (kind : Query → Prop) : Prop where
  finds : kind (.findUser demo.user.username)
  stores : kind (.insertUser demo.user)
  lists : kind (.listAccounts ⟨demo.user.username, ⟨Currency.all.length, 0⟩⟩)
  opens : ∀ currency ∈ demo.currencies,
    kind (.insertAccount demo.user.username balance currency.code)

theorem Demo.asks_seeded {demo : Demo} (member : demo ∈ demos) : demo.Asks Query.Seeded where
  finds := trivial
  stores := ⟨demo, member, rfl⟩
  lists := trivial
  opens currency held := ⟨rfl, demo, member, rfl, currency, held, rfl⟩

variable {kind : Query → Prop}

theorem asks_openMissing {owner : String} (existing : List Account) {currencies : List Currency}
    (opens : ∀ currency ∈ currencies, kind (.insertAccount owner balance currency.code)) :
    (openMissing owner existing currencies).run.Asks kind := by
  induction currencies with
  | nil => exact trivial
  | cons currency rest ih =>
    have later := ih fun other inside => opens other (List.mem_cons_of_mem _ inside)
    have here : (Work.createAccount ⟨owner, balance, currency⟩).run.Asks kind :=
      Work.asks_createAccount (opens currency List.mem_cons_self)
    refine Script.asks_ite later ?_
    exact Script.asks_except_bind here fun _ => Script.asks_except_bind later fun _ => trivial

theorem asks_seedDemo {demo : Demo} (asks : demo.Asks kind) : (seedDemo demo).run.Asks kind := by
  have lists := Work.asks_listAccounts asks.lists
  have opens := fun existing => asks_openMissing existing asks.opens
  refine Script.asks_except_bind (Work.asks_ask _ asks.finds) fun found => ?_
  refine Script.asks_ite ?_ ?_
  · refine Script.asks_except_bind (Work.asks_ask _ asks.stores) fun _ => ?_
    exact Script.asks_except_bind lists opens
  · exact Script.asks_except_bind lists opens

/-- **The seeding asks only its own statements.** -/
theorem asks_seedAll {list : List Demo} (each : ∀ demo ∈ list, demo.Asks kind) :
    (seedAll list).run.Asks kind := by
  induction list with
  | nil => exact trivial
  | cons demo rest ih =>
    have later := ih fun other member => each other (List.mem_cons_of_mem _ member)
    refine Script.asks_except_bind (asks_seedDemo (each demo List.mem_cons_self)) fun opened => ?_
    exact Script.asks_except_bind later fun _ => trivial

end Seed

end Passbook
