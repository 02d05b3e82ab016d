/-
**Failures and readings leave no trace.**

* `Work.Spares quiet work`, `Dialogue.Traceless dialogue` — wherever the outcome of the work is
  quiet, or the dialogue ends with an error, the rows are as they were.
* `Ledger.rows_perform`, `rows_serve` — what only reads leaves the rows in any case.
* `Method.traceless`, `Command.traceless`, `Http.Action.traceless` — the methods of the store, the
  commands of the service and the actions of its interface.
* **`failure_traceless`** — the same for each of these, for the seeding, and for every request whose
  status is 400 or above or which only asks to be shown something.
-/

import Passbook.Proofs.Service.Calls
import Passbook.Proofs.Service.Serving

namespace Passbook

open Ledger (Query Books Tables)

variable {α β : Type}

/-! ### Readings -/

namespace Ledger

variable (ledger : Ledger)

theorem rows_query {query : Query} (reads : query.isRead = true) :
    (ledger.query query).2.rows = ledger.rows := by
  rcases ledger.query_cases query with
    ⟨error, after, met, failing⟩ | ⟨answer, after, met, answering⟩
  · rw [met, failing.rows]
  · rw [met]
    exact Tables.apply_of_isRead reads (Books.execute_eq_ok.mp answering.books).1

theorem rows_answer {call : Call} (reads : call.Reads) :
    (ledger.answer call).2.rows = ledger.rows := by
  cases call with
  | query query => exact ledger.rows_query reads
  | transfer movement => exact reads.elim

/-- A work that only reads leaves the rows, whatever its outcome. -/
theorem rows_perform {work : Work α} (reads : work.run.Asks fun query => query.isRead = true) :
    (ledger.perform work).2.rows = ledger.rows := by
  unfold perform
  generalize work.run = script at reads
  induction script generalizing ledger with
  | done result => rfl
  | ask query next ih => exact (ih _ _ (reads.2 _)).trans (ledger.rows_query reads.1)

/-- A dialogue that only reads leaves the rows, whatever it ends with. -/
theorem rows_serve {dialogue : Dialogue α} (reads : dialogue.run.Asks Call.Reads) :
    (ledger.serve dialogue).2.rows = ledger.rows := by
  unfold serve
  generalize dialogue.run = script at reads
  induction script generalizing ledger with
  | done result => rfl
  | ask call next ih => exact (ih _ _ (reads.2 _)).trans (ledger.rows_answer reads.1)

end Ledger

/-! ### Works -/

/-- An outcome that is a failure. -/
def Failed {ε : Type} (outcome : Except ε α) : Prop :=
  ∃ error, outcome = .error error

namespace Work

/-- Where the outcome of the work on its own is quiet, the rows are as they were. -/
def Spares (quiet : Except StoreError α → Prop) (work : Work α) : Prop :=
  ∀ ledger : Ledger, quiet (ledger.perform work).1 → (ledger.perform work).2.rows = ledger.rows

/-- A statement spares the rows when it fails, and where its answer tells that it found nothing to
change. -/
theorem spares_ask (query : Query) {quiet : Except StoreError query.Answer → Prop}
    (idle : ∀ {now answer} {before after : Books}, quiet (.ok answer) →
      before.execute now query = .ok (answer, after) → after.rows = before.rows) :
    (ask query).Spares quiet := by
  intro ledger silent
  have here : quiet ((ledger.query query).1.mapError StoreError.database) := silent
  show (ledger.query query).2.rows = ledger.rows
  rcases ledger.query_cases query with
    ⟨error, after, met, failing⟩ | ⟨answer, after, met, answering⟩
  · rw [met, failing.rows]
  · rw [met] at here ⊢
    exact idle here answering.books

theorem spares_createUser (user : NewUser) : (createUser user).Spares Failed :=
  spares_ask (.insertUser user) fun ⟨_, wrong⟩ => by cases wrong

/-- No user is changed unless one is answered. -/
theorem spares_updateUser (change : ProfileChange) :
    (updateUser change).Spares fun outcome => ∀ user, outcome ≠ .ok (some user) := by
  refine spares_ask (.updateUser change) fun {_ answer _ _} silent executed => ?_
  cases Books.effect_of_execute executed with
  | read _ | userMissed _ => rfl
  | userChanged _ _ => exact absurd rfl (silent _)

theorem perform_createAccount (opening : AccountOpening) (ledger : Ledger) :
    ledger.perform (createAccount opening) =
      (match (ledger.query (.insertAccount opening.owner opening.balance
          opening.currency.code)).1 with
        | .ok row => row.load.mapError .database
        | .error problem => .error (.database problem),
      (ledger.query (.insertAccount opening.owner opening.balance opening.currency.code)).2) := by
  show Script.run Ledger.query (Script.ask _ _) ledger = _
  rw [Script.run_ask]
  rcases ledger.query (.insertAccount opening.owner opening.balance opening.currency.code) with
    ⟨problem | row, after⟩
  · rfl
  · rfl

/-- An account that is opened can be loaded, since its currency is one of ours. -/
theorem spares_createAccount (opening : AccountOpening) :
    (createAccount opening).Spares Failed := by
  rintro ledger ⟨error, fails⟩
  rw [perform_createAccount] at fails ⊢
  rcases ledger.query_cases (.insertAccount opening.owner opening.balance opening.currency.code)
    with ⟨problem, after, met, failing⟩ | ⟨row, after, met, answering⟩
  · rw [met, failing.rows]
  · obtain ⟨_, _, rfl, _⟩ :=
      Tables.insertAccount_eq_ok.mp (Books.execute_eq_ok.mp answering.books).1
    have readable : Ledger.AccountRow.Readable ⟨ledger.books.serials.accounts + 1, opening.owner,
        opening.balance, opening.currency.code, ledger.clock⟩ := ⟨opening.currency, rfl⟩
    obtain ⟨account, loads⟩ := readable.load
    rw [met] at fails
    have gives := (congrArg (Except.mapError StoreError.database) loads).symm.trans fails
    cases gives

end Work

/-! ### Dialogues -/

namespace Dialogue

/-- Where the dialogue ends with an error, the rows are as they were. -/
def Traceless (dialogue : Dialogue α) : Prop :=
  ∀ (ledger : Ledger) error, (ledger.serve dialogue).1 = .error error →
    (ledger.serve dialogue).2.rows = ledger.rows

theorem traceless_of_reads {dialogue : Dialogue α} (reads : dialogue.run.Asks Call.Reads) :
    dialogue.Traceless :=
  fun ledger _ _ => ledger.rows_serve reads

theorem traceless_throw (error : ServiceError) : (throw error : Dialogue α).Traceless :=
  fun _ _ _ => rfl

theorem traceless_ite {condition : Prop} [Decidable condition] {first second : Dialogue α}
    (yes : first.Traceless) (no : second.Traceless) :
    (if condition then first else second).Traceless := by
  by_cases holds : condition
  · rw [if_pos holds]
    exact yes
  · rw [if_neg holds]
    exact no

theorem traceless_ofExcept_bind {result : Except ServiceError α} {rest : α → Dialogue β}
    (later : ∀ value, (rest value).Traceless) : (ofExcept result >>= rest).Traceless := by
  intro ledger error fails
  rw [ledger.serve_ofExcept_bind] at fails ⊢
  cases result with
  | error problem => rfl
  | ok value => exact later value ledger error fails

/-- After a part that only reads, it is the rest that counts. -/
theorem traceless_reads_bind {first : Dialogue α} {rest : α → Dialogue β}
    (reads : first.run.Asks Call.Reads) (later : ∀ value, (rest value).Traceless) :
    (first >>= rest).Traceless := by
  intro ledger error fails
  have same := ledger.rows_serve reads
  rw [ledger.serve_bind] at fails ⊢
  rcases played : ledger.serve first with ⟨problem | value, after⟩
  · rw [played] at same
    exact same
  · rw [played] at same fails
    exact (later value after error fails).trans same

/-- What is made of the value of a dialogue cannot fail any more. -/
theorem traceless_bind_pure {dialogue : Dialogue α} (traceless : dialogue.Traceless) (f : α → β) :
    (do return f (← dialogue) : Dialogue β).Traceless := by
  intro ledger error fails
  rw [ledger.serve_bind_pure] at fails ⊢
  rcases played : ledger.serve dialogue with ⟨problem | value, after⟩
  · have spared := traceless ledger problem (by rw [played])
    rw [played] at spared
    exact spared
  · rw [played] at fails
    cases fails

/-- After a work that spares the rows where it is quiet, the rest may fail only there. -/
theorem traceless_outcome_bind {work : Work α} {quiet : Except StoreError α → Prop}
    {rest : Except StoreError α → Dialogue β} (spares : work.Spares quiet)
    (silent : ∀ outcome, quiet outcome → (rest outcome).Traceless)
    (loud : ∀ outcome, ¬ quiet outcome → ∃ value, rest outcome = pure value) :
    (outcome work >>= rest).Traceless := by
  intro ledger error fails
  rw [ledger.serve_outcome_bind] at fails ⊢
  by_cases here : quiet (ledger.perform work).1
  · exact (silent _ here _ error fails).trans (spares ledger here)
  · obtain ⟨value, succeeds⟩ := loud _ here
    rw [succeeds] at fails
    cases fails

theorem traceless_transfer (movement : Movement) : (transfer movement).Traceless := by
  intro ledger error fails
  have mapped : (ledger.transfer movement).1.mapError ServiceError.store = .error error := fails
  show (ledger.transfer movement).2.rows = ledger.rows
  cases outcome : (ledger.transfer movement).1 with
  | error problem => exact Ledger.rows_of_transfer_error outcome
  | ok settlement =>
    rw [outcome] at mapped
    cases mapped

end Dialogue

/-! ### Commands of the service -/

namespace Service

open Dialogue

theorem traceless_register (user : NewUser) : (register user).Traceless := by
  refine traceless_ofExcept_bind fun _ => ?_
  refine traceless_outcome_bind (Work.spares_createUser user) (fun outcome failed => ?_)
    fun outcome succeeded => ?_
  · obtain ⟨error, rfl⟩ := failed
    exact traceless_ite (traceless_throw _) (traceless_throw _)
  · cases outcome with
    | ok stored => exact ⟨stored, rfl⟩
    | error error => exact absurd ⟨error, rfl⟩ succeeded

theorem traceless_changeProfile (change : ProfileChange) : (changeProfile change).Traceless := by
  refine traceless_ofExcept_bind fun _ => ?_
  refine traceless_outcome_bind (Work.spares_updateUser change) (fun outcome silent => ?_)
    fun outcome changed => ?_
  · match outcome with
    | .ok (some user) => exact absurd rfl (silent user)
    | .ok none => exact traceless_throw _
    | .error error => exact traceless_ite (traceless_throw _) (traceless_throw _)
  · match outcome with
    | .ok (some user) => exact ⟨user, rfl⟩
    | .ok none => exact absurd (fun _ wrong => by cases wrong) changed
    | .error error => exact absurd (fun _ wrong => by cases wrong) changed

theorem traceless_openAccount (account : NewAccount) : (openAccount account).Traceless := by
  refine traceless_ofExcept_bind fun currency => ?_
  refine traceless_reads_bind (asks_store (Work.asks_ask _ rfl)) fun found => ?_
  refine traceless_ite (traceless_throw _) ?_
  refine traceless_outcome_bind (Work.spares_createAccount _) (fun outcome failed => ?_)
    fun outcome succeeded => ?_
  · obtain ⟨error, rfl⟩ := failed
    refine traceless_ite (traceless_throw _) ?_
    exact traceless_ite (traceless_throw _) (traceless_throw _)
  · cases outcome with
    | ok opened => exact ⟨opened, rfl⟩
    | error error => exact absurd ⟨error, rfl⟩ succeeded

theorem traceless_pay (policy : SelfTransferPolicy) (order : TransferOrder) :
    (pay policy order).Traceless := by
  refine traceless_ofExcept_bind fun (amount, currency) => ?_
  refine traceless_reads_bind (asks_accountIn currency _) fun _ => ?_
  refine traceless_reads_bind (asks_accountIn currency _) fun _ => ?_
  exact traceless_transfer _

end Service

theorem Command.traceless (command : Command α) : command.dialogue.Traceless := by
  cases command with
  | register user => exact Service.traceless_register user
  | changeProfile change => exact Service.traceless_changeProfile change
  | openAccount account => exact Service.traceless_openAccount account
  | pay policy order => exact Service.traceless_pay policy order

/-! ### Methods of the store -/

/-- A method of the store, with what it gives when it succeeds; transactions of the caller's own are
left out. -/
inductive Method : Type → Type
  | createUser (user : NewUser) : Method User
  | findUser (username : String) : Method (Option User)
  | updateUser (change : ProfileChange) : Method (Option User)
  | createAccount (opening : AccountOpening) : Method Account
  | findAccount (id : Int) : Method (Option Account)
  | listAccounts (rows : AccountRows) : Method (List Account)
  | findTransfer (id : Int) : Method (Option Transfer)
  | listTransfers (rows : TransferRows) : Method (List Transfer)
  | findEntry (id : Int) : Method (Option Entry)
  | listEntries (rows : EntryRows) : Method (List Entry)
  | sumEntries (account : Int) : Method Int
  | transfer (movement : Movement) : Method Settlement

namespace Method

/-- The outcome of a method, and the ledger after it. -/
def run : Method α → Ledger → Except StoreError α × Ledger
  | createUser user, ledger => ledger.perform (Work.createUser user)
  | findUser username, ledger => ledger.perform (Work.findUser username)
  | updateUser change, ledger => ledger.perform (Work.updateUser change)
  | createAccount opening, ledger => ledger.perform (Work.createAccount opening)
  | findAccount id, ledger => ledger.perform (Work.findAccount id)
  | listAccounts rows, ledger => ledger.perform (Work.listAccounts rows)
  | findTransfer id, ledger => ledger.perform (Work.findTransfer id)
  | listTransfers rows, ledger => ledger.perform (Work.listTransfers rows)
  | findEntry id, ledger => ledger.perform (Work.findEntry id)
  | listEntries rows, ledger => ledger.perform (Work.listEntries rows)
  | sumEntries account, ledger => ledger.perform (Work.sumEntries account)
  | transfer movement, ledger => ledger.transfer movement

/-- A method that only reads. -/
def Reads : Method α → Prop
  | createUser _ | updateUser _ | createAccount _ | transfer _ => False
  | _ => True

theorem Reads.rows {method : Method α} (reads : method.Reads) (ledger : Ledger) :
    (method.run ledger).2.rows = ledger.rows := by
  cases method with
  | createUser _ | updateUser _ | createAccount _ | transfer _ => exact reads.elim
  | findAccount id => exact ledger.rows_perform (Work.asks_findAccount rfl)
  | listAccounts rows => exact ledger.rows_perform (Work.asks_listAccounts rfl)
  | findUser _ | findTransfer _ | listTransfers _ | findEntry _ | listEntries _ | sumEntries _ =>
    exact ledger.rows_perform (Work.asks_ask _ rfl)

theorem traceless (method : Method α) (ledger : Ledger) {error : StoreError}
    (fails : (method.run ledger).1 = .error error) :
    (method.run ledger).2.rows = ledger.rows := by
  cases method with
  | createUser user => exact Work.spares_createUser user ledger ⟨error, fails⟩
  | createAccount opening => exact Work.spares_createAccount opening ledger ⟨error, fails⟩
  | transfer movement => exact Ledger.rows_of_transfer_error fails
  | updateUser change =>
    refine Work.spares_updateUser change ledger fun user changed => ?_
    cases fails.symm.trans changed
  | findUser _ | findAccount _ | listAccounts _ | findTransfer _ | listTransfers _ | findEntry _
  | listEntries _ | sumEntries _ =>
    refine Reads.rows ?_ ledger
    exact trivial

end Method

/-! ### Requests -/

namespace Http

open Dialogue

theorem Action.traceless (policy : SelfTransferPolicy) (request : Request) (action : Action) :
    (action.perform policy request).Traceless := by
  cases action with
  | register =>
    refine traceless_ofExcept_bind fun user => ?_
    exact traceless_bind_pure (Service.traceless_register user) _
  | changeProfile segment =>
    refine traceless_ofExcept_bind fun username => ?_
    refine traceless_ofExcept_bind fun patch => ?_
    exact traceless_bind_pure (Service.traceless_changeProfile _) _
  | openAccount =>
    refine traceless_ofExcept_bind fun account => ?_
    exact traceless_bind_pure (Service.traceless_openAccount account) _
  | pay =>
    refine traceless_ofExcept_bind fun order => ?_
    exact traceless_bind_pure (Service.traceless_pay policy order) _
  | showUser _ | listAccounts | showAccount _ | listEntries _ | listTransfers | showTransfer _
  | showEntry _ =>
    refine traceless_of_reads (Action.Shows.asks ?_ policy request)
    exact trivial

/-- What is only asked to be shown is an action that shows something. -/
theorem shows_of_action? {request : Request} {action : Action}
    (asks : request.method = "GET" ∨ request.method = "HEAD")
    (named : request.action? = some action) : action.Shows := by
  obtain ⟨resource, _, method⟩ := Option.bind_eq_some_iff.mp named
  rcases asks with get | head
  · rw [get] at method
    cases resource <;> cases method <;> exact trivial
  · rw [head] at method
    cases resource <;> cases method <;> exact trivial

variable (policy : SelfTransferPolicy) (fresh : Uuid) {request : Request} (ledger : Ledger)

/-- A request that only asks to be shown something leaves the rows. -/
theorem rows_of_shown (asks : request.method = "GET" ∨ request.method = "HEAD") :
    (serve policy fresh request ledger).2.rows = ledger.rows := by
  cases named : request.action? with
  | none => rw [serve_of_no_action policy fresh ledger named]
  | some action =>
    rw [serve_of_action policy fresh ledger named]
    exact ledger.rows_serve ((shows_of_action? asks named).asks policy request)

/-- A request that is not served leaves the rows. -/
theorem rows_of_status (refused : 400 ≤ (serve policy fresh request ledger).1.status) :
    (serve policy fresh request ledger).2.rows = ledger.rows := by
  cases named : request.action? with
  | none => rw [serve_of_no_action policy fresh ledger named]
  | some action =>
    rw [status_of_serve policy fresh ledger named] at refused
    rw [serve_of_action policy fresh ledger named]
    cases outcome : (ledger.serve (action.perform policy request)).1 with
    | error error => exact action.traceless policy request ledger error outcome
    | ok response =>
      have succeeded := status_of_perform policy request action ledger response outcome
      rw [outcome] at refused
      have status : 400 ≤ response.1 := refused
      omega

end Http

/-- **Failures and readings leave no trace.** The requests are those whose body is a text; bodies of
other bytes are left out. -/
theorem failure_traceless (ledger : Ledger) :
    (∀ (α : Type) (method : Method α),
      (∀ error, (method.run ledger).1 = .error error → (method.run ledger).2.rows = ledger.rows) ∧
      (method.Reads → (method.run ledger).2.rows = ledger.rows)) ∧
    (∀ (α : Type) (command : Command α) error, (ledger.serve command.dialogue).1 = .error error →
      (ledger.serve command.dialogue).2.rows = ledger.rows) ∧
    (∀ error, ledger.seed.1 = .error error → ledger.seed.2.rows = ledger.rows) ∧
    (∀ policy fresh request, 400 ≤ (Http.serve policy fresh request ledger).1.status ∨
        request.method = "GET" ∨ request.method = "HEAD" →
      (Http.serve policy fresh request ledger).2.rows = ledger.rows) := by
  refine ⟨fun α method => ⟨fun _ => method.traceless ledger, fun reads => reads.rows ledger⟩,
    fun α command => command.traceless ledger, fun _ => ledger.rows_of_transact_error,
    fun policy fresh request => ?_⟩
  rintro (refused | asks)
  · exact Http.rows_of_status policy fresh ledger refused
  · exact Http.rows_of_shown policy fresh ledger asks

/-- A ledger with the demonstration data. -/
def seeded : Ledger :=
  Ledger.fresh.seed.2

/-- The transfer of more than there is, which is found out after four writes: the numbers have moved
and the rows have not. The same command, and a request without a body, leave the rows as well. -/
theorem failure_traceless_seeded :
    ((Method.transfer ⟨1, 4, 1000⟩).run seeded).1 = .error (.insufficientFunds 1 (-900)) ∧
    ((Method.transfer ⟨1, 4, 1000⟩).run seeded).2.serials ≠ seeded.serials ∧
    ((Method.transfer ⟨1, 4, 1000⟩).run seeded).2.rows = seeded.rows ∧
    (seeded.serve (Command.pay .reject ⟨1, 4, 1000, "USD"⟩).dialogue).2.rows = seeded.rows ∧
    (Http.serve .reject .nil ⟨"POST", "/transfers", [], ""⟩ seeded).2.rows = seeded.rows := by
  obtain ⟨methods, commands, _, requests⟩ := failure_traceless seeded
  have overdraws : ((Method.transfer ⟨1, 4, 1000⟩).run seeded).1 =
      .error (.insufficientFunds 1 (-900)) := rfl
  refine ⟨overdraws, by decide, (methods _ (.transfer ⟨1, 4, 1000⟩)).1 _ overdraws, ?_, ?_⟩
  · exact commands _ (.pay .reject ⟨1, 4, 1000, "USD"⟩) (.store (.insufficientFunds 1 (-900))) rfl
  · exact requests _ _ _ (.inl (by decide))

end Passbook
