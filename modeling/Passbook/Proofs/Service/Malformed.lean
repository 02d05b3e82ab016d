/-
**Malformed requests.**

A request in which something cannot be read is refused as invalid before anything is asked of the
store. No other request is answered so, apart from those whose profile is refused for what it says.

* `ServiceError.Later` — the errors that are not those of an invalid request; `Later.code`: their
  codes are others.
* `Dialogue.Concludes kind good` — the errors and the values that a dialogue can end with, whatever
  the store replies; `Dialogue.Proceeds` — the errors are later ones, as those of every handler are
  once it has accepted a profile.
* `Dialogue.Screened` — what a dialogue comes to in which the parts of a request are read first;
  **`Action.screened_perform`** — every action is one.
* `Rejects` — a request is refused without a call.
* **`malformed_rejected`** — the requests that are; `trailing_served` — a malformed request that is
  not, because what follows the record in its body is left out of account.
-/

import Passbook.Proofs.Service.Legible
import Passbook.Proofs.Service.Registration

namespace Passbook

open Ledger (Query)

variable {α β : Type}

/-! ### Errors -/

/-- The error is not that of an invalid request. -/
def ServiceError.Later : ServiceError → Prop
  | invalidRequest _ => False
  | _ => True

/-- **No other error** has the code of an invalid request. -/
theorem ServiceError.Later.code {error : ServiceError} (later : error.Later) :
    error.code ≠ "invalid_request" := by
  unfold ServiceError.code statusAndCode
  cases error with
  | invalidRequest reason => exact later.elim
  | userNotFound _ | accountNotFound _ | transferNotFound _ | entryNotFound _ | alreadyExists _ =>
    simp
  | rule problem => cases problem <;> simp [ruleCode]
  | store failure =>
    cases failure with
    | insufficientFunds _ _ | invalidAmount _ | accountNotFound _ => simp [storeStatus]
    | database _ | rollback _ _ | commitInterrupted _ =>
      simp only [storeStatus]
      split <;> simp

/-! ### How dialogues end -/

namespace Dialogue

/-- Every value that the dialogue can end with is good, and every error is of the kind. -/
def Concludes (kind : ServiceError → Prop) (good : α → Prop) (dialogue : Dialogue α) : Prop :=
  dialogue.run.Ends fun
    | .ok value => good value
    | .error error => kind error

variable {kind : ServiceError → Prop} {good : α → Prop} {good' : β → Prop}

theorem concludes_bind {first : Dialogue α} {rest : α → Dialogue β}
    (ends : first.Concludes kind good)
    (later : ∀ value, good value → (rest value).Concludes kind good') :
    (first >>= rest).Concludes kind good' := by
  refine Script.ends_bind ends fun outcome here => ?_
  cases outcome with
  | ok value => exact later value here
  | error error => exact here

theorem concludes_outcome (work : Work α) : (outcome work).Concludes kind fun _ => True :=
  Script.ends_bind (Script.ends_true _) fun _ _ => trivial

theorem concludes_ite {condition : Prop} [Decidable condition] {first second : Dialogue α}
    (yes : first.Concludes kind good) (no : second.Concludes kind good) :
    (if condition then first else second).Concludes kind good := by
  by_cases holds : condition
  · rw [if_pos holds]
    exact yes
  · rw [if_neg holds]
    exact no

/-- The dialogue ends with no error of an invalid request. -/
def Proceeds (dialogue : Dialogue α) : Prop :=
  dialogue.Concludes ServiceError.Later fun _ => True

theorem proceeds_bind {first : Dialogue α} {rest : α → Dialogue β} (ends : first.Proceeds)
    (later : ∀ value, (rest value).Proceeds) : (first >>= rest).Proceeds :=
  concludes_bind ends fun value _ => later value

theorem proceeds_store (work : Work α) : (store work).Proceeds := by
  refine proceeds_bind (concludes_outcome work) fun outcome => ?_
  cases outcome with
  | ok value => exact trivial
  | error failure => exact trivial

/-- A check whose refusals are told in other ways. -/
theorem proceeds_check {ε : Type} {result : Except ε α} {tell : ε → ServiceError}
    (later : ∀ problem, (tell problem).Later) : (ofExcept (result.mapError tell)).Proceeds := by
  cases result with
  | ok value => exact trivial
  | error problem => exact later problem

end Dialogue

/-! ### Handlers -/

namespace Service

open Dialogue (proceeds_bind concludes_outcome proceeds_store proceeds_check concludes_ite)

theorem register_proceeds {user : NewUser} (valid : user.validate = .ok ()) :
    (register user).Proceeds := by
  unfold register
  rw [valid]
  refine @proceeds_bind _ _ (Dialogue.ofExcept (.ok ())) _ trivial fun _ => ?_
  refine proceeds_bind (concludes_outcome _) fun outcome => ?_
  cases outcome with
  | ok stored => exact trivial
  | error error => exact concludes_ite trivial trivial

theorem changeProfile_proceeds {change : ProfileChange} (valid : change.patch.validate = .ok ()) :
    (changeProfile change).Proceeds := by
  unfold changeProfile
  rw [valid]
  refine @proceeds_bind _ _ (Dialogue.ofExcept (.ok ())) _ trivial fun _ => ?_
  refine proceeds_bind (concludes_outcome _) fun outcome => ?_
  cases outcome with
  | ok found => cases found <;> exact trivial
  | error error => exact concludes_ite trivial trivial

theorem openAccount_proceeds (account : NewAccount) : (openAccount account).Proceeds := by
  refine proceeds_bind (proceeds_check fun _ => trivial) fun currency => ?_
  refine proceeds_bind (proceeds_store _) fun found => ?_
  refine concludes_ite trivial ?_
  refine proceeds_bind (concludes_outcome _) fun outcome => ?_
  cases outcome with
  | ok opened => exact trivial
  | error error => exact concludes_ite trivial (concludes_ite trivial trivial)

theorem accountIn_proceeds (currency : Currency) (id : Int) : (accountIn currency id).Proceeds := by
  refine proceeds_bind (proceeds_store _) fun found => ?_
  cases found with
  | none => exact trivial
  | some account => exact concludes_ite trivial trivial

theorem pay_proceeds (policy : SelfTransferPolicy) (order : TransferOrder) :
    (pay policy order).Proceeds := by
  refine proceeds_bind (proceeds_check fun _ => trivial) fun (amount, currency) => ?_
  refine proceeds_bind (accountIn_proceeds currency _) fun _ => ?_
  refine proceeds_bind (accountIn_proceeds currency _) fun _ => fun reply => ?_
  cases reply with
  | ok settlement => exact trivial
  | error failure => exact trivial

theorem need_proceeds (absent : ServiceError) (later : absent.Later) (work : Work (Option α)) :
    (need absent work).Proceeds := by
  refine proceeds_bind (proceeds_store work) fun found => ?_
  cases found with
  | some value => exact trivial
  | none => exact later

theorem user_proceeds (username : String) : (user username).Proceeds :=
  need_proceeds (.userNotFound username) trivial _

theorem transfer_proceeds (id : Int) : (transfer id).Proceeds :=
  need_proceeds (.transferNotFound id) trivial _

theorem entry_proceeds (id : Int) : (entry id).Proceeds :=
  need_proceeds (.entryNotFound id) trivial _

theorem account_proceeds (id : Int) : (account id).Proceeds :=
  need_proceeds (.accountNotFound id) trivial _

theorem pageWindow_proceeds (page : Page) : (pageWindow page).Proceeds :=
  proceeds_check fun _ => trivial

theorem accounts_proceeds (listing : AccountListing) : (accounts listing).Proceeds :=
  proceeds_bind (pageWindow_proceeds _) fun _ => proceeds_store _

theorem transfers_proceeds (listing : TransferListing) : (transfers listing).Proceeds :=
  proceeds_bind (pageWindow_proceeds _) fun _ => proceeds_store _

theorem entries_proceeds (id : Int) (page : Page) : (entries id page).Proceeds := by
  refine proceeds_bind (pageWindow_proceeds _) fun _ => ?_
  exact proceeds_bind (account_proceeds id) fun _ => proceeds_store _

end Service

/-! ### Actions -/

/-- The error code that a value gives, if it gives one. -/
def Json.Value.errorCode? : Json.Value → Option String
  | .object members =>
    match members.lookup "error_code" with
    | some (.string code) => some code
    | _ => none
  | _ => none

theorem ServiceError.errorCode?_body (error : ServiceError) :
    error.body.errorCode? = some error.code :=
  rfl

/-- What a dialogue comes to in which the parts of a request are read first. -/
inductive Dialogue.Screened (request : Http.Request) (parts : List Http.Part)
    (refused : ProfileError → Prop) (dialogue : Dialogue (Nat × Json.Value)) : Prop
  | illegible (reason : String) : (¬ ∀ part ∈ parts, part.Legible request) →
    dialogue.run = .done (.error (.invalidRequest reason)) →
    Screened request parts refused dialogue
  | refused (problem : ProfileError) : (∀ part ∈ parts, part.Legible request) →
    (∀ other, refused other ↔ other = problem) → dialogue.run = .done (.error problem.toService) →
    Screened request parts refused dialogue
  | served : (∀ part ∈ parts, part.Legible request) → (∀ problem, ¬ refused problem) →
    dialogue.Concludes ServiceError.Later (fun response => response.2.errorCode? = none) →
    Screened request parts refused dialogue

namespace Http

open Dialogue (Screened concludes_bind)

variable {request : Request}

/-- A part that is read first. -/
theorem screened_read {part : Part} {parts : List Part} {refused : ProfileError → Prop}
    {result : Except ServiceError α} {rest : α → Dialogue (Nat × Json.Value)}
    (told : Reported (part.Legible request) result)
    (each : ∀ value, result = .ok value → (rest value).Screened request parts refused) :
    (Dialogue.ofExcept result >>= rest).Screened request (part :: parts) refused := by
  cases told with
  | invalid reason illegible =>
    exact .illegible reason (fun all => illegible (all part List.mem_cons_self)) rfl
  | read value legible =>
    cases each value rfl with
    | illegible reason illegible ends =>
      exact .illegible reason (fun all => illegible (List.forall_mem_cons.mp all).2) ends
    | refused problem others refuses ends =>
      exact .refused problem (List.forall_mem_cons.mpr ⟨legible, others⟩) refuses ends
    | served others accepted concludes =>
      exact .served (List.forall_mem_cons.mpr ⟨legible, others⟩) accepted concludes

/-- What is served when everything is read. -/
theorem screened_served {refused : ProfileError → Prop} {dialogue : Dialogue α}
    {response : α → Nat × Json.Value} (accepted : ∀ problem, ¬ refused problem)
    (proceeds : dialogue.Proceeds) (plain : ∀ value, (response value).2.errorCode? = none) :
    (do return response (← dialogue)).Screened request [] refused :=
  .served (List.forall_mem_nil _) accepted (concludes_bind proceeds fun value _ => plain value)

/-- What is served when a profile is accepted. -/
theorem screened_profile {refused : ProfileError → Prop} {validated : Except ProfileError Unit}
    {dialogue : Dialogue α} {response : α → Nat × Json.Value}
    (refuses : ∀ problem, refused problem ↔ validated = .error problem)
    (ends : ∀ problem, validated = .error problem →
      dialogue.run = .done (.error problem.toService))
    (proceeds : validated = .ok () → dialogue.Proceeds)
    (plain : ∀ value, (response value).2.errorCode? = none) :
    (do return response (← dialogue)).Screened request [] refused := by
  cases valid : validated with
  | error problem =>
    refine .refused problem (List.forall_mem_nil _) (fun other => ?_) ?_
    · rw [refuses other, valid, Except.error.injEq, eq_comm]
    show Script.bind dialogue.run _ = _
    rw [ends problem valid]
    rfl
  | ok _ =>
    refine screened_served (fun problem refused => ?_) (proceeds valid) plain
    rw [refuses problem, valid] at refused
    cases refused

/-- **Every action reads its request first.** -/
theorem Action.screened_perform (policy : SelfTransferPolicy) (request : Request)
    (action : Action) :
    (action.perform policy request).Screened request action.parts (action.Refuses request) := by
  have refusals : ∀ {β : Type} {reader : Json.Reader β} {value : β}
      {validate : β → Except ProfileError Unit} problem, Intake.body reader request = .ok value →
      ((∃ given, reader.runFront request.body = .ok given ∧ validate given = .error problem) ↔
        validate value = .error problem) := by
    intro β reader value validate problem read
    simp [(Intake.body_eq_ok_iff.mp read).2.2]
  cases action with
  | register =>
    refine screened_read (Intake.reported_body _ (by decide)) fun user read => ?_
    refine screened_profile (fun problem => refusals problem read) (fun problem invalid => ?_)
      Service.register_proceeds fun _ => rfl
    rw [Service.register_run, invalid]
  | changeProfile segment =>
    refine screened_read (Intake.reported_text _ segment) fun username _ => ?_
    refine screened_read (Intake.reported_body _ (by decide)) fun patch read => ?_
    refine screened_profile (fun problem => refusals problem read) (fun problem invalid => ?_)
      (@Service.changeProfile_proceeds ⟨username, patch⟩) fun _ => rfl
    rw [Service.changeProfile_run, invalid]
  | showUser segment =>
    refine screened_read (Intake.reported_text _ segment) fun username _ => ?_
    exact screened_served (fun _ => id) (Service.user_proceeds username) fun _ => rfl
  | openAccount =>
    refine screened_read (Intake.reported_body _ (by decide)) fun account _ => ?_
    exact screened_served (fun _ => id) (Service.openAccount_proceeds account) fun _ => rfl
  | listAccounts =>
    refine screened_read (Intake.reported_query (by decide)) fun listing _ => ?_
    exact screened_served (fun _ => id) (Service.accounts_proceeds listing) fun _ => rfl
  | showAccount segment =>
    refine screened_read (Intake.reported_number _ segment) fun id _ => ?_
    exact screened_served (fun _ never => never) (Service.account_proceeds id) fun _ => rfl
  | listEntries segment =>
    refine screened_read (Intake.reported_number _ segment) fun id _ => ?_
    refine screened_read (Intake.reported_query (by decide)) fun page _ => ?_
    exact screened_served (fun _ never => never) (Service.entries_proceeds id page) fun _ => rfl
  | pay =>
    refine screened_read (Intake.reported_body _ (by decide)) fun order _ => ?_
    exact screened_served (fun _ => id) (Service.pay_proceeds policy order) fun _ => rfl
  | listTransfers =>
    refine screened_read (Intake.reported_query (by decide)) fun listing _ => ?_
    exact screened_served (fun _ => id) (Service.transfers_proceeds listing) fun _ => rfl
  | showTransfer segment =>
    refine screened_read (Intake.reported_number _ segment) fun id _ => ?_
    exact screened_served (fun _ never => never) (Service.transfer_proceeds id) fun _ => rfl
  | showEntry segment =>
    refine screened_read (Intake.reported_number _ segment) fun id _ => ?_
    exact screened_served (fun _ never => never) (Service.entry_proceeds id) fun _ => rfl

/-! ### Responses -/

/-- The error code that a response gives, if it gives one. -/
def Response.errorCode? (response : Response) : Option String :=
  match response.content with
  | .json value => value.errorCode?
  | _ => none

/-- **A request is refused as invalid**, for a reason: the response says so, and nothing is asked
of the store. -/
structure Rejects (policy : SelfTransferPolicy) (fresh : Uuid) (request : Request)
    (reason : String) (response : Response) : Prop where
  silent : Api.respond policy fresh request = .done response
  unchanged : ∀ ledger, serve policy fresh request ledger = (response, ledger)
  status : response.status = 400
  content : response.content = .json (ServiceError.invalidRequest reason).body
  code : response.errorCode? = some "invalid_request"

/-- A dialogue that ends with later errors is answered with other codes. -/
theorem errorCode?_of_concludes {dialogue : Dialogue (Nat × Json.Value)}
    (concludes : dialogue.Concludes ServiceError.Later
      fun response => response.2.errorCode? = none) (ledger : Ledger) :
    (Response.ofOutcome (ledger.serve dialogue).1).errorCode? ≠ some "invalid_request" := by
  have ends := Script.run_ends concludes Ledger.answer ledger
  unfold Ledger.serve
  cases ran : (Script.run Ledger.answer dialogue.run ledger).1 with
  | ok response =>
    rw [ran] at ends
    have plain : response.2.errorCode? = none := ends
    show response.2.errorCode? ≠ _
    rw [plain]
    exact Option.some_ne_none _ ∘ Eq.symm
  | error error =>
    rw [ran] at ends
    exact fun given =>
      ServiceError.Later.code ends (Option.some.inj (error.errorCode?_body.symm.trans given))

section Named

variable {action : Action} (named : request.action? = some action)
  (whole : request.method ≠ "HEAD") (policy : SelfTransferPolicy) (fresh : Uuid)

include named whole

/-- The response goes by what the action comes to, with all that it carries. -/
theorem respond_of_action : Api.respond policy fresh request =
    (action.perform policy request).run.bind fun outcome =>
      .done (Api.correlated fresh request (.ofOutcome outcome)) := by
  have noHead : ¬ (request.method == "HEAD") = true := fun head => whole (eq_of_beq head)
  show Script.bind (Api.bare policy request request.path) _ = _
  rw [bare_of_action policy named, Script.bind_assoc]
  simp only [Api.trimmed, if_neg noHead]
  rfl

/-- An action that ends with the error of an invalid request at once. -/
theorem rejects_of_done {reason : String}
    (ends : (action.perform policy request).run = .done (.error (.invalidRequest reason))) :
    ∃ response, Rejects policy fresh request reason response := by
  have silent := respond_of_action named whole policy fresh
  rw [ends] at silent
  refine ⟨_, silent, fun ledger => ?_, rfl, rfl, rfl⟩
  rw [serve, silent]
  rfl

/-- **Malformed requests.** A request whose parts cannot all be read is refused as invalid, and
nothing is asked of the store for it; only profiles that are refused for what they say are answered
so besides. A malformed request can be read only where something follows the record in its body. The
requests are those whose body is a text; bodies whose bytes are no UTF-8 are left out. -/
theorem malformed_rejected :
    (¬ action.Legible request → ∃ reason response, Rejects policy fresh request reason response) ∧
    (action.Legible request → ∀ problem, action.Refuses request problem →
      ∃ response, Rejects policy fresh request problem.message response) ∧
    (action.Legible request → ∀ ledger,
      (serve policy fresh request ledger).1.errorCode? = some "invalid_request" →
        ∃ problem, action.Refuses request problem) ∧
    (action.Legible request → ¬ action.WellFormed request →
      ∃ part ∈ action.parts, ¬ part.Ended request) := by
  have follows : action.Legible request → ¬ action.WellFormed request →
      ∃ part ∈ action.parts, ¬ part.Ended request := fun legible malformed => by
    have malformed : ∃ part ∈ action.parts, ¬ part.WellFormed request := by
      simpa [Action.WellFormed] using malformed
    obtain ⟨part, among, malformed⟩ := malformed
    exact ⟨part, among, fun ended => malformed ⟨legible part among, ended⟩⟩
  cases action.screened_perform policy request with
  | illegible reason illegible ends =>
    exact ⟨fun _ => ⟨reason, rejects_of_done named whole policy fresh ends⟩,
      fun legible => absurd legible illegible, fun legible => absurd legible illegible, follows⟩
  | refused problem legible only ends =>
    refine ⟨absurd legible, fun _ other refuses => ?_, fun _ _ _ => ⟨problem, ?_⟩, follows⟩
    · rw [(only other).mp refuses]
      exact rejects_of_done named whole policy fresh ends
    · exact (only problem).mpr rfl
  | served legible accepted concludes =>
    refine ⟨absurd legible, fun _ problem refuses => absurd refuses (accepted problem),
      fun _ ledger given => ?_, follows⟩
    rw [serve, respond_of_action named whole, Script.run_bind] at given
    exact absurd given (errorCode?_of_concludes concludes ledger)

end Named

/-- Lists transfers of an account that is named twice. -/
def doubled : Request := { method := "GET", target := "/transfers?account_id=1&account_id=2" }

theorem malformed_rejected_doubled :
    ∃ reason response, Rejects .reject .nil doubled reason response := by
  have named : doubled.action? = some .listTransfers := by decide
  have pairs : Internet.Pairs.read doubled.query = [("account_id", "1"), ("account_id", "2")] := by
    decide +kernel
  refine (malformed_rejected named (by decide) .reject .nil).1 fun legible => ?_
  have filled := legible _ List.mem_cons_self
  rw [Part.Legible, pairs] at filled
  exact filled.1

/-- Registers a user with one more character behind the record. -/
def trailing : Request :=
  ⟨"POST", "/users", [.ofText "content-type" "application/json"],
    "\x7b\"username\":\"bob\",\"full_name\":\"Bob\",\"email\":\"bob@example.com\"\x7dx"⟩

theorem trailing_served :
    Reachable (fun _ => True) [] .fresh ∧ trailing.action? = some .register ∧
      ¬ Action.register.WellFormed trailing ∧
      (serve .reject .nil trailing .fresh).1.status = 201 ∧
      (serve .reject .nil trailing .fresh).2.tables =
        some ⟨[⟨"bob", "Bob", "bob@example.com", .newYear2024⟩], [], [], []⟩ := by
  have named : trailing.action? = some .register := by decide
  have more : (Json.Document.read trailing.body).2 = false := by decide +kernel
  have found : (NewUser.reader "CreateUserRequest").runFront trailing.body =
      .ok ⟨"bob", "Bob", "bob@example.com"⟩ := eq_ok_of_toOption (by decide +kernel)
  have read : Intake.body (NewUser.reader "CreateUserRequest") trailing = _ :=
    Intake.body_eq_ok_iff.mpr ⟨Intake.isJson_cons _ _ _ _, by decide, found⟩
  refine ⟨.fresh, named, fun wellFormed => ?_, ?_, ?_⟩
  · have ended : (Json.Document.read trailing.body).2 = true :=
      (wellFormed _ List.mem_cons_self).2
    rw [more] at ended
    cases ended
  · rw [status_of_serve .reject .nil .fresh named, Action.perform, read]
    rfl
  · rw [serve_of_action .reject .nil .fresh named, Action.perform, read]
    rfl

end Http

end Passbook
