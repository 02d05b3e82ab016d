/-
**How dialogues are played and requests are answered.**

* `Ledger.serve_bind`, `serve_bind_pure`, `serve_ofExcept_bind`, `serve_outcome_bind` — a dialogue
  is played part by part, each part on the ledger that the one before it leaves.
* `Command` — what the handlers of the service can be told to do.
* `Http.serve_of_action` — a request that names an action is answered with what the action comes to,
  and leaves the ledger that the action leaves; any other calls nothing (`serve_of_no_action`).
* `Http.status_of_perform` — an action that succeeds has the status 200 or 201.
-/

import Passbook.Http.Api
import Passbook.Proofs.Script

namespace Passbook

open Ledger (Query)

variable {α β : Type}

/-! ### Dialogues -/

namespace Ledger

variable (ledger : Ledger)

/-- The rest of a dialogue is played where the first part leaves off. -/
theorem serve_bind (first : Dialogue α) (rest : α → Dialogue β) :
    ledger.serve (first >>= rest) =
      match ledger.serve first with
      | (.error error, after) => (.error error, after)
      | (.ok value, after) => after.serve (rest value) := by
  have split : ledger.serve (first >>= rest) =
      Script.run answer (ExceptT.bindCont rest (ledger.serve first).1) (ledger.serve first).2 :=
    Script.run_bind _ _ _ _
  rw [split]
  rcases ledger.serve first with ⟨_ | value, after⟩
  · rfl
  · rfl

/-- An error of the first part is that of the dialogue. -/
theorem serve_bind_of_error {first : Dialogue α} {error : ServiceError}
    (fails : (ledger.serve first).1 = .error error) (rest : α → Dialogue β) :
    (ledger.serve (first >>= rest)).1 = .error error := by
  rw [ledger.serve_bind]
  rcases played : ledger.serve first with ⟨outcome, after⟩
  rw [played] at fails
  cases fails
  rfl

/-- What is made of the value of a dialogue calls nothing more. -/
theorem serve_bind_pure (dialogue : Dialogue α) (f : α → β) :
    (ledger.serve do return f (← dialogue)) =
      ((ledger.serve dialogue).1.map f, (ledger.serve dialogue).2) := by
  refine (ledger.serve_bind dialogue fun value => pure (f value)).trans ?_
  rcases ledger.serve dialogue with ⟨error | value, after⟩
  · rfl
  · rfl

theorem serve_ofExcept_bind (result : Except ServiceError α) (rest : α → Dialogue β) :
    ledger.serve (.ofExcept result >>= rest) =
      match result with
      | .error error => (.error error, ledger)
      | .ok value => ledger.serve (rest value) := by
  cases result with
  | error error => rfl
  | ok value => rfl

/-- Statements that are calls are answered as they are on their own. -/
theorem run_asked (script : Script Query Query.Reply α) :
    (script.rephrase Call.query fun _ reply => reply : Script Call Call.Reply α).run answer ledger =
      script.run Ledger.query ledger := by
  induction script generalizing ledger with
  | done result => rfl
  | ask query next ih => exact ih _ _

/-- A work is done as it would be on its own, and the rest goes by its outcome. -/
theorem serve_outcome_bind (work : Work α) (rest : Except StoreError α → Dialogue β) :
    ledger.serve (Dialogue.outcome work >>= rest) =
      (ledger.perform work).2.serve (rest (ledger.perform work).1) := by
  have played : ledger.serve (Dialogue.outcome work) =
      (.ok (ledger.perform work).1, (ledger.perform work).2) := by
    refine (Script.run_bind _ _ _ _).trans ?_
    exact congrArg (fun ran => (Except.ok ran.1, ran.2)) (ledger.run_asked work.run)
  rw [serve_bind, played]

end Ledger

namespace Dialogue

/-- Every success of a dialogue is of the kind. -/
def Gives (kind : α → Prop) (dialogue : Dialogue α) : Prop :=
  ∀ (ledger : Ledger) value, (ledger.serve dialogue).1 = .ok value → kind value

variable {kind : β → Prop}

theorem gives_pure {value : β} (here : kind value) : (pure value : Dialogue β).Gives kind := by
  intro ledger given succeeds
  cases succeeds
  exact here

/-- A dialogue succeeds with what its last part succeeds with. -/
theorem gives_bind {first : Dialogue α} {rest : α → Dialogue β}
    (last : ∀ value, (rest value).Gives kind) : (first >>= rest).Gives kind := by
  intro ledger given succeeds
  rw [ledger.serve_bind] at succeeds
  rcases played : ledger.serve first with ⟨error | value, after⟩
  · rw [played] at succeeds
    cases succeeds
  · rw [played] at succeeds
    exact last value after given succeeds

end Dialogue

/-! ### Commands -/

/-- A command of the service, with what it gives when it succeeds. -/
inductive Command : Type → Type
  | register (user : NewUser) : Command User
  | changeProfile (change : ProfileChange) : Command User
  | openAccount (account : NewAccount) : Command Account
  | pay (policy : SelfTransferPolicy) (order : TransferOrder) : Command Settlement

/-- What the service does for a command. -/
def Command.dialogue : Command α → Dialogue α
  | register user => Service.register user
  | changeProfile change => Service.changeProfile change
  | openAccount account => Service.openAccount account
  | pay policy order => Service.pay policy order

/-! ### Requests -/

namespace Http

open Dialogue (gives_bind gives_pure)

variable (policy : SelfTransferPolicy) (fresh : Uuid) {request : Request} (ledger : Ledger)

/-- The action that a request names. -/
def Request.action? (request : Request) : Option Action :=
  (Resource.ofPath? request.path).bind fun resource => resource.action? request.method

/-- A request that names no action calls nothing. -/
theorem serve_of_no_action (nothing : request.action? = none) :
    (serve policy fresh request ledger).2 = ledger := by
  unfold serve Api.respond Api.bare
  unfold Request.action? at nothing
  cases found : Resource.ofPath? request.path with
  | none => rfl
  | some resource =>
    rw [found] at nothing
    have unknown : resource.action? request.method = none := nothing
    simp only [unknown]
    rfl

/-- A request that names an action is responded to with what the action comes to. -/
theorem bare_of_action {action : Action} (named : request.action? = some action) :
    Api.bare policy request request.path =
      (action.perform policy request).run.bind fun outcome =>
        .done (Api.trimmed request (.ofOutcome outcome)) := by
  obtain ⟨resource, path, method⟩ := Option.bind_eq_some_iff.mp named
  simp only [Api.bare, path, method]
  rfl

/-- **A request is answered with what its action comes to.** -/
theorem serve_of_action {action : Action} (named : request.action? = some action) :
    serve policy fresh request ledger =
      (Api.correlated fresh request
        (Api.trimmed request (.ofOutcome (ledger.serve (action.perform policy request)).1)),
      (ledger.serve (action.perform policy request)).2) := by
  show Script.run Ledger.answer (Script.bind (Api.bare policy request request.path) fun response =>
    .done (Api.correlated fresh request response)) ledger = _
  rw [Script.run_bind, bare_of_action policy named, Script.run_bind]
  rfl

theorem status_trimmed (response : Response) :
    (Api.trimmed request response).status = response.status := by
  unfold Api.trimmed
  by_cases head : (request.method == "HEAD") = true
  · rw [if_pos head]
    rfl
  · rw [if_neg head]

/-- The status of the response to a request is that of what its action comes to. -/
theorem status_of_serve {action : Action} (named : request.action? = some action) :
    (serve policy fresh request ledger).1.status =
      (Response.ofOutcome (ledger.serve (action.perform policy request)).1).status := by
  rw [serve_of_action policy fresh ledger named]
  exact status_trimmed _

/-- **An action that succeeds** has the status 200 or 201. -/
theorem status_of_perform (request : Request) (action : Action) :
    (action.perform policy request).Gives fun response => response.1 = 200 ∨ response.1 = 201 := by
  have ok : ∀ value : Json.Value, (pure (200, value) : Dialogue (Nat × Json.Value)).Gives
      fun response => response.1 = 200 ∨ response.1 = 201 := fun _ => gives_pure (.inl rfl)
  have created : ∀ value : Json.Value, (pure (201, value) : Dialogue (Nat × Json.Value)).Gives
      fun response => response.1 = 200 ∨ response.1 = 201 := fun _ => gives_pure (.inr rfl)
  cases action with
  | register | openAccount => exact gives_bind fun _ => gives_bind fun _ => created _
  | showUser _ | listAccounts | showAccount _ | pay | listTransfers | showTransfer _
  | showEntry _ => exact gives_bind fun _ => gives_bind fun _ => ok _
  | changeProfile _ | listEntries _ =>
    exact gives_bind fun _ => gives_bind fun _ => gives_bind fun _ => ok _

end Http

end Passbook
