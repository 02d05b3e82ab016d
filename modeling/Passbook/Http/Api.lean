/-
**The interface of the service.**

`Action.perform` reads what an action needs from the request, the parts of the path first, does it,
and gives the status and the value of the response.

`Api.respond` finds the action of a request, performs it and sets the correlation id.
-/

import Passbook.Http.Correlation
import Passbook.Http.Intake
import Passbook.Http.Route
import Passbook.Service.Accounts
import Passbook.Service.Transfers
import Passbook.Service.Users
import Passbook.Service.Views

namespace Passbook.Http

open Json (Value)

/-- A listing under the name of what it lists. -/
def listed (name : String) (items : List Value) : String × Value :=
  (name, .array items)

/-- The response to a request that is served. -/
def Action.perform (policy : SelfTransferPolicy) (request : Request) :
    Action → Dialogue (Nat × Value)
  | .register => do
    let user ← .ofExcept (Intake.body (NewUser.reader "CreateUserRequest") request)
    return (201, (← Service.register user).toJson)
  | .showUser segment => do
    let username ← .ofExcept (Intake.pathText "username" segment)
    return (200, (← Service.user username).toJson)
  | .changeProfile segment => do
    let username ← .ofExcept (Intake.pathText "username" segment)
    let patch ← .ofExcept (Intake.body (ProfilePatch.reader "UpdateUserRequest") request)
    return (200, (← Service.changeProfile ⟨username, patch⟩).toJson)
  | .openAccount => do
    let account ← .ofExcept (Intake.body (NewAccount.reader "CreateAccountRequest") request)
    return (201, (← Service.openAccount account).toJson)
  | .listAccounts => do
    let listing ← .ofExcept (Intake.query (AccountListing.form Query.primitives) request)
    let accounts ← Service.accounts listing
    return (200, .object [listed "accounts" (accounts.map Account.toJson)])
  | .showAccount segment => do
    let id ← .ofExcept (Intake.pathNumber "account_id" segment)
    return (200, (← Service.account id).toJson)
  | .listEntries segment => do
    let id ← .ofExcept (Intake.pathNumber "account_id" segment)
    let page ← .ofExcept (Intake.query (Page.listingForm Query.primitives) request)
    let entries ← Service.entries id page
    return (200, .object [("account_id", .int id), listed "entries" (entries.map Entry.toJson)])
  | .pay => do
    let order ← .ofExcept (Intake.body (TransferOrder.reader "TransferRequest") request)
    return (200, (← Service.pay policy order).toJson)
  | .listTransfers => do
    let listing ← .ofExcept (Intake.query (TransferListing.form Query.primitives) request)
    let transfers ← Service.transfers listing
    return (200, .object [listed "transfers" (transfers.map Transfer.toJson)])
  | .showTransfer segment => do
    let id ← .ofExcept (Intake.pathNumber "transfer_id" segment)
    return (200, (← Service.transfer id).toJson)
  | .showEntry segment => do
    let id ← .ofExcept (Intake.pathNumber "entry_id" segment)
    return (200, (← Service.entry id).toJson)

/-- The response to a request, whether it is served or not. -/
def Response.ofOutcome : Except ServiceError (Nat × Value) → Response
  | .ok (status, value) => { status, content := .json value }
  | .error error => { status := error.status, content := .json error.body }

namespace Api

/-- A script of calls to the store. -/
abbrev Calls (α : Type) : Type :=
  Script Call Call.Reply α

/-- Drops the content of the response to a request for its head alone. -/
def trimmed (request : Request) (response : Response) : Response :=
  if request.method == "HEAD" then response.withoutContent else response

/-- The response to a request at a path under the interface, without its correlation id. -/
def bare (policy : SelfTransferPolicy) (request : Request) (path : List Char) : Calls Response :=
  match Resource.ofPath? path with
  | none => pure .notFound
  | some resource =>
    match resource.action? request.method with
    | none => pure .methodNotAllowed
    | some action => do
      let outcome ← (action.perform policy request).run
      return trimmed request (.ofOutcome outcome)

/-- Sets the correlation id of a response. -/
def correlated (fresh : Uuid) (request : Request) (response : Response) : Response :=
  let id := Correlation.ofHeaders fresh request.headers
  { response with headers := Header.set (Correlation.header id) response.headers }

/-- The response to a request; `fresh` is a new correlation id. -/
def respond (policy : SelfTransferPolicy) (fresh : Uuid) (request : Request) : Calls Response := do
  return correlated fresh request (← bare policy request request.path)

end Api

/-- Answers a request without interruption. -/
def serve (policy : SelfTransferPolicy) (fresh : Uuid) (request : Request) (ledger : Ledger) :
    Response × Ledger :=
  (Api.respond policy fresh request).run Ledger.answer ledger

end Passbook.Http
