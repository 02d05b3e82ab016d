/-
**Errors of the service.**

A `ServiceError` is the answer to a request that was not served. Each has a status, a short code and
a body for the caller. A failure that is not the caller's fault is told in the same words whatever
it was; the details of a broken rule or of a refusal by the store are told to the caller.
-/

import Passbook.Json.Value
import Passbook.Rule
import Passbook.Store.Error

namespace Passbook

inductive ServiceError where
  | invalidRequest (reason : String)
  | userNotFound (username : String)
  | accountNotFound (id : Int)
  | transferNotFound (id : Int)
  | entryNotFound (id : Int)
  | alreadyExists (what : String)
  | rule (problem : RuleError)
  | store (error : StoreError)
  deriving DecidableEq, Repr

namespace ServiceError

def message : ServiceError → String
  | invalidRequest reason => s!"Invalid request: {reason}"
  | userNotFound username => s!"User not found: {username}"
  | accountNotFound id => s!"Account not found: {id}"
  | transferNotFound id => s!"Transfer not found: {id}"
  | entryNotFound id => s!"Entry not found: {id}"
  | alreadyExists what => s!"Already exists: {what}"
  | rule problem => problem.message
  | store error => error.message

/-- The status of the response to a broken rule is 400 whichever it is. -/
def ruleCode : RuleError → String
  | .invalidAmount _ => "invalid_amount"
  | .unsupportedCurrency _ => "unsupported_currency"
  | .sameAccount => "same_account_transfer"
  | .currencyMismatch .. => "currency_mismatch"
  | .invalidPage _ => "invalid_page"

/-- The status and code of the response to a failure of the store. -/
def storeStatus : StoreError → Nat × String
  | .insufficientFunds .. => (400, "insufficient_funds")
  | .invalidAmount _ => (400, "invalid_amount")
  | .accountNotFound _ => (404, "account_not_found")
  | error => if error.isRetryable then (409, "transaction_conflict") else (500, "database_error")

def statusAndCode : ServiceError → Nat × String
  | invalidRequest _ => (400, "invalid_request")
  | userNotFound _ => (404, "user_not_found")
  | accountNotFound _ => (404, "account_not_found")
  | transferNotFound _ => (404, "transfer_not_found")
  | entryNotFound _ => (404, "entry_not_found")
  | alreadyExists _ => (409, "already_exists")
  | rule problem => (400, ruleCode problem)
  | store error => storeStatus error

def status (error : ServiceError) : Nat :=
  error.statusAndCode.1

def code (error : ServiceError) : String :=
  error.statusAndCode.2

/-- The fault lies with the service and not with the caller. -/
def isInternal (error : ServiceError) : Bool :=
  500 ≤ error.status

/-- What the caller is told beyond the error itself. -/
def details : ServiceError → Option String
  | rule problem => some problem.message
  | store error => if (store error).isInternal then none else some error.message
  | _ => none

/-- The error in the words for the caller. -/
def publicMessage (error : ServiceError) : String :=
  if error.isInternal then "Internal server error" else error.message

/-- The body of the response. -/
def body (error : ServiceError) : Json.Value :=
  .object <|
    [("error", .string error.publicMessage), ("error_code", .string error.code)] ++
    (error.details.map fun text => ("details", Json.Value.string text)).toList

end ServiceError

end Passbook
