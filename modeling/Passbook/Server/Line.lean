/-
**Requests and responses on a line each.**

A line of a request has the method, the target and, if there is one, a JSON body, with blanks
between them. A line of a response has the status and what the response carries.
-/

import Passbook.Http.Message

namespace Passbook.Server.Line

open Http (Content Header Request Response)

/-- The field that says that a body is JSON. -/
def jsonHeader : Header :=
  .ofText "content-type" "application/json"

/-- Reads a request; a line without a target is none. -/
def request? (line : String) : Option Request :=
  match Text.cut ' ' line.toList with
  | (_, none) => none
  | (method, some rest) =>
    let (target, body) := Text.cut ' ' rest
    let request : Request := { method := String.ofList method, target := String.ofList target }
    match body with
    | none => some request
    | some body => some { request with headers := [jsonHeader], body := String.ofList body }

/-- What a response carries, on one line. -/
def content : Content → String
  | .empty => ""
  | .text text => text
  | .json value => value.write

def response (response : Response) : String :=
  s!"{response.status} {content response.content}"

end Passbook.Server.Line
