/-
**What a request says.**

The values that an action needs are read from the parts of its path, from the query and from the
body. A value that cannot be read makes the request invalid, and the error says why.

A body is a text here; bodies whose bytes are no UTF-8 are left out. It is read only if its media
type is JSON and it is not too large. The first value in it counts, whatever follows. Nothing more
is said of a body that is no JSON; a value of the wrong kind is told with its place.
-/

import Passbook.Http.MediaType
import Passbook.Http.Message
import Passbook.Http.Query
import Passbook.Service.Error

namespace Passbook.Http.Intake

open Json (Problem Reader)

/-! ### Parts of the path -/

/-- Reads a text from a part of the path called `name`. -/
def pathText (name : String) (segment : List Char) : Except ServiceError String :=
  match Text.Utf8.decode? (Text.Percent.decode (Text.Utf8.encode segment)) with
  | some text => .ok (String.ofList text)
  | none => .error (.invalidRequest s!"Invalid URL: Invalid UTF-8 in `{name}`")

/-- Reads an integer from a part of the path called `name`. -/
def pathNumber (name : String) (segment : List Char) : Except ServiceError Int := do
  let text ← pathText name segment
  match Text.Numeral.readInt64 text with
  | .ok n => .ok n
  | .error _ =>
    let quoted := Text.Quoted.encode text
    .error (.invalidRequest s!"Invalid URL: Cannot parse `{quoted}` to a `i64`")

/-! ### The query -/

def query (form : Query.TextForm α) (request : Request) : Except ServiceError α :=
  (Query.read form request.query).mapError fun reason =>
    .invalidRequest s!"Failed to deserialize query string: {reason}"

/-! ### The body -/

/-- The greatest number of bytes of a body. -/
def greatestBody : Nat := 2 * 1024 * 1024

/-- The first field that names a media type says that the body is JSON. -/
def isJson (request : Request) : Bool :=
  match Header.first? "content-type" request.headers with
  | some header => ((header.text?.bind MediaType.read?).map MediaType.isJson).getD false
  | none => false

/-- The message of a body that does not fit. -/
def problemMessage : Problem → String
  | .malformed => "Failed to parse the request body as JSON"
  | .unfit path misfit =>
    let place := Json.locatedMessage path misfit
    s!"Failed to deserialize the JSON body into the target type: {place}"

/-- Reads a record off the front of the body. -/
def body (reader : Reader α) (request : Request) : Except ServiceError α :=
  if !isJson request then
    .error (.invalidRequest "Expected request with `Content-Type: application/json`")
  else if greatestBody < request.body.utf8ByteSize then
    .error (.invalidRequest "Failed to buffer the request body: length limit exceeded")
  else
    (reader.runFront request.body).mapError fun problem =>
      .invalidRequest (problemMessage problem)

end Passbook.Http.Intake
