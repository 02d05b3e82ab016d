/-
**The site of the server.**

A sign of health stands at `/health` and the interface under `/api/v1`. A response that comes from a
resource of the interface carries a correlation id, whether the resource knew the method or not;
where there is nothing the response carries none.
-/

import Passbook.Http.Api

namespace Passbook.Server

open Http (Request Response Uuid)

/-- The path of the sign of health. -/
def healthPath : List Char := "/health".toList

/-- The path under which the interface stands. -/
def apiPath : List Char := "/api/v1".toList

/-- The response at the sign of health. -/
def health (request : Request) : Response :=
  if request.method == "GET" || request.method == "HEAD" then
    Http.Api.trimmed request { status := 200, content := .text "OK" }
  else .methodNotAllowed

/-- What follows the path of the interface. -/
def innerPath? (path : List Char) : Option (List Char) :=
  if apiPath.isPrefixOf path then some (path.drop apiPath.length) else none

/-- The response to a request; `fresh` is a new correlation id. -/
def respond (policy : SelfTransferPolicy) (fresh : Uuid) (request : Request) :
    Http.Api.Calls Response :=
  if request.path = healthPath then pure (health request)
  else
    match innerPath? request.path with
    | none => pure .notFound
    | some path =>
      if (Http.Resource.ofPath? path).isNone then pure .notFound
      else do
        return Http.Api.correlated fresh request (← Http.Api.bare policy request path)

end Passbook.Server
