/-
**Requests and responses.**

A `Request` has a method, a target, header fields and a body; a `Response` has a status, header
fields and some content.

The body of a request is a text. Bodies whose bytes are no UTF-8 have no counterpart here, so that
what is stated of every request says nothing of them.
-/

import Passbook.Http.Header
import Passbook.Http.Target
import Passbook.Json.Value

namespace Passbook.Http

structure Request where
  method : String
  target : String
  headers : List Header := []
  /-- The body, whose bytes are the UTF-8 of this text. -/
  body : String := ""
  deriving DecidableEq, Repr

namespace Request

def path (request : Request) : List Char :=
  (Target.read request.target.toList).path

/-- The query, which is empty when there is none. -/
def query (request : Request) : List Char :=
  (Target.read request.target.toList).query

end Request

/-- What a response carries. -/
inductive Content where
  | empty
  | text (text : String)
  | json (value : Json.Value)

structure Response where
  status : Nat
  headers : List Header := []
  content : Content := .empty

namespace Response

/-- There is nothing at the path. -/
def notFound : Response := { status := 404 }

/-- What is at the path does not know the method. -/
def methodNotAllowed : Response := { status := 405 }

/-- The response without what it carries. -/
def withoutContent (response : Response) : Response :=
  { response with content := .empty }

end Response

end Passbook.Http
