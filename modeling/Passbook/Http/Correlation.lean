/-
**Correlation of requests and responses.**

A caller may name a request by a correlation id, so that its traces can be brought together. The
response to a request carries the id that the request named, or a new one when it named none that
can be read; only the first field of that name counts.
-/

import Passbook.Http.Header
import Passbook.Http.Uuid

namespace Passbook.Http.Correlation

/-- The name of the field that carries the id. -/
def key : String := "x-correlation-id"

/-- The id that a request names. -/
def named? (headers : List Header) : Option Uuid :=
  (Header.first? key headers).bind fun header => header.text?.bind Uuid.read?

/-- The id of a request; `fresh` is a new one. -/
def ofHeaders (fresh : Uuid) (headers : List Header) : Uuid :=
  (named? headers).getD fresh

/-- The field that carries an id. -/
def header (id : Uuid) : Header :=
  .ofText key id.write

end Passbook.Http.Correlation
