/-
**Requests as JSON.**

The requests are written and read like records. One shape goes by several titles, which show in
messages only, so the readers take the title. A page that is not named in a listing is the standard
one; the forms of listings do not depend on where their values come from.
-/

import Passbook.Order
import Passbook.Record.Json

namespace Passbook

open Json (Value Reader)
open Json.Reader (JsonForm int64 text struct)

/-- How integers and texts are read from the values of a source. -/
structure Primitives (Source ε : Type) where
  int64 : Source → Except ε Int
  text : Source → Except ε String

def Json.Reader.primitives : Primitives Json.Document Json.Problem :=
  ⟨int64, text⟩

namespace NewUser

def toJson (user : NewUser) : Value :=
  .object [("username", .string user.username), ("full_name", .string user.fullName),
    ("email", .string user.email)]

def form : JsonForm NewUser :=
  .required "username" text <| .required "full_name" text <| .required "email" text <|
  .done fun email fullName username => { username, fullName, email }

def reader (title : String) : Reader NewUser :=
  struct title form

end NewUser

namespace ProfilePatch

/-- Leaves out what is not given. -/
def toJson (patch : ProfilePatch) : Value :=
  .object <|
    (patch.fullName.map fun name => ("full_name", Value.string name)).toList ++
    (patch.email.map fun email => ("email", Value.string email)).toList

def form : JsonForm ProfilePatch :=
  .standard "full_name" (Json.Reader.optional text) none <|
  .standard "email" (Json.Reader.optional text) none <|
  .done fun email fullName => { fullName, email }

def reader (title : String) : Reader ProfilePatch :=
  struct title form

end ProfilePatch

namespace ProfileChange

def toJson (change : ProfileChange) : Value :=
  .object [("username", .string change.username), ("full_name", .ofText? change.patch.fullName),
    ("email", .ofText? change.patch.email)]

def form : JsonForm ProfileChange :=
  .required "username" text <| .optional "full_name" (Json.Reader.optional text) none <|
  .optional "email" (Json.Reader.optional text) none <|
  .done fun email fullName username => { username, patch := { fullName, email } }

def reader (title : String) : Reader ProfileChange :=
  struct title form

end ProfileChange

namespace NewAccount

def toJson (account : NewAccount) : Value :=
  .object [("owner", .string account.owner), ("currency", .string account.currency)]

def form : JsonForm NewAccount :=
  .required "owner" text <| .required "currency" text <|
  .done fun currency owner => { owner, currency }

def reader (title : String) : Reader NewAccount :=
  struct title form

end NewAccount

namespace AccountOpening

def toJson (opening : AccountOpening) : Value :=
  .object [("owner", .string opening.owner), ("balance", .int opening.balance),
    ("currency", opening.currency.toJson)]

def form : JsonForm AccountOpening :=
  .required "owner" text <| .required "balance" int64 <| .required "currency" Currency.reader <|
  .done fun currency balance owner => { owner, balance, currency }

def reader (title : String) : Reader AccountOpening :=
  struct title form

end AccountOpening

namespace TransferOrder

def toJson (order : TransferOrder) : Value :=
  .object [("from_account_id", .int order.source), ("to_account_id", .int order.target),
    ("amount", .int order.amount), ("currency", .string order.currency)]

def form : JsonForm TransferOrder :=
  .required "from_account_id" int64 <| .required "to_account_id" int64 <|
  .required "amount" int64 <| .required "currency" text <|
  .done fun currency amount target source => { source, target, amount, currency }

def reader (title : String) : Reader TransferOrder :=
  struct title form

end TransferOrder

namespace Movement

def toJson (movement : Movement) : Value :=
  .object [("from_account_id", .int movement.source), ("to_account_id", .int movement.target),
    ("amount", .int movement.amount)]

def form : JsonForm Movement :=
  .required "from_account_id" int64 <| .required "to_account_id" int64 <|
  .required "amount" int64 <| .done fun amount target source => { source, target, amount }

def reader (title : String) : Reader Movement :=
  struct title form

end Movement

namespace Posting

def toJson (posting : Posting) : Value :=
  .object [("transfer_id", .int posting.transfer), ("account_id", .int posting.account),
    ("amount", .int posting.amount)]

def form : JsonForm Posting :=
  .required "transfer_id" int64 <| .required "account_id" int64 <| .required "amount" int64 <|
  .done fun amount account transfer => { transfer, account, amount }

def reader (title : String) : Reader Posting :=
  struct title form

end Posting

namespace BalanceChange

def toJson (change : BalanceChange) : Value :=
  .object [("id", .int change.account), ("amount", .int change.amount)]

def form : JsonForm BalanceChange :=
  .required "id" int64 <| .required "amount" int64 <|
  .done fun amount account => { account, amount }

def reader (title : String) : Reader BalanceChange :=
  struct title form

end BalanceChange

/-! ### Listings -/

namespace Page

def members (page : Page) : List (String × Value) :=
  [("page_id", .int page.number), ("page_size", .int page.size)]

def toJson (page : Page) : Value :=
  .object page.members

/-- A page that must be named in full. -/
def form : JsonForm Page :=
  .required "page_id" int64 <| .required "page_size" int64 <|
  .done fun size number => { number, size }

def reader (title : String) : Reader Page :=
  struct title form

/-- A page any part of which may be left out. -/
def listingForm (source : Primitives Source ε) : Form Source ε Page :=
  .standard "page_id" source.int64 standard.number <|
  .standard "page_size" source.int64 standard.size <|
  .done fun size number => { number, size }

def listingReader (title : String) : Reader Page :=
  struct title (listingForm Json.Reader.primitives)

end Page

namespace AccountListing

def toJson (listing : AccountListing) : Value :=
  .object (("owner", .string listing.owner) :: listing.page.members)

def form (source : Primitives Source ε) : Form Source ε AccountListing :=
  .required "owner" source.text <| .standard "page_id" source.int64 Page.standard.number <|
  .standard "page_size" source.int64 Page.standard.size <|
  .done fun size number owner => { owner, page := { number, size } }

def reader (title : String) : Reader AccountListing :=
  struct title (form Json.Reader.primitives)

end AccountListing

namespace TransferListing

def toJson (listing : TransferListing) : Value :=
  .object (("account_id", .int listing.account) :: listing.page.members)

def form (source : Primitives Source ε) : Form Source ε TransferListing :=
  .required "account_id" source.int64 <| .standard "page_id" source.int64 Page.standard.number <|
  .standard "page_size" source.int64 Page.standard.size <|
  .done fun size number account => { account, page := { number, size } }

def reader (title : String) : Reader TransferListing :=
  struct title (form Json.Reader.primitives)

end TransferListing

namespace Window

def members (window : Window) : List (String × Value) :=
  [("limit", .int window.limit), ("offset", .int window.offset)]

end Window

namespace AccountRows

def toJson (rows : AccountRows) : Value :=
  .object (("owner", .string rows.owner) :: rows.window.members)

def form : JsonForm AccountRows :=
  .required "owner" text <| .required "limit" int64 <| .required "offset" int64 <|
  .done fun offset limit owner => { owner, window := { limit, offset } }

def reader (title : String) : Reader AccountRows :=
  struct title form

end AccountRows

namespace TransferRows

def toJson (rows : TransferRows) : Value :=
  .object (("from_account_id", .int rows.source) :: ("to_account_id", .int rows.target) ::
    rows.window.members)

def form : JsonForm TransferRows :=
  .required "from_account_id" int64 <| .required "to_account_id" int64 <|
  .required "limit" int64 <| .required "offset" int64 <|
  .done fun offset limit target source => { source, target, window := { limit, offset } }

def reader (title : String) : Reader TransferRows :=
  struct title form

end TransferRows

namespace EntryRows

def toJson (rows : EntryRows) : Value :=
  .object (("account_id", .int rows.account) :: rows.window.members)

def form : JsonForm EntryRows :=
  .required "account_id" int64 <| .required "limit" int64 <| .required "offset" int64 <|
  .done fun offset limit account => { account, window := { limit, offset } }

def reader (title : String) : Reader EntryRows :=
  struct title form

end EntryRows

end Passbook
