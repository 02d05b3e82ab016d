/-
**Stored records as JSON.**

Each record is written as an object of its fields in their order, and read through a form of the
same fields. An amount is read from an integer and a currency from its code, each refused in the
words of its own type; an instant is read from its text.
-/

import Passbook.Amount
import Passbook.Json.Reader
import Passbook.Record
import Passbook.SelfTransfer
import Passbook.Time.Rfc3339

namespace Passbook

open Json (Value Reader)
open Json.Reader (JsonForm int64 text struct checked)
open Time (Instant Rfc3339.read Rfc3339.write)

namespace Json.Reader

/-- Reads the text of an instant. -/
def instant : Reader Instant
  | .string (some text) =>
    match Rfc3339.read text with
    | .ok instant => .ok instant
    | .error problem => unfit (.refused problem.message)
  | document => wrongType "an RFC 3339 formatted date and time string" document

end Json.Reader

namespace Amount

def toJson (amount : Amount) : Value :=
  .int amount.value

def reader : Reader Amount :=
  checked int64 fun n => (ofInt n).mapError AmountError.message

end Amount

namespace Currency

def toJson (currency : Currency) : Value :=
  .string currency.code

def reader : Reader Currency :=
  checked text fun code => (ofCode code).mapError CurrencyError.message

end Currency

namespace SelfTransferPolicy

def toJson (policy : SelfTransferPolicy) : Value :=
  .string policy.name

def reader : Reader SelfTransferPolicy :=
  Json.Reader.variant [(reject.name, reject), (allow.name, allow)]

end SelfTransferPolicy

def Time.Instant.toJson (instant : Instant) : Value :=
  .string (Rfc3339.write instant)

namespace User

def toJson (user : User) : Value :=
  .object [("username", .string user.username), ("full_name", .string user.fullName),
    ("email", .string user.email), ("created_at", user.createdAt.toJson)]

def form : JsonForm User :=
  .required "username" text <| .required "full_name" text <| .required "email" text <|
  .required "created_at" Json.Reader.instant <|
  .done fun createdAt email fullName username => { username, fullName, email, createdAt }

def reader : Reader User :=
  struct "User" form

end User

namespace Account

def toJson (account : Account) : Value :=
  .object [("id", .int account.id), ("owner", .string account.owner),
    ("balance", .int account.balance), ("currency", account.currency.toJson),
    ("created_at", account.createdAt.toJson)]

def form : JsonForm Account :=
  .required "id" int64 <| .required "owner" text <| .required "balance" int64 <|
  .required "currency" Currency.reader <| .required "created_at" Json.Reader.instant <|
  .done fun createdAt currency balance owner id => { id, owner, balance, currency, createdAt }

def reader : Reader Account :=
  struct "Account" form

end Account

namespace Transfer

def toJson (transfer : Transfer) : Value :=
  .object [("id", .int transfer.id), ("from_account_id", .int transfer.source),
    ("to_account_id", .int transfer.target), ("amount", .int transfer.amount),
    ("created_at", transfer.createdAt.toJson)]

def form : JsonForm Transfer :=
  .required "id" int64 <| .required "from_account_id" int64 <| .required "to_account_id" int64 <|
  .required "amount" int64 <| .required "created_at" Json.Reader.instant <|
  .done fun createdAt amount target source id => { id, source, target, amount, createdAt }

def reader : Reader Transfer :=
  struct "Transfer" form

end Transfer

namespace Entry

def toJson (entry : Entry) : Value :=
  .object [("id", .int entry.id), ("transfer_id", .int entry.transfer),
    ("account_id", .int entry.account), ("amount", .int entry.amount),
    ("created_at", entry.createdAt.toJson)]

def form : JsonForm Entry :=
  .required "id" int64 <| .required "transfer_id" int64 <| .required "account_id" int64 <|
  .required "amount" int64 <| .required "created_at" Json.Reader.instant <|
  .done fun createdAt amount account transfer id => { id, transfer, account, amount, createdAt }

def reader : Reader Entry :=
  struct "Entry" form

end Entry

namespace Settlement

def toJson (settlement : Settlement) : Value :=
  .object [("transfer", settlement.transfer.toJson), ("from_entry", settlement.debit.toJson),
    ("to_entry", settlement.credit.toJson), ("from_account", settlement.source.toJson),
    ("to_account", settlement.target.toJson)]

def form : JsonForm Settlement :=
  .required "transfer" Transfer.reader <| .required "from_entry" Entry.reader <|
  .required "to_entry" Entry.reader <| .required "from_account" Account.reader <|
  .required "to_account" Account.reader <|
  .done fun target source credit debit transfer => { transfer, debit, credit, source, target }

def reader : Reader Settlement :=
  struct "TransferResult" form

end Settlement

end Passbook
