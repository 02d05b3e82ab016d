/-
**Rules that a request may break.**

A `RuleError` is a rule broken by the values of a request, found before any money moves.
-/

import Passbook.Amount
import Passbook.Currency
import Passbook.Page

namespace Passbook

inductive RuleError where
  | invalidAmount (problem : AmountError)
  | unsupportedCurrency (problem : CurrencyError)
  /-- A transfer to its own account, which the policy rejects. -/
  | sameAccount
  /-- The account is not held in the currency asked for. -/
  | currencyMismatch (account : Int) (expected found : Currency)
  | invalidPage (reason : String)
  deriving DecidableEq, Repr

def RuleError.message : RuleError → String
  | invalidAmount problem => s!"Invalid amount: {problem.message}"
  | unsupportedCurrency problem => problem.message
  | sameAccount => "Cannot transfer to the same account"
  | currencyMismatch account expected found =>
    s!"Account {account} currency mismatch: {found.code} vs {expected.code}"
  | invalidPage reason => s!"Invalid pagination: {reason}"

/-- The window of a page, with its problem as a broken rule. -/
def Page.allowedWindow (page : Page) : Except RuleError Window :=
  page.window.mapError fun problem => .invalidPage problem.message

end Passbook
