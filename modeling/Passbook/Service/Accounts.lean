/-
**Opening accounts.**

`openAccount` opens an account without money for a user who has none in that currency.
-/

import Passbook.Service.Dialogue

namespace Passbook.Service

def openAccount (account : NewAccount) : Dialogue Account := do
  let currency ← Dialogue.ofExcept <|
    (Currency.ofCode account.currency).mapError fun problem => .rule (.unsupportedCurrency problem)
  if (← Dialogue.store (Work.findUser account.owner)).isNone then
    throw (.userNotFound account.owner)
  match ← Dialogue.outcome (Work.createAccount ⟨account.owner, 0, currency⟩) with
  | .ok opened => return opened
  | .error error =>
    if error.isUniqueViolation then
      throw (.alreadyExists s!"{currency.code} account for {account.owner}")
    else if error.isForeignKeyViolation then throw (.userNotFound account.owner)
    else throw (.store error)

end Passbook.Service
