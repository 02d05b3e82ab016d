/-
**Ordering transfers.**

`TransferOrder.validate` checks what needs no store: the amount, the currency, and whether the two
accounts may be one. `pay` then looks at both accounts, which must be there and be held in the
currency of the order, and moves the money.
-/

import Passbook.SelfTransfer
import Passbook.Service.Dialogue

namespace Passbook

/-- The amount and currency of an order that breaks no rule by itself. -/
def TransferOrder.validate (policy : SelfTransferPolicy) (order : TransferOrder) :
    Except RuleError (Amount × Currency) :=
  match Amount.ofInt order.amount with
  | .error problem => .error (.invalidAmount problem)
  | .ok amount =>
    match Currency.ofCode order.currency with
    | .error problem => .error (.unsupportedCurrency problem)
    | .ok currency =>
      if policy.permits order.source order.target then .ok (amount, currency)
      else .error .sameAccount

namespace Service

/-- Finds an account that must be held in the currency. -/
def accountIn (currency : Currency) (id : Int) : Dialogue Account := do
  match ← Dialogue.store (Work.findAccount id) with
  | none => throw (.accountNotFound id)
  | some account =>
    if account.currency = currency then return account
    else throw (.rule (.currencyMismatch id currency account.currency))

/-- Carries out a transfer order. -/
def pay (policy : SelfTransferPolicy) (order : TransferOrder) : Dialogue Settlement := do
  let (amount, currency) ← Dialogue.ofExcept ((order.validate policy).mapError .rule)
  let _ ← accountIn currency order.source
  let _ ← accountIn currency order.target
  Dialogue.transfer ⟨order.source, order.target, amount.value⟩

end Service

end Passbook
