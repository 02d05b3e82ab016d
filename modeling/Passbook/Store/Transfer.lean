/-
**Moving money.**

`settle` is the work of a transfer: it stores the transfer and its two entries, changes the two
balances and then looks whether the source has been overdrawn. The balance of the account with the
smaller number is always changed first, so that any two transfers take hold of their accounts in one
order; on a transfer from an account to itself the credit comes first.

`Ledger.transfer` does this work in a transaction. A transfer of nothing or less does not reach the
database.
-/

import Passbook.Store.Work

namespace Passbook

namespace Movement

def debit (movement : Movement) : BalanceChange :=
  ⟨movement.source, -movement.amount⟩

def credit (movement : Movement) : BalanceChange :=
  ⟨movement.target, movement.amount⟩

/-- The two changes of balance in the order in which they are made. -/
def orderedChanges (movement : Movement) : BalanceChange × BalanceChange :=
  if movement.source < movement.target then (movement.debit, movement.credit)
  else (movement.credit, movement.debit)

/-- The accounts of source and target, from the accounts after the first and the second change. -/
def sides (movement : Movement) (first second : Account) : Account × Account :=
  if movement.source = movement.target then (second, second)
  else if movement.source < movement.target then (first, second)
  else (second, first)

/-- The work of a transfer. -/
def settle (movement : Movement) : Work Settlement := do
  let transfer ← Work.createTransfer movement
  let debit ← Work.createEntry ⟨transfer.id, movement.source, -movement.amount⟩
  let credit ← Work.createEntry ⟨transfer.id, movement.target, movement.amount⟩
  let first ← Work.addBalance movement.orderedChanges.1
  let second ← Work.addBalance movement.orderedChanges.2
  let (source, target) := movement.sides first second
  if source.balance < 0 then throw (.insufficientFunds source.id source.balance)
  return { transfer, debit, credit, source, target }

end Movement

/-- Moves money from one account to another, or changes nothing. -/
def Ledger.transfer (movement : Movement) (ledger : Ledger) :
    Except StoreError Settlement × Ledger :=
  if movement.amount ≤ 0 then (.error (.invalidAmount movement.amount), ledger)
  else ledger.transact movement.settle

/-- Moves money several times, one movement after another; gives the outcome of each. -/
def Ledger.transferAll : List Movement → Ledger → List (Except StoreError Settlement) × Ledger
  | [], ledger => ([], ledger)
  | movement :: rest, ledger =>
    let (outcome, ledger) := ledger.transfer movement
    let (outcomes, ledger) := Ledger.transferAll rest ledger
    (outcome :: outcomes, ledger)

end Passbook
