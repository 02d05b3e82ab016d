/-
**Demonstration data.**

`seed` stores the demonstration users and opens their accounts, each with the same balance. Users
and accounts that are there already are left alone. It gives the number of accounts that it opened.
-/

import Passbook.Store.Work

namespace Passbook.Seed

/-- A demonstration user with the currencies of the accounts. -/
structure Demo where
  user : NewUser
  currencies : List Currency

/-- The balance of every demonstration account. -/
def balance : Int := 100

def demos : List Demo :=
  [⟨⟨"peepo", "Apu Apustaja", "apu@apustaja.com"⟩, [.usd, .gbp, .eur]⟩,
    ⟨⟨"gondola", "Gondola Gondolier", "gondola@example.com"⟩, [.usd, .eur, .cad]⟩]

/-- Opens accounts of an owner in the currencies in which there is none. -/
def openMissing (owner : String) (existing : List Account) : List Currency → Work Nat
  | [] => return 0
  | currency :: rest => do
    if existing.any fun account => account.currency == currency then
      openMissing owner existing rest
    else
      let _ ← Work.createAccount ⟨owner, balance, currency⟩
      return (← openMissing owner existing rest) + 1

def seedDemo (demo : Demo) : Work Nat := do
  let username := demo.user.username
  if (← Work.findUser username).isNone then
    let _ ← Work.createUser demo.user
  let existing ← Work.listAccounts ⟨username, ⟨Currency.all.length, 0⟩⟩
  openMissing username existing demo.currencies

def seedAll : List Demo → Work Nat
  | [] => return 0
  | demo :: rest => do
    let opened ← seedDemo demo
    return opened + (← seedAll rest)

end Seed

/-- Stores the demonstration data in one transaction. -/
def Ledger.seed (ledger : Ledger) : Except StoreError Nat × Ledger :=
  ledger.transact (Seed.seedAll Seed.demos)

end Passbook
