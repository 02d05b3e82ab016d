/-
**Looking things up.**

Single records are found by their key and must be there. Listings come in pages: the page is checked
before the store is asked, and entries are listed only of an account that is there. Nothing here
changes the store.
-/

import Passbook.Service.Dialogue

namespace Passbook.Service

/-- Finds what must be there. -/
def need (absent : ServiceError) (work : Work (Option α)) : Dialogue α := do
  match ← Dialogue.store work with
  | some found => return found
  | none => throw absent

/-- The window of a page that breaks no rule. -/
def pageWindow (page : Page) : Dialogue Window :=
  Dialogue.ofExcept (page.allowedWindow.mapError .rule)

def user (username : String) : Dialogue User :=
  need (.userNotFound username) (Work.findUser username)

def account (id : Int) : Dialogue Account :=
  need (.accountNotFound id) (Work.findAccount id)

def transfer (id : Int) : Dialogue Transfer :=
  need (.transferNotFound id) (Work.findTransfer id)

def entry (id : Int) : Dialogue Entry :=
  need (.entryNotFound id) (Work.findEntry id)

def accounts (listing : AccountListing) : Dialogue (List Account) := do
  let window ← pageWindow listing.page
  Dialogue.store (Work.listAccounts ⟨listing.owner, window⟩)

def transfers (listing : TransferListing) : Dialogue (List Transfer) := do
  let window ← pageWindow listing.page
  Dialogue.store (Work.listTransfers ⟨listing.account, listing.account, window⟩)

def entries (id : Int) (page : Page) : Dialogue (List Entry) := do
  let window ← pageWindow page
  let _ ← account id
  Dialogue.store (Work.listEntries ⟨id, window⟩)

end Passbook.Service
