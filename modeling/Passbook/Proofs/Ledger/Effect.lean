/-
**The effect of an executed statement on the books.**

`Books.Effect now before query answer after` lists what a statement can do when it is executed: it
reads, it stores a row of a table, it changes a user or a balance, or it finds no row to change.

* `Books.effect_of_execute` — an executed statement has one of these effects, and no other.
-/

import Passbook.Proofs.Ledger.Rows
import Passbook.Proofs.Ledger.Statement

namespace Passbook.Ledger

open Time (Instant)

namespace Books

open Tables (patched patching added adding)

/-- What a statement did to the books, and what it answered. -/
inductive Effect (now : Instant) (before : Books) : (query : Query) → query.Answer → Books → Prop
  | read {query : Query} {answer : query.Answer} (reads : query.isRead = true) :
    Effect now before query answer before
  | userStored {new : NewUser}
    (usernameNew : ∀ other ∈ before.rows.users, other.username ≠ new.username)
    (emailNew : ∀ other ∈ before.rows.users, other.email ≠ new.email) :
    Effect now before (.insertUser new) (⟨new.username, new.fullName, new.email, now⟩ : User)
      { before with rows := { before.rows with
          users := before.rows.users ++ [⟨new.username, new.fullName, new.email, now⟩] } }
  | userMissed {change : ProfileChange} (missing : before.rows.user? change.username = none) :
    Effect now before (.updateUser change) (none : Option User) before
  | userChanged {change : ProfileChange} {user : User}
    (found : before.rows.user? change.username = some user)
    (emailNew : ∀ other ∈ before.rows.users, other.username ≠ user.username →
      other.email ≠ (patched user change.patch).email) :
    Effect now before (.updateUser change) (some (patched user change.patch) : Option User)
      { before with rows := before.rows.patching user change.patch }
  | accountOpened {owner currency : String} {balance : Int}
    (holdingNew : ∀ other ∈ before.rows.accounts, other.owner = owner → other.currency ≠ currency)
    (owned : before.rows.HasUser owner) :
    Effect now before (.insertAccount owner balance currency)
      (⟨before.serials.accounts + 1, owner, balance, currency, now⟩ : AccountRow)
      ⟨{ before.serials with accounts := before.serials.accounts + 1 },
        { before.rows with accounts := before.rows.accounts ++
            [⟨before.serials.accounts + 1, owner, balance, currency, now⟩] }⟩
  | balanceMissed {change : BalanceChange}
    (missing : before.rows.account? change.account = none) :
    Effect now before (.addBalance change) (none : Option AccountRow) before
  | balanceChanged {change : BalanceChange} {account : AccountRow}
    (found : before.rows.account? change.account = some account)
    (inRange : Text.IntegerRange.int64.contains (account.balance + change.amount) = true) :
    Effect now before (.addBalance change) (some (added account change.amount) : Option AccountRow)
      { before with rows := before.rows.adding account change.amount }
  | transferStored {movement : Movement} (positive : 0 < movement.amount)
    (source : before.rows.HasAccount movement.source)
    (target : before.rows.HasAccount movement.target) :
    Effect now before (.insertTransfer movement)
      (⟨before.serials.transfers + 1, movement.source, movement.target, movement.amount, now⟩
        : Transfer)
      ⟨{ before.serials with transfers := before.serials.transfers + 1 },
        { before.rows with transfers := before.rows.transfers ++
            [⟨before.serials.transfers + 1, movement.source, movement.target, movement.amount,
              now⟩] }⟩
  | entryStored {posting : Posting} (nonzero : posting.amount ≠ 0)
    (transfer : before.rows.HasTransfer posting.transfer)
    (account : before.rows.HasAccount posting.account) :
    Effect now before (.insertEntry posting)
      (⟨before.serials.entries + 1, posting.transfer, posting.account, posting.amount, now⟩ : Entry)
      ⟨{ before.serials with entries := before.serials.entries + 1 },
        { before.rows with entries := before.rows.entries ++
            [⟨before.serials.entries + 1, posting.transfer, posting.account, posting.amount,
              now⟩] }⟩

theorem take_of_isRead {query : Query} (reads : query.isRead = true) (serials : Serials) :
    (serials.take query).2 = serials := by
  cases query with
  | insertUser _ | updateUser _ | insertAccount _ _ _ | addBalance _ | insertTransfer _
  | insertEntry _ => cases reads
  | findUser _ | findAccount _ | listAccounts _ | findTransfer _ | listTransfers _ | findEntry _
  | listEntries _ | sumEntries _ => rfl

/-- **An executed statement has one of the effects.** -/
theorem effect_of_execute {now : Instant} {before after : Books} {query : Query}
    {answer : query.Answer} (executed : before.execute now query = .ok (answer, after)) :
    Effect now before query answer after := by
  obtain ⟨applied, taken⟩ := execute_eq_ok.mp executed
  obtain ⟨serials, rows⟩ := after
  subst taken
  by_cases reads : query.isRead = true
  · have same : rows = before.rows := Tables.apply_of_isRead reads applied
    rw [same, take_of_isRead reads]
    exact .read reads
  cases query with
  | findUser _ | findAccount _ | listAccounts _ | findTransfer _ | listTransfers _ | findEntry _
  | listEntries _ | sumEntries _ => exact absurd rfl reads
  | insertUser new =>
    obtain ⟨usernameNew, emailNew, rfl, rfl⟩ := Tables.insertUser_eq_ok.mp applied
    exact .userStored usernameNew emailNew
  | updateUser change =>
    rcases Tables.updateUser_eq_ok.mp applied with
      ⟨missing, rfl, rfl⟩ | ⟨user, found, emailNew, rfl, rfl⟩
    · exact .userMissed missing
    · exact .userChanged found emailNew
  | insertAccount owner balance currency =>
    obtain ⟨holdingNew, owned, rfl, rfl⟩ := Tables.insertAccount_eq_ok.mp applied
    exact .accountOpened holdingNew owned
  | addBalance change =>
    rcases Tables.addBalance_eq_ok.mp applied with
      ⟨missing, rfl, rfl⟩ | ⟨account, found, inRange, rfl, rfl⟩
    · exact .balanceMissed missing
    · exact .balanceChanged found inRange
  | insertTransfer movement =>
    obtain ⟨positive, source, target, rfl, rfl⟩ := Tables.insertTransfer_eq_ok.mp applied
    exact .transferStored positive source target
  | insertEntry posting =>
    obtain ⟨nonzero, transfer, account, rfl, rfl⟩ := Tables.insertEntry_eq_ok.mp applied
    exact .entryStored nonzero transfer account

end Books

end Passbook.Ledger
