/-
**What accounts were opened with.**

An `Opening` is the number of an account with the balance that it was opened with, and `openings
past` are the openings among the statements of a run, those of transactions that were undone
included.

* `openings_of_hands` — whatever becomes of a statement, the openings keep numbers of their own.
* `accounts_of_execute` — a statement that adds to no balance leaves the accounts as they are, or
  opens one more.
-/

import Passbook.Proofs.Run.Invariant

namespace Passbook

open Ledger (Query Books Tables AccountRow Exchange Numbered Serials)
open Time (Instant)

/-- An account with the balance that it was opened with. -/
structure Opening where
  account : Int
  balance : Int
  deriving DecidableEq

/-- The opening that a statement brought about. -/
def Ledger.Exchange.opening? : Exchange → Option Opening
  | ⟨.insertAccount _ balance _, .ok (account : AccountRow)⟩ => some ⟨account.id, balance⟩
  | _ => none

def openings (past : List Exchange) : List Opening :=
  past.filterMap Exchange.opening?

/-- The balance that an account was opened with. -/
def openedWith (past : List Exchange) (account : Int) : Int :=
  (((openings past).find? fun opening => opening.account == account).map (·.balance)).getD 0

theorem opening?_error {query : Query} {error : DatabaseError} :
    Exchange.opening? ⟨query, .error error⟩ = none := by
  cases query <;> rfl

theorem opening?_of_isRead {query : Query} {answer : query.Answer} (reads : query.isRead = true) :
    Exchange.opening? ⟨query, .ok answer⟩ = none := by
  cases query with
  | insertAccount _ _ _ => cases reads
  | insertUser _ | findUser _ | updateUser _ | findAccount _ | listAccounts _ | addBalance _
  | insertTransfer _ | findTransfer _ | listTransfers _ | insertEntry _ | findEntry _
  | listEntries _ | sumEntries _ => rfl

theorem openings_snoc {past : List Exchange} {exchange : Exchange}
    (other : exchange.opening? = none) : openings (past ++ [exchange]) = openings past := by
  rw [openings, List.filterMap_append, openings]
  simp [other]

theorem openings_snoc_insertAccount (past : List Exchange) (owner currency : String) (balance : Int)
    (account : AccountRow) :
    openings (past ++ [⟨.insertAccount owner balance currency, .ok account⟩]) =
      openings past ++ [⟨account.id, balance⟩] := by
  rw [openings, List.filterMap_append, openings]
  rfl

theorem openings_append_of_movesMoney {past exchanges : List Exchange}
    (moving : ∀ exchange ∈ exchanges, exchange.query.MovesMoney) :
    openings (past ++ exchanges) = openings past := by
  have nothing : exchanges.filterMap Exchange.opening? = [] := by
    rw [List.filterMap_eq_nil_iff]
    intro exchange member
    have moves := moving exchange member
    obtain ⟨query, reply⟩ := exchange
    cases query with
    | addBalance _ | insertTransfer _ | insertEntry _ => rfl
    | insertUser _ | findUser _ | updateUser _ | insertAccount _ _ _ | findAccount _
    | listAccounts _ | findTransfer _ | listTransfers _ | findEntry _ | listEntries _
    | sumEntries _ => cases moves
  rw [openings, List.filterMap_append, nothing, List.append_nil, openings]

/-- An opening has a number of its own, whatever becomes of the account's row. -/
theorem openings_of_hands {past : List Exchange} {serials later : Serials} {exchange : Exchange}
    (numbers : Numbered serials.accounts ((openings past).map (·.account)))
    (hands : serials.Hands exchange later) :
    Numbered later.accounts ((openings (past ++ [exchange])).map (·.account)) ∧
      ∀ opening ∈ openings past, opening ∈ openings (past ++ [exchange]) := by
  have others : exchange.opening? = none →
      Numbered later.accounts ((openings (past ++ [exchange])).map (·.account)) ∧
        ∀ opening ∈ openings past, opening ∈ openings (past ++ [exchange]) := by
    intro other
    rw [openings_snoc other]
    exact ⟨numbers.mono hands.le.accounts, fun _ known => known⟩
  cases hands with
  | kept error => exact others opening?_error
  | wasted error => exact others opening?_error
  | @answered query answer now before next applied =>
    by_cases reads : query.isRead = true
    · exact others (opening?_of_isRead reads)
    cases query with
    | insertAccount owner balance currency =>
      obtain ⟨_, _, made, _⟩ := Tables.insertAccount_eq_ok.mp applied
      have number : AccountRow.id answer = serials.accounts + 1 := congrArg AccountRow.id made
      have opens := openings_snoc_insertAccount past owner currency balance answer
      rw [number] at opens
      rw [opens]
      refine ⟨?_, fun opening known => List.mem_append_left _ known⟩
      rw [List.map_append]
      exact numbers.snoc
    | insertUser _ | findUser _ | updateUser _ | findAccount _ | listAccounts _ | addBalance _
    | insertTransfer _ | findTransfer _ | listTransfers _ | insertEntry _ | findEntry _
    | listEntries _ | sumEntries _ => exact others rfl

/-! ### Accounts and statements -/

/-- A statement that adds to a balance. -/
def Ledger.Query.AddsBalance : Query → Prop
  | .addBalance _ => True
  | _ => False

theorem Ledger.Query.AddsBalance.movesMoney {query : Query} (adds : query.AddsBalance) :
    query.MovesMoney := by
  cases query with
  | addBalance _ => exact trivial
  | insertUser _ | findUser _ | updateUser _ | insertAccount _ _ _ | findAccount _ | listAccounts _
  | insertTransfer _ | findTransfer _ | listTransfers _ | insertEntry _ | findEntry _
  | listEntries _ | sumEntries _ => exact adds.elim

/-- **A statement that adds to no balance** leaves the accounts as they are, or opens one more under
the next number. -/
theorem accounts_of_execute {now : Instant} {before after : Books} {query : Query}
    {answer : query.Answer} (leaves : ¬ query.AddsBalance)
    (executed : before.execute now query = .ok (answer, after)) :
    after.rows.accounts = before.rows.accounts ∨
      ∃ account : AccountRow,
        query = .insertAccount account.owner account.balance account.currency ∧
        account.id = before.serials.accounts + 1 ∧
        (∀ past, openings (past ++ [⟨query, .ok answer⟩]) =
          openings past ++ [⟨account.id, account.balance⟩]) ∧
        after.rows.accounts = before.rows.accounts ++ [account] := by
  cases Books.effect_of_execute executed with
  | read _ | userStored _ _ | userMissed _ | userChanged _ _ | balanceMissed _
  | transferStored _ _ _ | entryStored _ _ _ => exact .inl rfl
  | @accountOpened owner currency balance _ _ =>
    exact .inr ⟨⟨before.serials.accounts + 1, owner, balance, currency, now⟩, rfl, rfl,
      fun past => openings_snoc_insertAccount past owner currency balance _, rfl⟩
  | balanceChanged _ _ => exact absurd trivial leaves

end Passbook
