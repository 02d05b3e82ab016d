/-
**Registering users and opening accounts, question by question.**

* `register_run`, `changeProfile_run`, `openAccount_run` — what each of these asks of the store, and
  what it makes of the replies.
* `Tables.Taken rows query` — a row stands in the way of a statement, with a value that must be
  unique; `Taken.refuses` — the rows then refuse the statement as a duplicate.
* `taken_of_refused`, `refused_insertAccount` — they refuse these statements for nothing else, apart
  from an account whose owner is not there.
* **`NewAccount.opened_cases`** — what becomes of an account whose owner is there.
-/

import Passbook.Proofs.Run.Texts
import Passbook.Proofs.Service.Calls
import Passbook.Proofs.Store.Outcome
import Passbook.Proofs.Store.Settlement

namespace Passbook

open Ledger (Query Books Tables AccountRow Refusal)
open Time (Instant)

/-! ### What is asked, and what is told -/

/-- What a new user lays claim to, in the words for the caller. -/
def NewUser.claim (user : NewUser) : String :=
  s!"user {user.username}"

/-- What a changed profile lays claim to. -/
def ProfileChange.claim (change : ProfileChange) : String :=
  let email := change.patch.email.getD ""
  s!"email {email}"

/-- What a new account lays claim to. -/
def NewAccount.claim (account : NewAccount) : String :=
  s!"{account.currency} account for {account.owner}"

namespace Service

/-- What is told of a statement that failed; `what` is what it laid claim to. -/
def refusal (what : String) (error : DatabaseError) : ServiceError :=
  if (StoreError.database error).isUniqueViolation then .alreadyExists what
  else .store (.database error)

/-- What is told of an account that was not opened. -/
def openingRefusal (owner what : String) (error : DatabaseError) : ServiceError :=
  if (StoreError.database error).isUniqueViolation then .alreadyExists what
  else if (StoreError.database error).isForeignKeyViolation then .userNotFound owner
  else .store (.database error)

theorem refusal_cases (what : String) (error : DatabaseError) :
    refusal what error = .alreadyExists what ∨
      (refusal what error = .store (.database error) ∧
        (StoreError.database error).isUniqueViolation = false) := by
  unfold refusal
  cases (StoreError.database error).isUniqueViolation with
  | true => exact .inl rfl
  | false => exact .inr ⟨rfl, rfl⟩

theorem openingRefusal_cases (owner what : String) (error : DatabaseError) :
    openingRefusal owner what error = .alreadyExists what ∨
      (openingRefusal owner what error = .userNotFound owner ∧ error.code? = some "23503") ∨
      openingRefusal owner what error = .store (.database error) := by
  unfold openingRefusal
  cases (StoreError.database error).isUniqueViolation with
  | true => exact .inl rfl
  | false =>
    cases missing : (StoreError.database error).isForeignKeyViolation with
    | true => exact .inr (.inl ⟨rfl, eq_of_beq missing⟩)
    | false => exact .inr (.inr rfl)

theorem throw_refusal {α : Type} (what : String) (error : DatabaseError) :
    (throw (refusal what error) : Dialogue α) =
      if (StoreError.database error).isUniqueViolation then throw (.alreadyExists what)
      else throw (.store (.database error)) := by
  rw [refusal, apply_ite throw]

theorem throw_openingRefusal {α : Type} (owner what : String) (error : DatabaseError) :
    (throw (openingRefusal owner what error) : Dialogue α) =
      if (StoreError.database error).isUniqueViolation then throw (.alreadyExists what)
      else if (StoreError.database error).isForeignKeyViolation then throw (.userNotFound owner)
      else throw (.store (.database error)) := by
  rw [openingRefusal, apply_ite throw, apply_ite throw]

theorem register_run (user : NewUser) : (register user).run =
    match user.validate with
    | .error problem => .done (.error problem.toService)
    | .ok _ => .ask (.query (.insertUser user)) fun reply =>
      .done (reply.mapError (refusal user.claim)) := by
  unfold register
  cases user.validate with
  | error problem => rfl
  | ok _ =>
    refine congrArg (Script.ask (Call.query (.insertUser user))) (funext fun reply => ?_)
    rcases reply with error | stored
    · exact congrArg ExceptT.run (throw_refusal _ error).symm
    · rfl

/-- What is told of a profile that was to be changed. -/
def changed (change : ProfileChange) : Except DatabaseError (Option User) → Except ServiceError User
  | .ok (some user) => .ok user
  | .ok none => .error (.userNotFound change.username)
  | .error error => .error (refusal change.claim error)

theorem changeProfile_run (change : ProfileChange) : (changeProfile change).run =
    match change.patch.validate with
    | .error problem => .done (.error problem.toService)
    | .ok _ => .ask (.query (.updateUser change)) fun reply => .done (changed change reply) := by
  unfold changeProfile
  cases change.patch.validate with
  | error problem => rfl
  | ok _ =>
    refine congrArg (Script.ask (Call.query (.updateUser change))) (funext fun reply => ?_)
    rcases reply with error | found
    · exact congrArg ExceptT.run (throw_refusal _ error).symm
    · cases found <;> rfl

/-- An account that was stored, or what is told when it was not. -/
def opened (owner what : String) (reply : Except DatabaseError AccountRow) :
    Except ServiceError Account :=
  (reply.bind AccountRow.load).mapError (openingRefusal owner what)

theorem openAccount_run (account : NewAccount) : (openAccount account).run =
    match Currency.ofCode account.currency with
    | .error problem => .done (.error (.rule (.unsupportedCurrency problem)))
    | .ok currency => .ask (.query (.findUser account.owner)) fun reply =>
      match reply with
      | .error error => .done (.error (.store (.database error)))
      | .ok none => .done (.error (.userNotFound account.owner))
      | .ok (some _) => .ask (.query (.insertAccount account.owner 0 currency.code)) fun reply =>
        .done (opened account.owner account.claim reply) := by
  unfold openAccount
  cases known : Currency.ofCode account.currency with
  | error problem => rfl
  | ok currency =>
    rw [NewAccount.claim, ← Currency.code_of_ofCode known]
    refine congrArg (Script.ask (Call.query (.findUser account.owner))) (funext fun reply => ?_)
    rcases reply with error | found
    · rfl
    cases found with
    | none => rfl
    | some owner =>
      refine congrArg (Script.ask (Call.query _)) (funext fun reply => ?_)
      rcases reply with error | row
      · exact congrArg ExceptT.run (throw_openingRefusal _ _ error).symm
      · dsimp only [opened, Except.bind, Script.done_bind, ExceptT.bindCont, Except.mapError]
        cases row.load with
        | error problem => exact congrArg ExceptT.run (throw_openingRefusal _ _ problem).symm
        | ok account => rfl

end Service

/-! ### Keys that are taken -/

namespace Ledger

open Tables (patched)

/-- A row stands in the way of a statement, with a value that no two rows may share. -/
inductive Tables.Taken (rows : Tables) : Query → Prop
  | username {new : NewUser} {other : User} (stored : other ∈ rows.users)
    (same : other.username = new.username) : Taken rows (.insertUser new)
  | email {new : NewUser} {other : User} (stored : other ∈ rows.users)
    (same : other.email = new.email) : Taken rows (.insertUser new)
  | newEmail {change : ProfileChange} {user other : User}
    (found : rows.user? change.username = some user) (stored : other ∈ rows.users)
    (apart : other.username ≠ user.username)
    (same : other.email = (patched user change.patch).email) : Taken rows (.updateUser change)
  | holding {owner currency : String} {balance : Int} {other : AccountRow}
    (stored : other ∈ rows.accounts) (its : other.owner = owner)
    (same : other.currency = currency) : Taken rows (.insertAccount owner balance currency)

namespace Tables

variable {now : Instant} {refusal : Refusal} {books : Books} {query : Query}

/-- **A key that is taken** is refused as a duplicate. -/
theorem Taken.refuses (taken : books.rows.Taken query) :
    ∃ key, books.execute now query = .error (.duplicate key) := by
  cases taken with
  | @username new other stored same =>
    exact ⟨_, execute_eq_error.mpr (insertUser_eq_error.mpr (.inl ⟨⟨other, stored, same⟩, rfl⟩))⟩
  | @email new other stored same =>
    by_cases named : ∃ other ∈ books.rows.users, other.username = new.username
    · exact ⟨_, execute_eq_error.mpr (insertUser_eq_error.mpr (.inl ⟨named, rfl⟩))⟩
    · have free : ∀ other ∈ books.rows.users, other.username ≠ new.username :=
        fun other inside its => named ⟨other, inside, its⟩
      exact ⟨_, execute_eq_error.mpr
        (insertUser_eq_error.mpr (.inr ⟨free, ⟨other, stored, same⟩, rfl⟩))⟩
  | @newEmail change user other found stored apart same =>
    exact ⟨_, execute_eq_error.mpr
      (updateUser_eq_error.mpr ⟨user, found, ⟨other, stored, apart, same⟩, rfl⟩)⟩
  | @holding owner currency balance other stored its same =>
    exact ⟨_, execute_eq_error.mpr
      (insertAccount_eq_error.mpr (.inl ⟨⟨other, stored, its, same⟩, rfl⟩))⟩

theorem Taken.ne_empty {rows : Tables} (taken : rows.Taken query) :
    rows ≠ .empty := by
  rintro rfl
  cases taken with
  | username stored _ | email stored _ | newEmail _ stored _ _ | holding stored _ _ => cases stored

/-- The rows refuse a new or changed profile only for a key that is taken. -/
theorem taken_of_refused (refuses : books.execute now query = .error refusal)
    (profile : query.table = .users) :
    books.rows.Taken query ∧ ∃ key, refusal = .duplicate key := by
  have applied := execute_eq_error.mp refuses
  cases query with
  | insertUser new =>
    rcases insertUser_eq_error.mp applied with
      ⟨⟨other, stored, same⟩, rfl⟩ | ⟨_, ⟨other, stored, same⟩, rfl⟩
    · exact ⟨.username stored same, _, rfl⟩
    · exact ⟨.email stored same, _, rfl⟩
  | updateUser change =>
    obtain ⟨user, found, ⟨other, stored, apart, same⟩, rfl⟩ := updateUser_eq_error.mp applied
    exact ⟨.newEmail found stored apart same, _, rfl⟩
  | findUser username => cases applied
  | insertAccount _ _ _ | findAccount _ | listAccounts _ | addBalance _ | insertTransfer _
  | findTransfer _ | listTransfers _ | insertEntry _ | findEntry _ | listEntries _
  | sumEntries _ => cases profile

/-- The rows refuse an account of an owner who is there only if the owner has one already. -/
theorem refused_insertAccount {owner currency : String} {balance : Int}
    (refuses : books.execute now (.insertAccount owner balance currency) = .error refusal)
    (owned : books.rows.HasUser owner) :
    books.rows.Taken (.insertAccount owner balance currency) ∧ ∃ key, refusal = .duplicate key := by
  rcases insertAccount_eq_error.mp (execute_eq_error.mp refuses) with
    ⟨⟨other, stored, its, same⟩, rfl⟩ | ⟨_, missing, _⟩
  · exact ⟨.holding stored its same, _, rfl⟩
  · exact absurd owned missing

end Tables

/-! ### Replies -/

variable {query : Query} {ledger : Ledger}

/-- A statement is not answered where its key is taken. -/
theorem not_answered_of_taken (taken : ledger.rows.Taken query)
    (answer : query.Answer) : (ledger.query query).1 ≠ .ok answer := by
  intro answered
  have refused : ∃ key, ledger.books.execute ledger.clock query = .error (.duplicate key) :=
    Tables.Taken.refuses taken
  obtain ⟨key, refuses⟩ := refused
  rw [(answering_of_query answered).books] at refuses
  cases refuses

/-- Where its key is taken, a statement is refused as a duplicate, unless the ledger is in
trouble. -/
theorem reply_of_taken (taken : ledger.rows.Taken query) (clean : query.Clean) :
    (∃ key, (ledger.query query).1 = .error (.ofRefusal (.duplicate key))) ∨
      ∃ error, (ledger.query query).1 = .error error ∧ ledger.Trouble error := by
  cases replied : (ledger.query query).1 with
  | ok answer => exact absurd replied (not_answered_of_taken taken answer)
  | error error =>
    rcases hindered_or_refused replied with hindrance | ⟨refusal, rfl, refuses⟩
    · exact .inr ⟨error, rfl, hindrance.trouble_of_clean clean (laid_of_rows taken.ne_empty)⟩
    · have refused : ∃ key, ledger.books.execute ledger.clock query = .error (.duplicate key) :=
        Tables.Taken.refuses taken
      obtain ⟨key, duplicate⟩ := refused
      rw [refuses, Except.error.injEq] at duplicate
      rw [duplicate]
      exact .inl ⟨key, rfl⟩

/-- The rows refuse no lookup. -/
theorem hindrance_of_findUser {username : String} {error : DatabaseError}
    (fails : (ledger.query (.findUser username)).1 = .error error) :
    Hindrance (.findUser username) ledger error := by
  rcases hindered_or_refused fails with hindrance | ⟨refusal, _, refuses⟩
  · exact hindrance
  · cases (Tables.taken_of_refused refuses rfl).1

/-- A lookup answers what is in the rows, and leaves them. -/
theorem user?_of_findUser {username : String} {found : Option User}
    (replied : (ledger.query (.findUser username)).1 = .ok found) :
    ledger.rows.user? username = found ∧
      ledger.rows = (ledger.query (.findUser username)).2.rows := by
  have applied := (Books.execute_eq_ok.mp (answering_of_query replied).books).1
  have read : .ok (ledger.rows.user? username, ledger.rows) =
    (.ok (found, (ledger.query (.findUser username)).2.rows) :
      Except Refusal (Option User × Tables)) := applied
  rwa [Except.ok.injEq, Prod.mk.injEq] at read

/-- A user who was found is there. -/
theorem found_of_findUser {username : String} {user : User}
    (replied : (ledger.query (.findUser username)).1 = .ok (some user : Option User)) :
    (ledger.query (.findUser username)).2.rows.HasUser username := by
  obtain ⟨found, rows⟩ := user?_of_findUser replied
  rw [← rows]
  exact ⟨user, Tables.user?_eq_some found⟩

/-- A user who was not found is not there. -/
theorem missing_of_findUser {username : String}
    (replied : (ledger.query (.findUser username)).1 = .ok (none : Option User)) :
    ¬ ledger.rows.HasUser username := by
  rw [← Tables.user?_isNone, (user?_of_findUser replied).1]
  exact fun there => there rfl

/-- Nor is one whose profile was not found to be changed. -/
theorem missing_of_updateUser {change : ProfileChange}
    (replied : (ledger.query (.updateUser change)).1 = .ok (none : Option User)) :
    ¬ ledger.rows.HasUser change.username := by
  have applied := (Books.execute_eq_ok.mp (answering_of_query replied).books).1
  rcases Tables.updateUser_eq_ok.mp applied with ⟨missing, _⟩ | ⟨_, _, _, wrong, _⟩
  · rw [← Tables.user?_isNone]
    exact fun there => there (Option.isNone_iff_eq_none.mpr missing)
  · cases wrong

end Ledger

/-! ### Accounts of owners who are there -/

/-- The statement that opens an account. -/
def NewAccount.statement (account : NewAccount) : Query :=
  .insertAccount account.owner 0 account.currency

/-- The rows of an answered lookup have no U+0000 in the name of the owner, nor has a currency. -/
theorem NewAccount.clean_statement {account : NewAccount} {ledger : Ledger} {found : Option User}
    {currency : Currency} (known : Currency.ofCode account.currency = .ok currency)
    (replied : (ledger.query (.findUser account.owner)).1 = .ok found) :
    account.statement.Clean := by
  have owner : (Query.findUser account.owner).hasNul = false := Ledger.clean_of_query replied
  have code : account.currency.toList.contains '\x00' = false := by
    rw [← Currency.code_of_ofCode known]
    cases currency <;> decide
  show ([account.owner, account.currency].any fun text => text.toList.contains '\x00') = false
  rw [List.any_cons, List.any_cons, code]
  exact owner

/-- **An account of an owner who is there** is opened, or there is one already, unless the ledger is
in trouble. -/
theorem NewAccount.opened_cases {account : NewAccount} {ledger : Ledger} {currency : Currency}
    (known : Currency.ofCode account.currency = .ok currency) (clean : account.statement.Clean)
    (owned : ledger.rows.HasUser account.owner) :
    (∃ row opened, (ledger.query account.statement).1 = .ok row ∧
      Service.opened account.owner account.claim (ledger.query account.statement).1 =
        .ok opened) ∨
    (ledger.rows.Taken account.statement ∧
      Service.opened account.owner account.claim (ledger.query account.statement).1 =
        .error (.alreadyExists account.claim)) ∨
    ∃ error, (ledger.query account.statement).1 = .error error ∧ ledger.Trouble error ∧
      Service.opened account.owner account.claim (ledger.query account.statement).1 =
        .error (Service.openingRefusal account.owner account.claim error) := by
  cases replied : (ledger.query account.statement).1 with
  | ok row =>
    have books := (Ledger.answering_of_query replied).books
    obtain ⟨_, _, same, _⟩ := Tables.insertAccount_eq_ok.mp (Books.execute_eq_ok.mp books).1
    have readable : AccountRow.Readable row := by
      rw [same]
      exact ⟨currency, Currency.code_of_ofCode known⟩
    obtain ⟨opened, loads⟩ := readable.load
    exact .inl ⟨row, opened, rfl, congrArg (Except.mapError _) loads⟩
  | error error =>
    rcases Ledger.hindered_or_refused replied with hindrance | ⟨refusal, rfl, refuses⟩
    · have trouble := hindrance.trouble_of_clean clean (Ledger.laid_of_rows owned.ne_empty)
      exact .inr (.inr ⟨error, rfl, trouble, rfl⟩)
    · obtain ⟨taken, key, rfl⟩ := Tables.refused_insertAccount refuses owned
      exact .inr (.inl ⟨taken, rfl⟩)

end Passbook
