/-
**Races to register.**

Clients register users, change profiles and open accounts at a desk, and anything may happen between
their calls.

* `taken_of_insertUser`, `taken_of_insertAccount` — what one visit took is taken at every later one.
* `NewUser.Ends`, `ProfileChange.Ends`, `NewAccount.Ends` — the visits of a caller who is done, and
  the result by the replies to them; `register_ended`, `changeProfile_ended`, `openAccount_ended`.
* `Visit.Told`, `Visit.Foreign` — a key that was taken is told as such; a failure of the store does
  not come from the rows.
* `Orderly.one_answered` — of two statements that take the key of each other, one is answered at
  most.
* **`registration_races`** — of those who try for one name, or for one account, one succeeds at
  most, and the others are told so.
-/

import Passbook.Proofs.Run.Texts
import Passbook.Proofs.Service.Registration
import Passbook.Proofs.Traffic.Desk

namespace Passbook

open Ledger (Query Books Tables AccountRow Refusal Hindrance)

/-! ### What one visit leaves to later ones -/

namespace Ledger

variable {before after : Books} {ledger later : Ledger}

theorem Books.Extends.hasUser (extended : before.Extends after) {username : String}
    (there : before.rows.HasUser username) : after.rows.HasUser username := by
  obtain ⟨user, stored, rfl⟩ := there
  have lasts : user.lasting ∈ after.rows.users.map User.lasting :=
    extended.users.subset (List.mem_map_of_mem stored)
  obtain ⟨other, inside, same⟩ := List.mem_map.mp lasts
  exact ⟨other, inside, congrArg Prod.fst same⟩

/-- A user who was found stays. -/
theorem hasUser_of_findUser {username : String} {user : User}
    (found : (ledger.query (.findUser username)).1 = .ok (some user : Option User))
    (extended : (ledger.query (.findUser username)).2.books.Extends later.books) :
    later.rows.HasUser username :=
  extended.hasUser (found_of_findUser found)

/-- A username that was given away stays taken. -/
theorem taken_of_insertUser {new other : NewUser} (same : new.username = other.username)
    {stored : User} (answered : (ledger.query (.insertUser new)).1 = .ok stored)
    (extended : (ledger.query (.insertUser new)).2.books.Extends later.books) :
    later.rows.Taken (.insertUser other) := by
  obtain ⟨_, _, rfl, rows⟩ := Tables.insertUser_eq_ok.mp
    (Books.execute_eq_ok.mp (answering_of_query answered).books).1
  have there : (ledger.query (.insertUser new)).2.books.rows.HasUser new.username := by
    rw [rows]
    exact ⟨_, List.mem_append_right _ List.mem_cons_self, rfl⟩
  obtain ⟨user, inside, its⟩ := extended.hasUser there
  exact .username inside (its.trans same)

/-- An account that was opened stays. -/
theorem taken_of_insertAccount {owner currency : String} {balance : Int} {stored : AccountRow}
    (answered : (ledger.query (.insertAccount owner balance currency)).1 = .ok stored)
    (extended : (ledger.query (.insertAccount owner balance currency)).2.books.Extends
      later.books) : later.rows.Taken (.insertAccount owner balance currency) := by
  obtain ⟨_, _, rfl, rows⟩ := Tables.insertAccount_eq_ok.mp
    (Books.execute_eq_ok.mp (answering_of_query answered).books).1
  have lasts := extended.accounts.subset (by
    rw [rows]
    exact List.mem_map_of_mem (List.mem_append_right _ List.mem_cons_self))
  obtain ⟨row, inside, same⟩ := List.mem_map.mp lasts
  have its : row.owner = owner ∧ row.currency = currency :=
    ⟨congrArg (·.2.1) same, congrArg (·.2.2.1) same⟩
  exact .holding inside its.1 its.2

end Ledger

/-! ### Callers who are done -/

/-- How the registration of a user ends. -/
inductive NewUser.Ends (user : NewUser) : List Visit → Except ServiceError User → Prop
  | invalid (problem : ProfileError) : Ends user [] (.error problem.toService)
  | asked (caller : Nat) (ledger : Ledger) :
    Ends user [⟨caller, .query (.insertUser user), ledger⟩]
      ((ledger.query (.insertUser user)).1.mapError (Service.refusal user.claim))

/-- How the change of a profile ends. -/
inductive ProfileChange.Ends (change : ProfileChange) : List Visit → Except ServiceError User → Prop
  | invalid (problem : ProfileError) : Ends change [] (.error problem.toService)
  | changed {caller : Nat} {ledger : Ledger} {user : User}
    (replied : (ledger.query (.updateUser change)).1 = .ok (some user : Option User)) :
    Ends change [⟨caller, .query (.updateUser change), ledger⟩] (.ok user)
  | missed {caller : Nat} {ledger : Ledger}
    (replied : (ledger.query (.updateUser change)).1 = .ok (none : Option User)) :
    Ends change [⟨caller, .query (.updateUser change), ledger⟩]
      (.error (.userNotFound change.username))
  | failed {caller : Nat} {ledger : Ledger} {error : DatabaseError}
    (replied : (ledger.query (.updateUser change)).1 = .error error) :
    Ends change [⟨caller, .query (.updateUser change), ledger⟩]
      (.error (Service.refusal change.claim error))

/-- How the opening of an account ends. -/
inductive NewAccount.Ends (account : NewAccount) :
    List Visit → Except ServiceError Account → Prop
  | invalid (problem : RuleError) : Ends account [] (.error (.rule problem))
  | failed {caller : Nat} {ledger : Ledger} {error : DatabaseError}
    (replied : (ledger.query (.findUser account.owner)).1 = .error error) :
    Ends account [⟨caller, .query (.findUser account.owner), ledger⟩]
      (.error (.store (.database error)))
  | missed {caller : Nat} {ledger : Ledger}
    (replied : (ledger.query (.findUser account.owner)).1 = .ok (none : Option User)) :
    Ends account [⟨caller, .query (.findUser account.owner), ledger⟩]
      (.error (.userNotFound account.owner))
  | asked {caller caller' : Nat} {ledger later : Ledger} {owner : User} {currency : Currency}
    (known : Currency.ofCode account.currency = .ok currency)
    (replied : (ledger.query (.findUser account.owner)).1 = .ok (some owner : Option User))
    (owned : later.rows.HasUser account.owner) :
    Ends account [⟨caller, .query (.findUser account.owner), ledger⟩,
        ⟨caller', .query account.statement, later⟩]
      (Service.opened account.owner account.claim (later.query account.statement).1)

section Ended

variable {visits : List Visit} {user : NewUser} {change : ProfileChange} {account : NewAccount}

theorem register_ended {result : Except ServiceError User}
    (plays : Plays visits (Service.register user).run (.done result)) :
    user.Ends visits result := by
  rw [Service.register_run] at plays
  cases valid : user.validate with
  | error problem =>
    rw [valid] at plays
    cases plays
    exact .invalid problem
  | ok _ =>
    rw [valid] at plays
    cases plays with
    | asked later =>
      cases later
      exact .asked _ _

theorem changeProfile_ended {result : Except ServiceError User}
    (plays : Plays visits (Service.changeProfile change).run (.done result)) :
    change.Ends visits result := by
  rw [Service.changeProfile_run] at plays
  cases valid : change.patch.validate with
  | error problem =>
    rw [valid] at plays
    cases plays
    exact .invalid problem
  | ok _ =>
    rw [valid] at plays
    cases plays with
    | @asked caller _ ledger _ _ _ later =>
      rw [show ledger.answer (.query (.updateUser change)) = ledger.query _ from rfl] at later
      rcases replied : (ledger.query (.updateUser change)).1 with error | (none | user)
      all_goals
        rw [replied] at later
        cases later
      · exact .failed replied
      · exact .missed replied
      · exact .changed replied

/-- An owner who was found when looked for is there when the account is stored. -/
theorem openAccount_ended {result : Except ServiceError Account}
    (plays : Plays visits (Service.openAccount account).run (.done result))
    (ordered : visits.Pairwise Visit.Precedes) : account.Ends visits result := by
  rw [Service.openAccount_run] at plays
  cases known : Currency.ofCode account.currency with
  | error problem =>
    rw [known] at plays
    cases plays
    exact .invalid _
  | ok currency =>
    rw [known] at plays
    cases plays with
    | @asked caller _ ledger _ _ _ later =>
      rw [show ledger.answer (.query (.findUser account.owner)) = ledger.query _ from rfl] at later
      rcases replied : (ledger.query (.findUser account.owner)).1 with error | (none | owner)
      all_goals rw [replied] at later
      · cases later
        exact .failed replied
      · cases later
        exact .missed replied
      · cases later with
        | asked last =>
          rw [Currency.code_of_ofCode known] at ordered last ⊢
          cases last
          have precedes := (List.pairwise_cons.mp ordered).1 _ List.mem_cons_self
          exact .asked known replied (Ledger.hasUser_of_findUser replied precedes)

end Ended

theorem NewAccount.Ends.answered {account : NewAccount} {visits : List Visit} {opened : Account}
    (ends : account.Ends visits (.ok opened)) : ∃ caller ledger row,
      ⟨caller, .query account.statement, ledger⟩ ∈ visits ∧
        (ledger.query account.statement).1 = .ok row := by
  generalize succeeds : (.ok opened : Except ServiceError Account) = result at ends
  cases ends with
  | invalid _ | failed _ | missed _ => cases succeeds
  | asked known replied owned =>
    rcases opened_cases known (clean_statement known replied) owned with
      ⟨row, _, stored, _⟩ | ⟨_, told⟩ | ⟨_, _, _, told⟩
    · exact ⟨_, _, row, List.mem_cons_of_mem _ List.mem_cons_self, stored⟩
    · rw [told] at succeeds
      cases succeeds
    · rw [told] at succeeds
      cases succeeds

theorem NewUser.Ends.answered {user : NewUser} {visits : List Visit} {stored : User}
    (ends : user.Ends visits (.ok stored)) : ∃ caller ledger,
      ⟨caller, .query (.insertUser user), ledger⟩ ∈ visits ∧
        (ledger.query (.insertUser user)).1 = .ok stored := by
  generalize succeeds : (.ok stored : Except ServiceError User) = result at ends
  cases ends with
  | invalid _ => cases succeeds
  | asked caller ledger =>
    exact ⟨caller, ledger, List.mem_cons_self, mapError_eq_ok.mp succeeds.symm⟩

/-! ### What callers are told -/

/-- The result is what becomes of a key that was taken at a visit: it is told so, unless the ledger
was in trouble. -/
def Visit.Told {α : Type} (visit : Visit) (claim : String) (result : Except ServiceError α) :
    Prop :=
  ∀ query, visit.call = .query query → query.Clean → visit.ledger.rows.Taken query →
    result = .error (.alreadyExists claim) ∨
      ∃ error, (visit.ledger.query query).1 = .error error ∧ visit.ledger.Trouble error

/-- A failure of the store that does not come from the rows which the visit met. -/
def Visit.Foreign (visit : Visit) (error : StoreError) : Prop :=
  ∃ query cause, visit.call = .query query ∧ error = .database cause ∧
    Hindrance query visit.ledger cause

/-- A statement of which nothing but a taken key, or a hindrance, is told. -/
theorem foreign_of_refusal {query : Query} {caller : Nat} {ledger : Ledger} {claim : String}
    {cause : DatabaseError} {error : StoreError} (profile : query.table = .users)
    (fails : (ledger.query query).1 = .error cause)
    (told : Service.refusal claim cause = .store error) :
    Visit.Foreign ⟨caller, .query query, ledger⟩ error := by
  rcases Service.refusal_cases claim cause with taken | ⟨store, unique⟩
  · rw [taken] at told
    cases told
  · rw [store, ServiceError.store.injEq] at told
    refine ⟨query, cause, rfl, told.symm, ?_⟩
    rcases Ledger.hindered_or_refused fails with hindrance | ⟨refusal, rfl, refuses⟩
    · exact hindrance
    · obtain ⟨_, key, rfl⟩ := Tables.taken_of_refused refuses profile
      cases unique

namespace NewUser.Ends

variable {user : NewUser} {visits : List Visit}

theorem told {result : Except ServiceError User} (ends : user.Ends visits result) :
    ∀ visit ∈ visits, visit.Told user.claim result := by
  intro visit member query call clean taken
  cases ends with
  | invalid _ => cases member
  | asked caller ledger =>
    rw [List.mem_singleton.mp member] at call taken ⊢
    cases call
    rcases Ledger.reply_of_taken taken clean with ⟨key, fails⟩ | troubled
    · rw [fails]
      exact .inl rfl
    · exact .inr troubled

theorem foreign {error : StoreError} (ends : user.Ends visits (.error (.store error))) :
    ∃ visit ∈ visits, visit.Foreign error := by
  generalize fails : (.error (.store error) : Except ServiceError User) = result at ends
  cases ends with
  | invalid _ => cases fails
  | asked caller ledger =>
    refine ⟨_, List.mem_cons_self, ?_⟩
    rcases replied : (ledger.query (.insertUser user)).1 with cause | stored
    · rw [replied] at fails
      exact foreign_of_refusal rfl replied (Except.error.inj fails).symm
    · rw [replied] at fails
      cases fails

end NewUser.Ends

namespace ProfileChange.Ends

variable {change : ProfileChange} {visits : List Visit}

theorem told {result : Except ServiceError User} (ends : change.Ends visits result) :
    ∀ visit ∈ visits, visit.Told change.claim result := by
  intro visit member query call clean taken
  cases ends with
  | invalid _ => cases member
  | changed replied | missed replied =>
    rw [List.mem_singleton.mp member] at call taken
    cases call
    exact absurd replied (Ledger.not_answered_of_taken taken _)
  | failed replied =>
    rw [List.mem_singleton.mp member] at call taken ⊢
    cases call
    rcases Ledger.reply_of_taken taken clean with ⟨key, fails⟩ | troubled
    · rw [fails, Except.error.injEq] at replied
      rw [← replied]
      exact .inl rfl
    · exact .inr troubled

theorem foreign {error : StoreError} (ends : change.Ends visits (.error (.store error))) :
    ∃ visit ∈ visits, visit.Foreign error := by
  generalize fails : (.error (.store error) : Except ServiceError User) = result at ends
  cases ends with
  | invalid _ | changed _ | missed _ => cases fails
  | failed replied =>
    exact ⟨_, List.mem_cons_self, foreign_of_refusal rfl replied (Except.error.inj fails).symm⟩

/-- Who is told that the user is not there has met rows without the user. -/
theorem missed_user {name : String} (ends : change.Ends visits (.error (.userNotFound name))) :
    name = change.username ∧ ∃ visit ∈ visits,
      visit.call = .query (.updateUser change) ∧ ¬ visit.ledger.rows.HasUser change.username := by
  generalize fails : (.error (.userNotFound name) : Except ServiceError User) = result at ends
  cases ends with
  | invalid _ | changed _ => cases fails
  | @missed caller ledger replied =>
    cases fails
    exact ⟨rfl, _, List.mem_cons_self, rfl, Ledger.missing_of_updateUser replied⟩
  | @failed _ _ error replied =>
    rcases Service.refusal_cases change.claim error with taken | ⟨store, _⟩
    · rw [taken] at fails
      cases fails
    · rw [store] at fails
      cases fails

end ProfileChange.Ends

namespace NewAccount.Ends

variable {account : NewAccount} {visits : List Visit}

theorem lookup_ne {name : String} : Query.findUser name ≠ account.statement := by
  unfold statement
  exact Query.noConfusion

/-- Whoever comes to store an account finds its owner there, and opens it or is late. -/
theorem late {result : Except ServiceError Account} (ends : account.Ends visits result) :
    ∀ visit ∈ visits, visit.call = .query account.statement →
      visit.ledger.rows.HasUser account.owner ∧
      ((∃ opened, result = .ok opened) ∨ result = .error (.alreadyExists account.claim) ∨
        ∃ error, (visit.ledger.query account.statement).1 = .error error ∧
          visit.ledger.Trouble error) := by
  intro visit member call
  cases ends with
  | invalid _ => cases member
  | failed _ | missed _ =>
    rw [List.mem_singleton.mp member] at call
    exact absurd (Call.query.inj call) lookup_ne
  | asked known replied owned =>
    rcases List.mem_cons.mp member with rfl | here
    · exact absurd (Call.query.inj call) lookup_ne
    rw [List.mem_singleton.mp here]
    refine ⟨owned, ?_⟩
    rcases opened_cases known (clean_statement known replied) owned with
      ⟨_, opened, _, opens⟩ | ⟨_, told⟩ | ⟨error, fails, trouble, _⟩
    · exact .inl ⟨opened, opens⟩
    · exact .inr (.inl told)
    · exact .inr (.inr ⟨error, fails, trouble⟩)

theorem told {result : Except ServiceError Account} (ends : account.Ends visits result) :
    ∀ visit ∈ visits, visit.Told account.claim result := by
  intro visit member query call clean taken
  have looks : ∀ {caller : Nat} {ledger : Ledger},
      visit ≠ ⟨caller, .query (.findUser account.owner), ledger⟩ := by
    rintro _ _ rfl
    cases call
    cases taken
  cases ends with
  | invalid _ => cases member
  | failed _ | missed _ => exact absurd (List.mem_singleton.mp member) looks
  | asked known replied owned =>
    rcases List.mem_cons.mp member with look | here
    · exact absurd look looks
    rw [List.mem_singleton.mp here] at call taken ⊢
    cases call
    rcases opened_cases known clean owned with
      ⟨row, _, stored, _⟩ | ⟨_, told⟩ | ⟨error, fails, trouble, _⟩
    · exact absurd stored (Ledger.not_answered_of_taken taken row)
    · exact .inl told
    · exact .inr ⟨error, fails, trouble⟩

theorem foreign {error : StoreError} (ends : account.Ends visits (.error (.store error))) :
    ∃ visit ∈ visits, visit.Foreign error := by
  generalize fails : (.error (.store error) : Except ServiceError Account) = result at ends
  cases ends with
  | invalid _ | missed _ => cases fails
  | @failed caller ledger cause replied =>
    cases fails
    exact ⟨_, List.mem_cons_self, _, cause, rfl, rfl, Ledger.hindrance_of_findUser replied⟩
  | asked known replied owned =>
    refine ⟨_, List.mem_cons_of_mem _ List.mem_cons_self, ?_⟩
    rcases opened_cases known (clean_statement known replied) owned with
      ⟨_, _, _, told⟩ | ⟨_, told⟩ | ⟨cause, _, trouble, told⟩
    all_goals rw [told] at fails
    · cases fails
    · cases fails
    · rcases Service.openingRefusal_cases account.owner account.claim cause with
        opening | ⟨opening, _⟩ | opening
      all_goals rw [opening] at fails
      · cases fails
      · cases fails
      · cases fails
        exact ⟨_, cause, rfl, rfl, .trouble trouble⟩

/-- Who is told that the owner is not there has looked when the owner was not, or was told so by a
fault. -/
theorem missed_owner {name : String} (ends : account.Ends visits (.error (.userNotFound name))) :
    name = account.owner ∧
    ((∃ visit ∈ visits, visit.call = .query (.findUser account.owner) ∧
      ¬ visit.ledger.rows.HasUser account.owner) ∨
    ∃ visit ∈ visits, ∃ error, visit.ledger.Trouble error ∧ error.code? = some "23503") := by
  generalize fails : (.error (.userNotFound name) : Except ServiceError Account) = result at ends
  cases ends with
  | invalid _ | failed _ => cases fails
  | missed replied =>
    cases fails
    exact ⟨rfl, .inl ⟨_, List.mem_cons_self, rfl, Ledger.missing_of_findUser replied⟩⟩
  | asked known replied owned =>
    rcases opened_cases known (clean_statement known replied) owned with
      ⟨_, _, _, told⟩ | ⟨_, told⟩ | ⟨cause, _, trouble, told⟩
    all_goals rw [told] at fails
    · cases fails
    · cases fails
    · rcases Service.openingRefusal_cases account.owner account.claim cause with
        opening | ⟨opening, code⟩ | opening
      all_goals rw [opening] at fails
      · cases fails
      · cases fails
        exact ⟨rfl, .inr ⟨_, List.mem_cons_of_mem _ List.mem_cons_self, cause, trouble, code⟩⟩
      · cases fails

end NewAccount.Ends

/-! ### Races -/

/-- A command that lays claim to something, in the words for the caller. -/
inductive Command.Claims : {α : Type} → Command α → String → Prop
  | register (user : NewUser) : Claims (.register user) user.claim
  | changeProfile (change : ProfileChange) : Claims (.changeProfile change) change.claim
  | openAccount (account : NewAccount) : Claims (.openAccount account) account.claim

/-- How the races at a desk come out. -/
structure Desk.Resolved (desk : Desk) : Prop where
  /-- Of those who open one account, one succeeds at most. -/
  oneOpens : ∀ account first second one other,
    desk.Ended first (.openAccount account) (.ok one) →
    desk.Ended second (.openAccount account) (.ok other) → first = second
  /-- The owner of an account that is to be stored is there. The account is opened, or there is one
  already. -/
  othersLate : ∀ account number result, desk.Ended number (.openAccount account) result →
    ∀ visit ∈ desk.visitsOf number, visit.call = .query account.statement →
      visit.ledger.rows.HasUser account.owner ∧
      ((∃ opened, result = .ok opened) ∨ result = .error (.alreadyExists account.claim) ∨
        ∃ error, (visit.ledger.query account.statement).1 = .error error ∧
          visit.ledger.Trouble error)
  /-- Of those who register one name, one succeeds at most. -/
  oneRegisters : ∀ (user other : NewUser) first second one another,
    user.username = other.username → desk.Ended first (.register user) (.ok one) →
    desk.Ended second (.register other) (.ok another) → first = second
  /-- A key that is taken is told as such. -/
  conflictsTold : ∀ {α : Type} (command : Command α) claim number result,
    command.Claims claim → desk.Ended number command result →
    ∀ visit ∈ desk.visitsOf number, visit.Told claim result
  /-- A failure of the store does not come from the rows. -/
  failuresForeign : ∀ {α : Type} (command : Command α) claim number error,
    command.Claims claim → desk.Ended number command (.error (.store error)) →
    ∃ visit ∈ desk.visitsOf number, visit.Foreign error
  /-- Who is told that the owner is not there has looked when the owner was not; or a fault passed
  itself off as a missing reference. -/
  ownerMissed : ∀ account number name,
    desk.Ended number (.openAccount account) (.error (.userNotFound name)) →
    name = account.owner ∧
    ((∃ visit ∈ desk.visitsOf number, visit.call = .query (.findUser account.owner) ∧
      ¬ visit.ledger.rows.HasUser account.owner) ∨
    ∃ visit ∈ desk.visitsOf number, ∃ error, visit.ledger.Trouble error ∧
      error.code? = some "23503")
  /-- Who is told that the user is not there has met rows without the user. -/
  userMissed : ∀ change number name,
    desk.Ended number (.changeProfile change) (.error (.userNotFound name)) →
    name = change.username ∧ ∃ visit ∈ desk.visitsOf number,
      visit.call = .query (.updateUser change) ∧ ¬ visit.ledger.rows.HasUser change.username

namespace Desk.Orderly

variable {desk : Desk} (orderly : desk.Orderly)

include orderly

theorem register {number : Nat} {user : NewUser} {result : Except ServiceError User}
    (ended : desk.Ended number (.register user) result) :
    user.Ends (desk.visitsOf number) result :=
  register_ended (orderly.plays number _ ended)

theorem changeProfile {number : Nat} {change : ProfileChange} {result : Except ServiceError User}
    (ended : desk.Ended number (.changeProfile change) result) :
    change.Ends (desk.visitsOf number) result :=
  changeProfile_ended (orderly.plays number _ ended)

theorem openAccount {number : Nat} {account : NewAccount} {result : Except ServiceError Account}
    (ended : desk.Ended number (.openAccount account) result) :
    account.Ends (desk.visitsOf number) result :=
  openAccount_ended (orderly.plays number _ ended) (orderly.ordered.filter _)

/-- Two statements are not both answered to different callers if each takes the key of the other. -/
theorem one_answered {query query' : Query} {first second caller caller' : Nat}
    {ledger ledger' : Ledger} {answer : query.Answer} {answer' : query'.Answer}
    (paid : ⟨caller, .query query, ledger⟩ ∈ desk.visitsOf first)
    (paid' : ⟨caller', .query query', ledger'⟩ ∈ desk.visitsOf second)
    (answered : (ledger.query query).1 = .ok answer)
    (answered' : (ledger'.query query').1 = .ok answer')
    (takes : (ledger.query query).2.books.Extends ledger'.books → ledger'.rows.Taken query')
    (takes' : (ledger'.query query').2.books.Extends ledger.books → ledger.rows.Taken query) :
    first = second := by
  obtain ⟨member, rfl⟩ := of_mem_visitsOf paid
  obtain ⟨member', rfl⟩ := of_mem_visitsOf paid'
  refine Classical.byContradiction fun different => ?_
  rcases orderly.precedes member member' different with before | before
  · exact Ledger.not_answered_of_taken (takes before) _ answered'
  · exact Ledger.not_answered_of_taken (takes' before) _ answered

theorem one_opens {account : NewAccount} {first second : Nat} {one other : Account}
    (ended : desk.Ended first (.openAccount account) (.ok one))
    (ended' : desk.Ended second (.openAccount account) (.ok other)) : first = second := by
  obtain ⟨_, _, _, paid, stored⟩ := (orderly.openAccount ended).answered
  obtain ⟨_, _, _, paid', stored'⟩ := (orderly.openAccount ended').answered
  exact orderly.one_answered paid paid' stored stored' (Ledger.taken_of_insertAccount stored)
    (Ledger.taken_of_insertAccount stored')

theorem one_registers {user other : NewUser} {first second : Nat} {one another : User}
    (same : user.username = other.username)
    (ended : desk.Ended first (.register user) (.ok one))
    (ended' : desk.Ended second (.register other) (.ok another)) : first = second := by
  obtain ⟨_, _, paid, stored⟩ := (orderly.register ended).answered
  obtain ⟨_, _, paid', stored'⟩ := (orderly.register ended').answered
  exact orderly.one_answered paid paid' stored stored' (Ledger.taken_of_insertUser same stored)
    (Ledger.taken_of_insertUser same.symm stored')

end Desk.Orderly

/-- **Races to register are resolved**, whatever the order of the calls and whatever else happens
between them. -/
theorem registration_races {desk : Desk} (attended : Attended desk) : desk.Resolved := by
  have orderly := attended.orderly
  refine ⟨fun _ _ _ _ _ => orderly.one_opens, fun _ _ _ ended => (orderly.openAccount ended).late,
    fun _ _ _ _ _ _ => orderly.one_registers, ?_, ?_,
    fun _ _ _ ended => (orderly.openAccount ended).missed_owner,
    fun _ _ _ ended => (orderly.changeProfile ended).missed_user⟩
  · intro α command claim number result claims ended
    cases claims with
    | register user => exact (orderly.register ended).told
    | changeProfile change => exact (orderly.changeProfile ended).told
    | openAccount account => exact (orderly.openAccount ended).told
  · intro α command claim number error claims ended
    cases claims with
    | register user => exact (orderly.register ended).foreign
    | changeProfile change => exact (orderly.changeProfile ended).foreign
    | openAccount account => exact (orderly.openAccount ended).foreign

/-- Two clients open the same account: both find its owner before either stores it. A third comes
too late for the name of the owner. -/
def twiceOpened : Desk :=
  let opening : NewAccount := ⟨"bob", "USD"⟩
  (Desk.start .fresh).run [.enter (.register ⟨"bob", "Bob", "bob@example.com"⟩),
    .enter (.register ⟨"bob", "Robert", "robert@example.com"⟩), .enter (.openAccount opening),
    .enter (.openAccount opening), .turn 0, .turn 2, .turn 3, .turn 3, .aside .seed, .turn 1,
    .turn 2]

theorem registration_races_twiceOpened :
    twiceOpened.Ended 1 (.register ⟨"bob", "Robert", "robert@example.com"⟩)
        (.error (.alreadyExists "user bob")) ∧
      twiceOpened.Ended 2 (.openAccount ⟨"bob", "USD"⟩)
        (.error (.alreadyExists "USD account for bob")) ∧
      twiceOpened.Ended 3 (.openAccount ⟨"bob", "USD"⟩)
        (.ok ⟨1, "bob", 0, .usd, .newYear2024⟩) ∧
      twiceOpened.Resolved :=
  ⟨rfl, rfl, rfl, registration_races (Attended.fresh.run _)⟩

end Passbook
