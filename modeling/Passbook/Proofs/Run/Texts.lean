/-
**What is stored was said.**

A statement that holds the character U+0000 is never answered, whether it stands on its own or in a
transaction. Every text in the rows comes from a statement that was answered, so none holds it.

* `Ledger.clean_of_query`, `Session.clean_of_query` — an answered statement has storable texts;
  `Reachable.storable` — so have all answered statements of a run.
* `Tables.texts` — the texts in the rows; `texts_of_execute` — an executed statement adds none but
  its own.
* **`texts_storable`** — after every run no text in the rows holds U+0000.
-/

import Passbook.Proofs.Run.Invariant

namespace Passbook

open Ledger (Query Books Tables Exchange Session)
open Ledger.Tables (patched)
open Time (Instant)

/-! ### Answered statements -/

namespace Ledger

variable {query : Query} {answer : query.Answer} {ledger : Ledger} {session : Session}

theorem clean_of_attempt (answered : (ledger.attempt query).1 = .ok answer) :
    query.hasNul = false := by
  unfold attempt at answered
  cases nul : query.hasNul with
  | false => rfl
  | true =>
    rw [if_pos nul] at answered
    cases answered

theorem clean_of_query (answered : (ledger.query query).1 = .ok answer) : query.hasNul = false := by
  unfold Ledger.query at answered
  cases access : ledger.access.check with
  | error error =>
    rw [access] at answered
    cases answered
  | ok _ =>
    rw [access] at answered
    cases attempted : (ledger.attempt query).1 with
    | ok given => exact clean_of_attempt attempted
    | error failure =>
      have mapped : (ledger.attempt query).1.mapError Failure.error = .ok answer := answered
      rw [attempted] at mapped
      cases mapped

theorem Session.clean_of_query (answered : (session.query query).1 = .ok answer) :
    query.hasNul = false := by
  unfold Session.query at answered
  cases standing : session.standing with
  | lost | aborted =>
    rw [standing] at answered
    cases answered
  | running =>
    rw [standing] at answered
    rcases attempted : session.ledger.attempt query with ⟨failure | given, after⟩
    · rw [attempted] at answered
      cases answered
    · exact clean_of_attempt (congrArg Prod.fst attempted)

/-- If the statement was answered, each of its texts can be stored. -/
def Exchange.Storable (exchange : Exchange) : Prop :=
  exchange.Answered → exchange.query.hasNul = false

theorem storable_heard (query : Query) (ledger : Ledger) :
    ∀ exchange ∈ ledger.heard query, exchange.Storable := by
  intro exchange member
  rw [List.mem_singleton.mp member]
  exact fun ⟨_, answered⟩ => clean_of_query answered

theorem storable_exchanges {α : Type} (work : Work α) (ledger : Ledger) :
    ∀ exchange ∈ ledger.exchanges work, exchange.Storable := by
  rcases ledger.transact_cases work with ⟨_, _, _, _, heard, _⟩ | ⟨start, _, _, heard, _⟩
  · rw [heard]
    exact fun _ member => by cases member
  · rw [heard]
    refine Script.mem_notes_of_asks (fun query session _ exchange member => ?_)
      (Script.asks_true work.run)
    rw [List.mem_singleton.mp member]
    exact fun ⟨_, answered⟩ => Session.clean_of_query answered

theorem storable_heardOf (call : Call) (ledger : Ledger) :
    ∀ exchange ∈ ledger.heardOf call, exchange.Storable := by
  cases call with
  | query query => exact storable_heard query ledger
  | transfer movement =>
    show ∀ exchange ∈ ledger.transferExchanges movement, exchange.Storable
    unfold transferExchanges
    by_cases nothing : movement.amount ≤ 0
    · rw [if_pos nothing]
      exact fun _ member => by cases member
    · rw [if_neg nothing]
      exact storable_exchanges movement.settle ledger

end Ledger

theorem Operation.storable_exchanges (operation : Operation) (ledger : Ledger) :
    ∀ exchange ∈ operation.exchanges ledger, exchange.Storable := by
  have heardIn : ∀ {α : Type} (script : Script Call Call.Reply α),
      ∀ exchange ∈ ledger.heardIn script, exchange.Storable := fun script =>
    Script.mem_notes_of_asks (fun call ledger _ => Ledger.storable_heardOf call ledger)
      (Script.asks_true script)
  cases operation with
  | perform work =>
    exact Script.mem_notes_of_asks (fun query ledger _ => Ledger.storable_heard query ledger)
      (Script.asks_true work.run)
  | transact work => exact Ledger.storable_exchanges work ledger
  | transfer movement => exact Ledger.storable_heardOf (.transfer movement) ledger
  | seed => exact Ledger.storable_exchanges _ ledger
  | migrate | surround _ _ _ => exact fun _ member => by cases member
  | register _ | changeProfile _ | openAccount _ | pay _ _ | request _ _ _ => exact heardIn _

variable {may : Call → Prop} {past : List Exchange} {ledger : Ledger}

/-- Every statement that was answered in a run has texts that can be stored. -/
theorem Reachable.storable (reachable : Reachable may past ledger) :
    ∀ exchange ∈ past, exchange.Storable := by
  induction reachable with
  | blank | fresh => exact fun _ member => by cases member
  | step operation _ _ ih =>
    exact List.forall_mem_append.mpr ⟨ih, operation.storable_exchanges _⟩

/-! ### Stored texts -/

def User.texts (user : User) : List String :=
  [user.username, user.fullName, user.email]

namespace Ledger

def AccountRow.texts (account : AccountRow) : List String :=
  [account.owner, account.currency]

namespace Tables

/-- The texts in the rows. -/
def texts (tables : Tables) : List String :=
  tables.users.flatMap User.texts ++ tables.accounts.flatMap AccountRow.texts

variable {tables : Tables} {text : String}

theorem mem_texts : text ∈ tables.texts ↔
    (∃ user ∈ tables.users, text ∈ user.texts) ∨
      ∃ account ∈ tables.accounts, text ∈ account.texts := by
  rw [texts, List.mem_append, List.mem_flatMap, List.mem_flatMap]

theorem mem_texts_of_user {user : User} (stored : user ∈ tables.users) (its : text ∈ user.texts) :
    text ∈ tables.texts :=
  mem_texts.mpr (.inl ⟨user, stored, its⟩)

theorem mem_texts_of_account {account : AccountRow} (stored : account ∈ tables.accounts)
    (its : text ∈ account.texts) : text ∈ tables.texts :=
  mem_texts.mpr (.inr ⟨account, stored, its⟩)

theorem HasUser.mem_texts {username : String} (there : tables.HasUser username) :
    username ∈ tables.texts := by
  obtain ⟨user, stored, rfl⟩ := there
  exact mem_texts_of_user stored List.mem_cons_self

/-- Each part of a patched profile is one that stood there or one of the patch. -/
theorem texts_patched {user : User} {change : ProfileChange}
    (its : text ∈ (patched user change.patch).texts) :
    text ∈ user.texts ∨ text ∈ (Query.updateUser change).texts := by
  have given : text ∈ change.patch.fullName.toList ++ change.patch.email.toList →
      text ∈ (Query.updateUser change).texts := List.mem_cons_of_mem _
  have chosen : ∀ {part : Option String} {old : String}, text = part.getD old →
      text = old ∨ text ∈ part.toList := fun {part old} same => by
    cases part with
    | none => exact .inl same
    | some new => exact .inr (Option.mem_toList.mpr (congrArg some same.symm))
  simp only [User.texts, List.mem_cons, List.not_mem_nil, or_false] at its ⊢
  rcases its with username | name | email
  · exact .inl (.inl username)
  · rcases chosen name with old | new
    · exact .inl (.inr (.inl old))
    · exact .inr (given (List.mem_append_left _ new))
  · rcases chosen email with old | new
    · exact .inl (.inr (.inr old))
    · exact .inr (given (List.mem_append_right _ new))

/-- Balances are no texts. -/
theorem texts_settled (now : Instant) (movement : Movement) (before : Books) :
    (movement.settled now before).rows.texts = before.rows.texts := by
  show _ ++ List.flatMap AccountRow.texts (List.map _ before.rows.accounts) = _
  rw [List.flatMap_map]
  rfl

end Tables

open Tables (mem_texts_of_user mem_texts_of_account)

variable {now : Instant} {before after : Books}

/-- **An executed statement adds no text but its own.** -/
theorem texts_of_execute {query : Query} {answer : query.Answer}
    (executed : before.execute now query = .ok (answer, after)) :
    ∀ text ∈ after.rows.texts, text ∈ before.rows.texts ∨ text ∈ query.texts := by
  intro text member
  cases Books.effect_of_execute executed with
  | read _ | userMissed _ | balanceMissed _ | transferStored _ _ _ | entryStored _ _ _ =>
    exact .inl member
  | userStored _ _ =>
    rcases Tables.mem_texts.mp member with ⟨user, stored, its⟩ | ⟨account, stored, its⟩
    · rcases List.mem_append.mp stored with earlier | here
      · exact .inl (mem_texts_of_user earlier its)
      · rw [List.mem_singleton.mp here] at its
        exact .inr its
    · exact .inl (mem_texts_of_account stored its)
  | @userChanged change user found _ =>
    rcases Tables.mem_texts.mp member with ⟨row, stored, its⟩ | ⟨account, stored, its⟩
    · rcases mem_put stored with rfl | ⟨earlier, _⟩
      · exact (Tables.texts_patched its).imp_left
          (mem_texts_of_user (Tables.user?_eq_some found).1)
      · exact .inl (mem_texts_of_user earlier its)
    · exact .inl (mem_texts_of_account stored its)
  | accountOpened _ _ =>
    rcases Tables.mem_texts.mp member with ⟨user, stored, its⟩ | ⟨account, stored, its⟩
    · exact .inl (mem_texts_of_user stored its)
    · rcases List.mem_append.mp stored with earlier | here
      · exact .inl (mem_texts_of_account earlier its)
      · rw [List.mem_singleton.mp here] at its
        exact .inr its
  | @balanceChanged change account found _ =>
    rcases Tables.mem_texts.mp member with ⟨user, stored, its⟩ | ⟨row, stored, its⟩
    · exact .inl (mem_texts_of_user stored its)
    · rcases mem_put stored with rfl | ⟨earlier, _⟩
      · exact .inl (mem_texts_of_account (Tables.account?_eq_some found).1 its)
      · exact .inl (mem_texts_of_account earlier its)

end Ledger

/-- Every text in the rows was said in a statement that was answered. -/
def Ledger.Tables.said (may : Call → Prop) : Invariant may where
  holds past books := ∀ text ∈ books.rows.texts, ∃ exchange ∈ past,
    exchange.Answered ∧ text ∈ exchange.query.texts
  empty := fun _ member => by cases member
  hear said _ text member := by
    obtain ⟨exchange, earlier, its⟩ := said text member
    exact ⟨exchange, List.mem_append_left _ earlier, its⟩
  apply _ _ said executed text member := by
    rcases Ledger.texts_of_execute executed text member with stored | given
    · obtain ⟨exchange, earlier, its⟩ := said text stored
      exact ⟨exchange, List.mem_append_left _ earlier, its⟩
    · exact ⟨_, List.mem_append_right _ List.mem_cons_self, ⟨_, rfl⟩, given⟩
  move _ _ said settles _ _ text member := by
    rw [settles.books, Tables.texts_settled] at member
    obtain ⟨exchange, earlier, its⟩ := said text member
    exact ⟨exchange, List.mem_append_left _ earlier, its⟩

/-- **No stored text holds U+0000**, whatever the statements of the run were. -/
theorem texts_storable {may : Call → Prop} {past : List Exchange} {ledger : Ledger}
    (reachable : Reachable may past ledger) :
    ∀ text ∈ ledger.rows.texts, '\x00' ∉ text.toList := by
  intro text stored nul
  obtain ⟨exchange, heard, answered, said⟩ :=
    ((Tables.said may).of_reachable reachable).holds text stored
  have clean : exchange.query.hasNul = false := reachable.storable exchange heard answered
  have without := List.any_eq_false.mp clean text said
  exact without (List.contains_iff_mem.mpr nul)

end Passbook
