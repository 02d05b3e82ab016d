/-
**What a success of a transaction says of its rows.**

A `Key` names a row of one of the tables, and `lastWritten exchanges key` is the row that statements
last stored or changed under a key, as they answered it.

* `Books.Executes.row?` — after statements executed one after another, a key finds the row last
  written under it, and what it found before if there is none.
* **`transact_ok_keeps_iff`** — when a transaction succeeds, the rows last written in it are all
  there exactly when none of its statements was refused, or when they all stood there before. A
  refusal that its work passes over undoes the whole transaction, and the success is answered
  nonetheless (`transact_ok_loses_row`).
-/

import Passbook.Proofs.Ledger.Sound
import Passbook.Proofs.Ledger.Transaction

namespace Passbook.Ledger

open Time (Instant)

/-! ### Rows and their keys -/

/-- A row of one of the tables. -/
inductive Row where
  | user (user : User)
  | account (account : AccountRow)
  | transfer (transfer : Transfer)
  | entry (entry : Entry)
  deriving DecidableEq

/-- What a row is found by. -/
inductive Key where
  | user (username : String)
  | account (id : Int)
  | transfer (id : Int)
  | entry (id : Int)
  deriving DecidableEq

def Row.key : Row → Key
  | user row => .user row.username
  | account row => .account row.id
  | transfer row => .transfer row.id
  | entry row => .entry row.id

def Tables.row? (tables : Tables) : Key → Option Row
  | .user username => (tables.user? username).map .user
  | .account id => (tables.account? id).map .account
  | .transfer id => (tables.transfer? id).map .transfer
  | .entry id => (tables.entry? id).map .entry

/-- The row that a statement stored or changed, by its answer. -/
def Query.written? : (query : Query) → query.Answer → Option Row
  | insertUser _, user => some (.user user)
  | updateUser _, (user : Option User) => user.map .user
  | insertAccount _ _ _, account => some (.account account)
  | addBalance _, (account : Option AccountRow) => account.map .account
  | insertTransfer _, transfer => some (.transfer transfer)
  | insertEntry _, entry => some (.entry entry)
  | _, _ => none

def Exchange.written? : Exchange → Option Row
  | ⟨query, .ok answer⟩ => query.written? answer
  | ⟨_, .error _⟩ => none

/-- The row that was last written under a key. -/
def lastWritten : List Exchange → Key → Option Row
  | [], _ => none
  | exchange :: rest, key =>
    (lastWritten rest key).or (exchange.written?.filter fun row => row.key == key)

/-! ### Reading back -/

namespace Books

variable {now : Instant} {before after : Books}

/-- The row of another key does not matter. -/
theorem or_of_key_ne {row : Row} {key : Key} (apart : row.key ≠ key) (found : Option Row) :
    found = ((some row).filter fun row => row.key == key).or found := by
  rw [Option.filter_some, if_neg (by simpa using apart), Option.none_or]

/-- The rows of one table among all rows, with the column by which they are found. -/
structure Kind (ρ κ : Type) where
  row : ρ → Row
  column : ρ → κ
  name : κ → Key
  keyed : ∀ r, (row r).key = name (column r)
  names : ∀ k k', name k = name k' → k = k'

namespace Kind

def user : Kind User String :=
  ⟨.user, (·.username), .user, fun _ => rfl, fun _ _ => Key.user.inj⟩

def account : Kind AccountRow Int :=
  ⟨.account, (·.id), .account, fun _ => rfl, fun _ _ => Key.account.inj⟩

def transfer : Kind Transfer Int :=
  ⟨.transfer, (·.id), .transfer, fun _ => rfl, fun _ _ => Key.transfer.inj⟩

def entry : Kind Entry Int :=
  ⟨.entry, (·.id), .entry, fun _ => rfl, fun _ _ => Key.entry.inj⟩

variable {ρ κ : Type} [DecidableEq κ] (kind : Kind ρ κ) {row : ρ} {rows : List ρ}

theorem map_ite (found : Option ρ) (k : κ) :
    (if kind.column row = k then some row else found).map kind.row =
      ((some (kind.row row)).filter fun row => row.key == kind.name k).or (found.map kind.row) := by
  by_cases here : kind.column row = k
  · have same : (kind.row row).key = kind.name k := by rw [kind.keyed, here]
    rw [if_pos here, Option.filter_some, if_pos (by simpa using same)]
    rfl
  · rw [if_neg here]
    refine or_of_key_ne (fun same => here ?_) _
    exact kind.names _ _ ((kind.keyed row).symm.trans same)

theorem map_snoc (new : ∀ other ∈ rows, kind.column other ≠ kind.column row) (k : κ) :
    ((rows ++ [row]).find? (kind.column · == k)).map kind.row =
      ((some (kind.row row)).filter fun row => row.key == kind.name k).or
        ((rows.find? (kind.column · == k)).map kind.row) := by
  rw [find?_snoc new, map_ite]

theorem map_put (row : ρ) (stored : ∃ other ∈ rows, kind.column other = kind.column row) (k : κ) :
    ((put kind.column row rows).find? (kind.column · == k)).map kind.row =
      ((some (kind.row row)).filter fun row => row.key == kind.name k).or
        ((rows.find? (kind.column · == k)).map kind.row) := by
  rw [find?_put stored, map_ite]

end Kind

/-- **A statement writes one row at most**, and every other key finds what it found before. -/
theorem row?_of_execute (sound : before.Sound) {query : Query} {answer : query.Answer}
    (executed : before.execute now query = .ok (answer, after)) (key : Key) :
    after.rows.row? key =
      ((query.written? answer).filter fun row => row.key == key).or (before.rows.row? key) := by
  cases effect_of_execute executed with
  | read reads =>
    cases query with
    | insertUser _ | updateUser _ | insertAccount _ _ _ | addBalance _ | insertTransfer _
    | insertEntry _ => cases reads
    | findUser _ | findAccount _ | listAccounts _ | findTransfer _ | listTransfers _ | findEntry _
    | listEntries _ | sumEntries _ => rfl
  | userMissed missing => rfl
  | balanceMissed missing => rfl
  | userStored usernameNew emailNew =>
    cases key with
    | user username => exact Kind.user.map_snoc usernameNew username
    | account _ | transfer _ | entry _ => exact or_of_key_ne (by simp [Row.key]) _
  | @userChanged change user found emailNew =>
    cases key with
    | user username =>
      exact Kind.user.map_put (Tables.patched user change.patch)
        ⟨user, (Tables.user?_eq_some found).1, rfl⟩ username
    | account _ | transfer _ | entry _ => exact or_of_key_ne (by simp [Row.key]) _
  | accountOpened holdingNew owned =>
    have new : ∀ other ∈ before.rows.accounts, other.id ≠ before.serials.accounts + 1 :=
      fun other member => sound.accounts.ne_next (List.mem_map_of_mem member)
    cases key with
    | account id => exact Kind.account.map_snoc new id
    | user _ | transfer _ | entry _ => exact or_of_key_ne (by simp [Row.key]) _
  | @balanceChanged change account found inRange =>
    cases key with
    | account id =>
      exact Kind.account.map_put (Tables.added account change.amount)
        ⟨account, (Tables.account?_eq_some found).1, rfl⟩ id
    | user _ | transfer _ | entry _ => exact or_of_key_ne (by simp [Row.key]) _
  | transferStored positive source target =>
    have new : ∀ other ∈ before.rows.transfers, other.id ≠ before.serials.transfers + 1 :=
      fun other member => sound.transfers.ne_next (List.mem_map_of_mem member)
    cases key with
    | transfer id => exact Kind.transfer.map_snoc new id
    | user _ | account _ | entry _ => exact or_of_key_ne (by simp [Row.key]) _
  | entryStored nonzero transfer account =>
    have new : ∀ other ∈ before.rows.entries, other.id ≠ before.serials.entries + 1 :=
      fun other member => sound.entries.ne_next (List.mem_map_of_mem member)
    cases key with
    | entry id => exact Kind.entry.map_snoc new id
    | user _ | account _ | transfer _ => exact or_of_key_ne (by simp [Row.key]) _

theorem Executes.row? {exchanges : List Exchange} (sound : before.Sound)
    (executes : Executes now exchanges before after) (key : Key) :
    after.rows.row? key = (lastWritten exchanges key).or (before.rows.row? key) := by
  induction executes with
  | nil books => rfl
  | cons step _ ih =>
    rw [ih (sound.execute step), row?_of_execute sound step, lastWritten, Option.or_assoc]
    rfl

end Books

/-! ### A transaction that succeeds -/

variable {α : Type} {work : Work α} {ledger : Ledger}

/-- The rows last written in a transaction are all there. -/
def Keeps (work : Work α) (ledger : Ledger) : Prop :=
  ∀ key row, lastWritten (ledger.exchanges work) key = some row →
    (ledger.transact work).2.rows.row? key = some row

/-- The rows last written in a transaction stood there before. -/
def Idle (work : Work α) (ledger : Ledger) : Prop :=
  ∀ key row, lastWritten (ledger.exchanges work) key = some row → ledger.rows.row? key = some row

/-- **What a success keeps.** Where a transaction succeeds and no statement of it was refused, a key
finds the row last written under it, or what it found before. Where one was refused, the rows are
those before, so that what was written is kept only if it stood there already. -/
theorem transact_ok_keeps_iff {value : α} (sound : ledger.books.Sound)
    (succeeds : (ledger.transact work).1 = .ok value) :
    ((∀ exchange ∈ ledger.exchanges work, exchange.Answered) → ∀ key,
      (ledger.transact work).2.rows.row? key =
        (lastWritten (ledger.exchanges work) key).or (ledger.rows.row? key)) ∧
    ((∃ exchange ∈ ledger.exchanges work, ¬ exchange.Answered) →
      (ledger.transact work).2.rows = ledger.rows) ∧
    (ledger.Keeps work ↔
      (∀ exchange ∈ ledger.exchanges work, exchange.Answered) ∨ ledger.Idle work) := by
  have kept : (∀ exchange ∈ ledger.exchanges work, exchange.Answered) → ∀ key,
      (ledger.transact work).2.rows.row? key =
        (lastWritten (ledger.exchanges work) key).or (ledger.rows.row? key) := fun answered key =>
    (executes_of_lands (lands_of_ok succeeds answered)).row? sound key
  have undone : (∃ exchange ∈ ledger.exchanges work, ¬ exchange.Answered) →
      (ledger.transact work).2.rows = ledger.rows := by
    rintro ⟨exchange, member, refused⟩
    have fails : ¬ ledger.Lands work := fun ⟨_, _, _, answered, _⟩ =>
      refused (answered exchange member)
    rw [rows, rows, tables_of_not_lands fails]
  refine ⟨kept, undone, ?_⟩
  by_cases answered : ∀ exchange ∈ ledger.exchanges work, exchange.Answered
  · refine ⟨fun _ => .inl answered, fun _ key row written => ?_⟩
    rw [kept answered key, written, Option.some_or]
  · have refused : ∃ exchange ∈ ledger.exchanges work, ¬ exchange.Answered := by
      simpa using answered
    have same := undone refused
    constructor
    · intro keeps
      refine .inr fun key row written => ?_
      rw [← same]
      exact keeps key row written
    · rintro (all | idle) key row written
      · exact absurd all answered
      · rw [same]
        exact idle key row written

/-- A user who is stored in a transaction is found after it. -/
theorem transact_ok_keeps_user :
    (fresh.transact (Work.createUser bob)).1 =
        .ok ⟨"bob", "Bob", "bob@example.com", .newYear2024⟩ ∧
      fresh.Keeps (Work.createUser bob) := by
  have answered : ∀ exchange ∈ fresh.exchanges (Work.createUser bob), exchange.Answered := by
    intro exchange member
    rcases List.mem_singleton.mp member with rfl
    exact ⟨_, rfl⟩
  have sound : fresh.books.Sound := Books.sound_empty {}
  exact ⟨rfl, (transact_ok_keeps_iff sound rfl).2.2.mpr (.inl answered)⟩

/-- Stores a user, tries to store the same user again, and goes on. -/
def storeTwice : Work Unit := do
  let _ ← Work.createUser bob
  let _ ← (Work.createUser bob).outcome
  return ()

/-- A success may lose a row: the second statement is refused, the work succeeds, and the user whom
the first statement stored is not there. -/
theorem transact_ok_loses_row :
    (fresh.transact storeTwice).1 = .ok () ∧
      (fresh.transact storeTwice).2.rows.row? (.user "bob") = none ∧ ¬ fresh.Keeps storeTwice := by
  refine ⟨rfl, rfl, fun keeps => ?_⟩
  have found : (none : Option Row) = some (.user ⟨"bob", "Bob", "bob@example.com", .newYear2024⟩) :=
    keeps (.user "bob") _ rfl
  cases found

end Passbook.Ledger
