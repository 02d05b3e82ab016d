/-
**The rows belong together.**

Whatever a run did, in transactions that swallowed failures and in those that were undone, no key
stands twice in the rows and every row that a row names is there. An account is held in one of the
five currencies and its owner has one account in each at most, so a listing of five shows them all.

* `Tables.Integrity` — what the keys, the references and the checks of the tables promise.
* `mapM_load_eq_ok` — accounts that are loaded from rows are the accounts of these rows.
* `length_accountsOf_le` — an owner has no more accounts than there are currencies.
* `perform_listAccounts` — what a listing of accounts answers; `list_all` — a listing with room for
  all accounts of an owner shows them all.
* **`relational_integrity`** — the rows of every run have integrity, and all accounts can be loaded
  and listed.
-/

import Mathlib.Data.Set.List
import Passbook.Proofs.Money.AnyOrder
import Passbook.Proofs.Money.Bounds
import Passbook.Proofs.Run.History
import Passbook.Proofs.Run.Texts
import Passbook.Proofs.Store.Single

namespace Passbook

open Ledger (Query Books Tables AccountRow Exchange Refusal)

namespace Ledger

/-! ### Integrity -/

/-- No key stands twice, and every row that a row names is there. -/
structure Tables.Integrity (rows : Tables) : Prop where
  usernames : (rows.users.map (·.username)).Nodup
  emails : (rows.users.map (·.email)).Nodup
  accounts : (rows.accounts.map (·.id)).Nodup
  holdings : (rows.accounts.map fun account => (account.owner, account.currency)).Nodup
  transfers : (rows.transfers.map (·.id)).Nodup
  entries : (rows.entries.map (·.id)).Nodup
  owners : ∀ account ∈ rows.accounts, rows.HasUser account.owner
  currencies : ∀ account ∈ rows.accounts,
    account.currency ∈ ["USD", "CAD", "EUR", "MXN", "GBP"]
  ends : ∀ transfer ∈ rows.transfers, 0 < transfer.amount ∧
    rows.HasAccount transfer.source ∧ rows.HasAccount transfer.target
  postings : ∀ entry ∈ rows.entries, entry.amount ≠ 0 ∧
    rows.HasTransfer entry.transfer ∧ rows.HasAccount entry.account

theorem AccountRow.Readable.code {row : AccountRow} (readable : row.Readable) :
    row.currency ∈ ["USD", "CAD", "EUR", "MXN", "GBP"] := by
  obtain ⟨held, code⟩ := readable
  rw [← code]
  exact List.mem_map.mpr ⟨held, held.mem_all, rfl⟩

theorem Books.Sound.integrity {books : Books} (sound : books.Sound) (typed : books.rows.Typed) :
    books.rows.Integrity where
  usernames := sound.usernames
  emails := sound.emails
  accounts := sound.accounts.nodup
  holdings := sound.holdings
  transfers := sound.transfers.nodup
  entries := sound.entries.nodup
  owners := sound.owners
  currencies account stored := (typed account stored).2.code
  ends := sound.ends
  postings := sound.postings

/-! ### Accounts of an owner -/

/-- An owner has no more accounts than there are currencies. -/
theorem length_accountsOf_le {books : Books} (sound : books.Sound) (typed : books.rows.Typed)
    (owner : String) : (books.rows.accountsOf owner).length ≤ Currency.all.length := by
  have bound : (books.rows.accountsOf owner).length ≤
      (Currency.all.map fun held => (owner, held.code)).length := by
    refine Tables.length_filter_le sound fun account stored its => ?_
    obtain ⟨held, code⟩ := (typed account stored).2
    rw [AccountRow.holding, eq_of_beq its, ← code]
    exact List.mem_map.mpr ⟨held, held.mem_all, rfl⟩
  rwa [List.length_map] at bound

/-- A window with room for all rows shows them all. -/
theorem Tables.cut_all {ρ : Type} {limit : Int} {rows : List ρ} (room : rows.length ≤ limit) :
    Tables.cut ⟨limit, 0⟩ rows = .ok rows := by
  have least : 0 ≤ limit := Int.le_trans (Int.natCast_nonneg _) room
  refine Tables.cut_eq_ok.mpr ⟨Int.le_refl 0, least, ?_⟩
  exact (List.take_of_length_le (Int.le_toNat least |>.mpr room)).symm

theorem mapM_load_eq_ok {rows : List AccountRow} {accounts : List Account} :
    rows.mapM AccountRow.load = .ok accounts ↔ accounts.map Account.toRow = rows := by
  induction rows generalizing accounts with
  | nil =>
    rw [List.map_eq_nil_iff]
    constructor
    · intro loaded
      cases loaded
      rfl
    · rintro rfl
      rfl
  | cons row rest ih =>
    rw [List.mapM_cons, List.map_eq_cons_iff]
    constructor
    · intro loaded
      cases first : row.load with
      | error problem =>
        rw [first] at loaded
        cases loaded
      | ok account =>
        cases others : rest.mapM AccountRow.load with
        | error problem =>
          rw [first, others] at loaded
          cases loaded
        | ok later =>
          rw [first, others] at loaded
          cases loaded
          exact ⟨account, later, rfl, AccountRow.load_eq_ok.mp first, ih.mp others⟩
    · rintro ⟨account, later, rfl, first, others⟩
      rw [AccountRow.load_eq_ok.mpr first, ih.mpr others]
      rfl

/-- Rows in known currencies can all be loaded. -/
theorem exists_mapM_load {rows : List AccountRow} (readable : ∀ row ∈ rows, row.Readable) :
    ∃ accounts, rows.mapM AccountRow.load = .ok accounts := by
  have inRange : rows ∈ Set.range (List.map Account.toRow) := by
    rw [Set.range_list_map]
    intro row member
    obtain ⟨account, loads⟩ := (readable row member).load
    exact ⟨account, AccountRow.load_eq_ok.mp loads⟩
  obtain ⟨accounts, same⟩ := inRange
  exact ⟨accounts, mapM_load_eq_ok.mpr same⟩

/-! ### Listings of accounts -/

/-- **A listing with room for all accounts of an owner** shows them all, unless the ledger is in
trouble. -/
theorem list_all {ledger : Ledger} (laid : ledger.tables.isSome = true) {owner : String}
    (storable : '\x00' ∉ owner.toList)
    (readable : ∀ account ∈ ledger.rows.accounts, account.Readable) {limit : Int}
    (room : (ledger.rows.accountsOf owner).length ≤ limit) :
    (∃ accounts, (ledger.perform (Work.listAccounts ⟨owner, ⟨limit, 0⟩⟩)).1 = .ok accounts ∧
      accounts.map Account.toRow = ledger.rows.accountsOf owner) ∨
    ∃ error, (ledger.perform (Work.listAccounts ⟨owner, ⟨limit, 0⟩⟩)).1 =
      .error (.database error) ∧ ledger.Trouble error := by
  let query : Query := .listAccounts ⟨owner, ⟨limit, 0⟩⟩
  have clean : query.Clean := by
    show ([owner].any fun text => text.toList.contains '\x00') = false
    simpa using storable
  have executed : ledger.books.execute ledger.clock query =
      .ok (ledger.rows.accountsOf owner, ledger.books) :=
    Books.execute_eq_ok.mpr ⟨Tables.reading_eq_ok.mpr ⟨Tables.cut_all room, rfl⟩, rfl⟩
  have each : ∀ account ∈ ledger.rows.accountsOf owner, account.Readable :=
    fun account member => readable account (List.mem_filter.mp member).1
  obtain ⟨accounts, loaded⟩ := exists_mapM_load each
  rcases (Work.single_listAccounts _).shows clean laid executed loaded with gives | troubled
  · exact .inl ⟨accounts, gives, mapM_load_eq_ok.mp loaded⟩
  · exact .inr troubled

end Ledger

/-! ### Runs -/

/-- **The rows of every run belong together**: no key stands twice, every row that a row names is
there, amounts are of the sign that their table asks for, and every account is in one of the five
currencies. So every account can be loaded, no owner has more than five, and a listing of five shows
all accounts of a user, unless the database is in trouble. -/
theorem relational_integrity {past : List Exchange} {ledger : Ledger}
    (reachable : Reachable Call.Typed past ledger) :
    ledger.rows.Integrity ∧
    (∀ row ∈ ledger.rows.accounts,
      ∃ account, row.load = .ok account ∧ account.toRow = row) ∧
    (∀ owner, (ledger.rows.accountsOf owner).length ≤ 5) ∧
    ∀ owner, ledger.rows.HasUser owner →
      (∃ accounts, (ledger.perform (Work.listAccounts ⟨owner, ⟨5, 0⟩⟩)).1 = .ok accounts ∧
        accounts.map Account.toRow = ledger.rows.accountsOf owner) ∨
      ∃ error, (ledger.perform (Work.listAccounts ⟨owner, ⟨5, 0⟩⟩)).1 =
        .error (.database error) ∧ ledger.Trouble error := by
  have sound := reachable.sound
  have typed : ledger.rows.Typed := (Tables.typed.of_reachable reachable).holds
  have few : ∀ owner, (ledger.rows.accountsOf owner).length ≤ 5 :=
    Ledger.length_accountsOf_le sound typed
  refine ⟨sound.integrity typed, fun row stored => ?_, few, fun owner there => ?_⟩
  · obtain ⟨account, loads⟩ := (typed row stored).2.load
    exact ⟨account, loads, AccountRow.load_eq_ok.mp loads⟩
  · have storable := texts_storable reachable owner there.mem_texts
    refine Ledger.list_all (Ledger.laid_of_rows there.ne_empty) storable
      (fun account stored => (typed account stored).2) ?_
    exact Int.ofNat_le.mpr (few owner)

/-- Stores a user, and passes over the refusal of an account whose owner is not there. -/
def passesOver : Work Unit := do
  let _ ← Work.createUser ⟨"bob", "Bob", "bob@example.com"⟩
  let _ ← Work.outcome (Work.createAccount ⟨"nobody", 0, .usd⟩)

/-- Stores the user again, with an account. -/
def storesOwner : Work Unit := do
  let _ ← Work.createUser ⟨"bob", "Robert", "bob@example.com"⟩
  let _ ← Work.createAccount ⟨"bob", 7, .mxn⟩

/-- The demonstration data after a transaction that passed over a refusal, and so was undone, after
one that was kept, and after a second account in the same currency was refused. -/
def passedOver : Ledger :=
  (Operation.perform (Work.createAccount ⟨"bob", 0, .mxn⟩)).run <|
    (Operation.transact storesOwner).run <| (Operation.transact passesOver).run <|
      Operation.seed.run .fresh

theorem relational_integrity_passedOver :
    passedOver.rows.users.map (·.fullName) = ["Apu Apustaja", "Gondola Gondolier", "Robert"] ∧
      passedOver.rows.Integrity ∧
      ∃ accounts, (passedOver.perform (Work.listAccounts ⟨"bob", ⟨5, 0⟩⟩)).1 = .ok accounts ∧
        accounts.map Account.toRow = [⟨8, "bob", 7, "MXN", .newYear2024⟩] := by
  have opens : ∀ opening : AccountOpening,
      Text.IntegerRange.int64.contains opening.balance = true →
      (Work.createAccount opening).run.Asks fun query => Call.Typed (.query query) :=
    fun opening inRange => Work.asks_createAccount ⟨inRange, opening.currency, rfl⟩
  have passes : (Operation.transact passesOver).Within Call.Typed :=
    Script.asks_except_bind (Work.asks_ask _ trivial) fun _ =>
      Script.asks_except_bind
        (Script.asks_bind (opens ⟨"nobody", 0, .usd⟩ (by decide)) fun _ => trivial)
        fun _ => trivial
  have stores : (Operation.transact storesOwner).Within Call.Typed :=
    Script.asks_except_bind (Work.asks_ask _ trivial) fun _ =>
      Script.asks_except_bind (opens ⟨"bob", 7, .mxn⟩ (by decide)) fun _ => trivial
  have reachable : Reachable Call.Typed _ passedOver :=
    .step (.perform _) (.step (.transact storesOwner) (.step (.transact passesOver)
      (.step .seed .fresh trivial) passes) stores) (opens ⟨"bob", 0, .mxn⟩ (by decide))
  obtain ⟨integrity, _, _, lists⟩ := relational_integrity reachable
  refine ⟨by decide, integrity, ?_⟩
  have calm : passedOver.Calm := ⟨by decide, by decide, by decide⟩
  rcases lists "bob" ⟨⟨"bob", "Robert", "bob@example.com", .newYear2024⟩, by decide, rfl⟩ with
    all | ⟨error, _, trouble⟩
  · have rows : passedOver.rows.accountsOf "bob" = [⟨8, "bob", 7, "MXN", .newYear2024⟩] := by
      decide
    rwa [rows] at all
  · exact absurd trouble calm.not_trouble

end Passbook
