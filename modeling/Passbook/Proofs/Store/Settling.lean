/-
**When a transfer is settled.**

The work of a transfer of something between two accounts that are there can miss only in three ways.

* `Movement.Fits rows` — both changes of balance stay in the range of the column, one after the
  other.
* `Movement.Misses rows error` — a change leaves the range, one of the accounts is held in no
  currency that is known, or the source is overdrawn.
* **`Movement.settle_cases`** — otherwise the transfer is settled.
* `Ledger.origin_of_transfer`, `Calm.transfer_cases` — what follows for a transfer in a ledger.
-/

import Passbook.Proofs.Store.Outcome
import Passbook.Proofs.Store.Settlement

namespace Passbook

open Ledger (Query Books Tables AccountRow Exchange)
open Time (Instant)

variable {α β : Type}

namespace Ledger

/-! ### Works on the books, forwards -/

namespace Books

variable {now : Instant} {before between : Books}

theorem perform_bind_of_ok {first : Work α} {rest : α → Work β} {value : α}
    (succeeds : before.perform now first = (.ok value, between)) :
    before.perform now (first >>= rest) = between.perform now (rest value) := by
  have split : before.perform now (first >>= rest) =
      Script.run (reply now) (ExceptT.bindCont rest (before.perform now first).1)
        (before.perform now first).2 := Script.run_bind _ _ _ _
  rw [split, succeeds]
  rfl

theorem perform_bind_of_error {first : Work α} {rest : α → Work β} {error : StoreError}
    (fails : (before.perform now first).1 = .error error) :
    (before.perform now (first >>= rest)).1 = .error error := by
  have split : before.perform now (first >>= rest) =
      Script.run (reply now) (ExceptT.bindCont rest (before.perform now first).1)
        (before.perform now first).2 := Script.run_bind _ _ _ _
  rw [split, fails]
  rfl

theorem perform_ask_of_error {query : Query} {refusal : Refusal}
    (refuses : before.execute now query = .error refusal) :
    (before.perform now (Work.ask query)).1 = .error (.database (.ofRefusal refusal)) := by
  show (before.reply now query).1.mapError StoreError.database = _
  simp only [reply, refuses]
  rfl

end Books

/-! ### Accounts -/

theorem Tables.HasAccount.account? {tables : Tables} {id : Int} (there : tables.HasAccount id) :
    ∃ row, tables.account? id = some row := by
  rw [← Tables.account?_isNone, Option.isNone_iff_eq_none] at there
  exact Option.ne_none_iff_exists'.mp there

theorem AccountRow.load_eq_error {row : AccountRow} {problem : DatabaseError} :
    row.load = .error problem ↔
      Currency.ofCode? row.currency = none ∧
        problem = .missingColumn "FromRow: try_from failed" := by
  unfold load
  cases Currency.ofCode? row.currency with
  | none => simp [eq_comm]
  | some held => simp

/-- Whether an account can be loaded does not depend on its balance. -/
theorem AccountRow.load_added_eq_error {row : AccountRow} {amount : Int} {problem : DatabaseError} :
    (Tables.added row amount).load = .error problem ↔ row.load = .error problem := by
  rw [load_eq_error, load_eq_error]
  exact Iff.rfl

section Adding

variable {now : Instant} {before : Books} {change : BalanceChange} {row : AccountRow}
  (found : before.rows.account? change.account = some row)

include found

/-- A balance that would leave the range of the column is not changed. -/
theorem Books.perform_addBalance_of_wide
    (wide : Text.IntegerRange.int64.contains (row.balance + change.amount) = false) :
    (before.perform now (Work.addBalance change)).1 =
      .error (.database (.ofRefusal .outOfRange)) := by
  refine perform_bind_of_error (perform_ask_of_error (execute_eq_error.mpr ?_))
  show before.rows.addBalance change = _
  simp only [Tables.addBalance, found, wide, Bool.false_eq_true, if_false]
  rfl

theorem Books.perform_ask_addBalance
    (inRange : Text.IntegerRange.int64.contains (row.balance + change.amount) = true) :
    before.perform now (Work.ask (.addBalance change)) =
      (.ok (some (Tables.added row change.amount)),
        { before with rows := before.rows.adding row change.amount }) :=
  perform_ask_eq_ok.mpr (execute_eq_ok.mpr
    ⟨Tables.addBalance_eq_ok.mpr (.inr ⟨row, found, inRange, rfl, rfl⟩), rfl⟩)

/-- A balance that stays in the range of the column is changed, and the account is given when its
currency is known. -/
theorem Books.perform_addBalance_of_load (sound : before.Sound) {account : Account}
    (inRange : Text.IntegerRange.int64.contains (row.balance + change.amount) = true)
    (loads : (Tables.added row change.amount).load = .ok account) :
    before.perform now (Work.addBalance change) = (.ok account, before.balanced change) := by
  have adds : before.perform now (Work.addBalance change) =
      (.ok account, { before with rows := before.rows.adding row change.amount }) :=
    perform_bind_eq_ok.mpr
      ⟨_, _, perform_ask_addBalance found inRange, perform_load_eq_ok.mpr ⟨loads, rfl⟩⟩
  obtain ⟨_, balanced, _⟩ := perform_addBalance sound adds
  rw [adds, balanced]

/-- A statement that adds to the balance of an account that is there leaves the range of the column,
or finds a currency that is not known, or is executed. -/
theorem Books.perform_addBalance_cases (now : Instant) (sound : before.Sound) :
    (Text.IntegerRange.int64.contains (row.balance + change.amount) = false ∧
      (before.perform now (Work.addBalance change)).1 =
        .error (.database (.ofRefusal .outOfRange))) ∨
    (∃ problem, row.load = .error problem ∧
      (before.perform now (Work.addBalance change)).1 = .error (.database problem)) ∨
    (∃ account, (Tables.added row change.amount).load = .ok account ∧
      before.perform now (Work.addBalance change) = (.ok account, before.balanced change)) := by
  by_cases inRange : Text.IntegerRange.int64.contains (row.balance + change.amount) = true
  · cases loads : (Tables.added row change.amount).load with
    | error problem =>
      refine .inr (.inl ⟨problem, AccountRow.load_added_eq_error.mp loads, ?_⟩)
      rw [Work.addBalance, perform_bind_of_ok (perform_ask_addBalance found inRange)]
      show (Except.mapError _ (Tables.added row change.amount).load) = _
      rw [loads]
      rfl
    | ok account =>
      exact .inr (.inr ⟨account, rfl, perform_addBalance_of_load found sound inRange loads⟩)
  · have wide := Bool.eq_false_iff.mpr inRange
    exact .inl ⟨wide, perform_addBalance_of_wide found wide⟩

end Adding

end Ledger

/-! ### The work of a transfer -/

namespace Movement

/-- Both changes of balance stay in the range of the column, one after the other. -/
structure Fits (movement : Movement) (rows : Tables) : Prop where
  first : ∀ row, rows.account? movement.orderedChanges.1.account = some row →
    Text.IntegerRange.int64.contains (row.balance + movement.orderedChanges.1.amount) = true
  second : ∀ row, (rows.adjusted (Tables.only movement.orderedChanges.1.account
      movement.orderedChanges.1.amount)).account? movement.orderedChanges.2.account = some row →
    Text.IntegerRange.int64.contains (row.balance + movement.orderedChanges.2.amount) = true

/-- What a transfer of something may still miss when both of its accounts are there. -/
inductive Misses (movement : Movement) (rows : Tables) : StoreError → Prop
  | overdrawn {row : AccountRow} (found : rows.account? movement.source = some row)
    (short : row.balance + movement.change movement.source < 0) :
    Misses movement rows
      (.insufficientFunds movement.source (row.balance + movement.change movement.source))
  | outOfRange (wide : ¬ movement.Fits rows) :
    Misses movement rows (.database (.ofRefusal .outOfRange))
  | unreadable {id : Int} {row : AccountRow} {problem : DatabaseError}
    (own : id = movement.source ∨ id = movement.target) (found : rows.account? id = some row)
    (unread : row.load = .error problem) : Misses movement rows (.database problem)

variable {now : Instant} {movement : Movement} {before : Books}

/-- The books after a transfer and its two entries are stored. -/
def recorded (now : Instant) (movement : Movement) (before : Books) : Books where
  serials := (movement.settled now before).serials
  rows := { before.rows with
    transfers := (movement.settled now before).rows.transfers
    entries := (movement.settled now before).rows.entries }

/-- The end of the work of a transfer, with the accounts as they stand after both changes. -/
def conclude (movement : Movement) (transfer : Transfer) (debit credit : Entry)
    (first second : Account) : Work Settlement := do
  let (source, target) := movement.sides first second
  if source.balance < 0 then throw (.insufficientFunds source.id source.balance)
  return { transfer, debit, credit, source, target }

/-- What is left of the work of a transfer when it is stored with its entries. -/
def finish (movement : Movement) (transfer : Transfer) (debit credit : Entry) :
    Work Settlement := do
  let first ← Work.addBalance movement.orderedChanges.1
  let second ← Work.addBalance movement.orderedChanges.2
  movement.conclude transfer debit credit first second

theorem exists_createTransfer (now : Instant) (positive : 0 < movement.amount)
    (hasSource : before.rows.HasAccount movement.source)
    (hasTarget : before.rows.HasAccount movement.target) : ∃ transfer after,
      before.perform now (Work.createTransfer movement) = (.ok transfer, after) :=
  ⟨_, ⟨_, _⟩, Books.perform_ask_eq_ok.mpr (Books.execute_eq_ok.mpr
    ⟨Tables.insertTransfer_eq_ok.mpr ⟨positive, hasSource, hasTarget, rfl, rfl⟩, rfl⟩)⟩

theorem exists_createEntry (now : Instant) (posting : Posting) (nonzero : posting.amount ≠ 0)
    (hasTransfer : before.rows.HasTransfer posting.transfer)
    (hasAccount : before.rows.HasAccount posting.account) : ∃ entry after,
      before.perform now (Work.createEntry posting) = (.ok entry, after) :=
  ⟨_, ⟨_, _⟩, Books.perform_ask_eq_ok.mpr (Books.execute_eq_ok.mpr
    ⟨Tables.insertEntry_eq_ok.mpr ⟨nonzero, hasTransfer, hasAccount, rfl, rfl⟩, rfl⟩)⟩

/-- A transfer of something between accounts that are there is stored with its entries. -/
theorem perform_settle (now : Instant) (sound : before.Sound) (positive : 0 < movement.amount)
    (hasSource : before.rows.HasAccount movement.source)
    (hasTarget : before.rows.HasAccount movement.target) :
    (movement.recorded now before).Sound ∧
      before.perform now movement.settle = (movement.recorded now before).perform now
        (movement.finish (movement.transferRow now before) (movement.debitRow now before)
          (movement.creditRow now before)) := by
  obtain ⟨transfer, stored, created⟩ := exists_createTransfer now positive hasSource hasTarget
  obtain ⟨_, _, _, transfer_eq, stored_eq⟩ := Books.perform_createTransfer created
  have hasTransfer : stored.rows.HasTransfer transfer.id := by
    rw [stored_eq]
    exact ⟨transfer, List.mem_append_right _ List.mem_cons_self, rfl⟩
  have storedSource : stored.rows.HasAccount movement.source := by rw [stored_eq]; exact hasSource
  obtain ⟨debit, debited, posted⟩ := exists_createEntry now
    ⟨transfer.id, movement.source, -movement.amount⟩ (by show -movement.amount ≠ 0; omega)
    hasTransfer storedSource
  obtain ⟨debit_eq, debited_eq⟩ := Books.perform_createEntry posted
  have storedTransfer : debited.rows.HasTransfer transfer.id := by
    rw [debited_eq]
    exact hasTransfer
  have storedTarget : debited.rows.HasAccount movement.target := by
    rw [debited_eq, stored_eq]
    exact hasTarget
  obtain ⟨credit, credited, posted'⟩ := exists_createEntry now
    ⟨transfer.id, movement.target, movement.amount⟩ (by show movement.amount ≠ 0; omega)
    storedTransfer storedTarget
  obtain ⟨credit_eq, credited_eq⟩ := Books.perform_createEntry posted'
  have same : credited = movement.recorded now before := by
    rw [credited_eq, credit_eq, debited_eq, debit_eq, stored_eq, transfer_eq]
    simp only [recorded, settled, List.append_assoc, List.singleton_append]
    rfl
  refine ⟨same ▸ ((sound.perform created).perform posted).perform posted', ?_⟩
  rw [← same]
  show before.perform now (Work.createTransfer movement >>= _) = _
  rw [Books.perform_bind_of_ok created, Books.perform_bind_of_ok posted,
    Books.perform_bind_of_ok posted', credit_eq, debited_eq, debit_eq, stored_eq, transfer_eq]
  rfl

/-- Both accounts of the changes of balance are those of the transfer. -/
theorem account_orderedChanges (movement : Movement) :
    (movement.orderedChanges.1.account = movement.source ∧
      movement.orderedChanges.2.account = movement.target) ∨
    (movement.orderedChanges.1.account = movement.target ∧
      movement.orderedChanges.2.account = movement.source) := by
  unfold orderedChanges
  by_cases first : movement.source < movement.target
  · rw [if_pos first]
    exact .inl ⟨rfl, rfl⟩
  · rw [if_neg first]
    exact .inr ⟨rfl, rfl⟩

theorem account?_orderedChanges {rows : Tables} (hasSource : rows.HasAccount movement.source)
    (hasTarget : rows.HasAccount movement.target) :
    rows.HasAccount movement.orderedChanges.1.account ∧
      rows.HasAccount movement.orderedChanges.2.account := by
  rcases movement.account_orderedChanges with ⟨first, second⟩ | ⟨first, second⟩
  · rw [first, second]
    exact ⟨hasSource, hasTarget⟩
  · rw [first, second]
    exact ⟨hasTarget, hasSource⟩

/-- A change of balance in a transfer misses, or the work goes on with the account as it stands
then. -/
theorem addBalance_bind_cases (now : Instant) (rows : Tables) {books : Books} (sound : books.Sound)
    {change : BalanceChange} {row stored : AccountRow}
    (found : books.rows.account? change.account = some row)
    (own : change.account = movement.source ∨ change.account = movement.target)
    (earlier : rows.account? change.account = some stored) (held : row.currency = stored.currency)
    (inRange : movement.Fits rows →
      Text.IntegerRange.int64.contains (row.balance + change.amount) = true)
    (rest : Account → Work Settlement) :
    (∃ error, (books.perform now (Work.addBalance change >>= rest)).1 = .error error ∧
      movement.Misses rows error) ∨
    ∃ account, books.perform now (Work.addBalance change) = (.ok account, books.balanced change) ∧
      books.perform now (Work.addBalance change >>= rest) =
        (books.balanced change).perform now (rest account) := by
  rcases Books.perform_addBalance_cases found now sound with
    ⟨wide, fails⟩ | ⟨problem, unread, fails⟩ | ⟨account, _, adds⟩
  · refine .inl ⟨_, Books.perform_bind_of_error fails, .outOfRange fun fits => ?_⟩
    rw [inRange fits] at wide
    cases wide
  · rw [AccountRow.load_eq_error, held, ← AccountRow.load_eq_error] at unread
    exact .inl ⟨_, Books.perform_bind_of_error fails, .unreadable own earlier unread⟩
  · exact .inr ⟨account, adds, Books.perform_bind_of_ok adds⟩

/-- The end of the work of a transfer is a success, or the source is overdrawn. -/
theorem conclude_cases (now : Instant) (books : Books) (transfer : Transfer) (debit credit : Entry)
    {first second : Account} {rows : Tables} {row : AccountRow}
    (found : rows.account? movement.source = some row)
    (its : (movement.sides first second).1.id = movement.source)
    (balance : (movement.sides first second).1.balance =
      row.balance + movement.change movement.source) :
    (∃ settlement after, books.perform now
      (movement.conclude transfer debit credit first second) = (.ok settlement, after)) ∨
    ∃ error, (books.perform now (movement.conclude transfer debit credit first second)).1 =
      .error error ∧ movement.Misses rows error := by
  unfold conclude
  by_cases overdrawn : (movement.sides first second).1.balance < 0
  · refine .inr ⟨_, ?_, .overdrawn found (balance ▸ overdrawn)⟩
    simp only [if_pos overdrawn]
    rw [← balance, ← its]
    rfl
  · simp only [if_neg overdrawn]
    exact .inl ⟨_, _, Books.perform_pure_eq_ok.mpr ⟨rfl, rfl⟩⟩

/-- **A transfer is settled or misses**, when it is of something and both accounts are there. -/
theorem settle_cases (now : Instant) (sound : before.Sound) (positive : 0 < movement.amount)
    (hasSource : before.rows.HasAccount movement.source)
    (hasTarget : before.rows.HasAccount movement.target) :
    (∃ settlement after, before.perform now movement.settle = (.ok settlement, after)) ∨
      ∃ error, (before.perform now movement.settle).1 = .error error ∧
        movement.Misses before.rows error := by
  obtain ⟨recordedSound, settles⟩ := perform_settle now sound positive hasSource hasTarget
  rw [settles, finish]
  obtain ⟨hasFirst, hasSecond⟩ := account?_orderedChanges hasSource hasTarget
  have own := movement.account_orderedChanges
  obtain ⟨firstRow, firstFound⟩ := hasFirst.account?
  rcases addBalance_bind_cases now before.rows recordedSound firstFound (by omega) firstFound rfl
    (fun fits => fits.first firstRow firstFound) _ with missed | ⟨first, adds, goesOn⟩
  · exact .inr missed
  rw [goesOn]
  -- the second change meets the rows after the first
  obtain ⟨onceSound, _, _, one, firstLoads, _⟩ := Books.perform_addBalance recordedSound adds
  obtain ⟨earlier, earlierFound⟩ := hasSecond.account?
  have secondFound := Tables.account?_adjusted (Tables.only movement.orderedChanges.1.account
    movement.orderedChanges.1.amount) before.rows movement.orderedChanges.2.account
  rw [earlierFound, Option.map_some] at secondFound
  rcases addBalance_bind_cases now before.rows onceSound secondFound (by omega) earlierFound rfl
    (fun fits => fits.second _ secondFound) _ with missed | ⟨second, adds', goesOn'⟩
  · exact .inr missed
  rw [goesOn']
  obtain ⟨_, twice_eq, _, two, secondLoads, _⟩ := Books.perform_addBalance onceSound adds'
  obtain ⟨⟨later, found, loads⟩, _⟩ := sides_stored one firstLoads two secondLoads twice_eq
  rw [balanced_orderedChanges] at found
  obtain ⟨row, stored, its, balance⟩ := Tables.balance_of_adjusted found loads
  exact conclude_cases now _ _ _ _ stored its balance

section Missing

variable (now : Instant) (positive : 0 < movement.amount)

include positive

/-- A transfer of something from an account that is not there refers to no row. -/
theorem settle_sourceless (missing : before.rows.account? movement.source = none) :
    (before.perform now movement.settle).1 = .error (.database
      (.ofRefusal (.missingReference .transfers "transfers_from_account_id_fkey"))) := by
  refine Books.perform_bind_of_error (Books.perform_ask_of_error (Ledger.execute_eq_error.mpr ?_))
  show before.rows.insertTransfer _ movement now = _
  rw [Tables.insertTransfer, if_neg (Int.not_le.mpr positive), missing]
  rfl

/-- So does one to such an account; the source is looked for first. -/
theorem settle_targetless {row : AccountRow}
    (there : before.rows.account? movement.source = some row)
    (missing : before.rows.account? movement.target = none) :
    (before.perform now movement.settle).1 = .error (.database
      (.ofRefusal (.missingReference .transfers "transfers_to_account_id_fkey"))) := by
  refine Books.perform_bind_of_error (Books.perform_ask_of_error (Ledger.execute_eq_error.mpr ?_))
  show before.rows.insertTransfer _ movement now = _
  rw [Tables.insertTransfer, if_neg (Int.not_le.mpr positive), there, missing]
  rfl

theorem settle_unreferenced (missing :
    ¬ (before.rows.HasAccount movement.source ∧ before.rows.HasAccount movement.target)) :
    ∃ key, (before.perform now movement.settle).1 =
      .error (.database (.ofRefusal (.missingReference .transfers key))) := by
  cases source : before.rows.account? movement.source with
  | none => exact ⟨_, settle_sourceless now positive source⟩
  | some row =>
    cases target : before.rows.account? movement.target with
    | none => exact ⟨_, settle_targetless now positive source target⟩
    | some other =>
      exact absurd ⟨⟨row, Tables.account?_eq_some source⟩, ⟨other, Tables.account?_eq_some target⟩⟩
        missing

end Missing

/-! ### Changes that fit -/

/-- Where an account has room for what it is given, and keeps what it is left, both changes fit,
whichever is made first. -/
theorem fits_of_room {rows : Tables}
    (down : ∀ row, rows.account? movement.source = some row →
      Text.IntegerRange.int64.contains (row.balance + movement.change movement.source) = true)
    (up : ∀ row, rows.account? movement.target = some row →
      Text.IntegerRange.int64.contains (row.balance + movement.amount) = true) :
    movement.Fits rows := by
  by_cases first : movement.source < movement.target
  · have apart : movement.target ≠ movement.source := by omega
    have taken : movement.change movement.source = -movement.amount := by
      simp [change, Tables.only, apart.symm]
    rw [taken] at down
    constructor
    · simp only [orderedChanges, if_pos first, debit]
      exact down
    · simp only [orderedChanges, if_pos first, debit, credit, Tables.account?_only apart]
      exact up
  · constructor
    · simp only [orderedChanges, if_neg first, credit]
      exact up
    · simp only [orderedChanges, if_neg first, debit, credit]
      intro later found
      rw [Tables.account?_adjusted, Option.map_eq_some_iff] at found
      obtain ⟨row, stored, rfl⟩ := found
      have its : row.id = movement.source := (Tables.account?_eq_some stored).2
      have kept := down row stored
      rw [change, ← Int.add_assoc] at kept
      rw [its]
      simpa [Tables.only, Tables.added] using kept

end Movement

/-! ### Transfers in a ledger -/

theorem Ledger.Query.clean_of_movesMoney {query : Query} (moves : query.MovesMoney) :
    query.Clean := by
  cases query with
  | addBalance _ | insertTransfer _ | insertEntry _ => rfl
  | insertUser _ | findUser _ | updateUser _ | insertAccount _ _ _ | findAccount _ | listAccounts _
  | findTransfer _ | listTransfers _ | findEntry _ | listEntries _ | sumEntries _ => cases moves

theorem Movement.clean_settle (movement : Movement) : movement.settle.run.Asks Query.Clean :=
  Script.asks_mono (fun _ => Query.clean_of_movesMoney) movement.asks_settle

namespace Ledger

variable {movement : Movement} {ledger : Ledger}

theorem laid_of_hasAccount {id : Int} (there : ledger.rows.HasAccount id) :
    ledger.tables.isSome = true := by
  cases absent : ledger.tables with
  | some tables => rfl
  | none =>
    obtain ⟨row, stored, _⟩ := there
    rw [rows, absent] at stored
    cases stored

theorem transfer_of_positive (positive : 0 < movement.amount) :
    ledger.transfer movement = ledger.transact movement.settle :=
  if_neg (Int.not_le.mpr positive)

/-- A calm ledger stays calm in a transfer. -/
theorem Calm.transfer (calm : ledger.Calm) (movement : Movement) :
    (ledger.transfer movement).2.Calm := by
  unfold Ledger.transfer
  by_cases nothing : movement.amount ≤ 0
  · rw [if_pos nothing]
    exact calm
  · rw [if_neg nothing]
    exact calm.transact movement.settle

/-- **Why a transfer fails** between two accounts that are there: it is of nothing, the ledger is in
trouble, or it misses. -/
theorem origin_of_transfer (sound : ledger.books.Sound)
    (hasSource : ledger.rows.HasAccount movement.source)
    (hasTarget : ledger.rows.HasAccount movement.target) {error : StoreError}
    (fails : (ledger.transfer movement).1 = .error error) :
    error = .invalidAmount movement.amount ∨
      (∃ trouble, ledger.Trouble trouble ∧ error.origin = .database trouble) ∨
      ∃ miss, movement.Misses ledger.rows miss ∧ error.origin = miss.origin := by
  by_cases nothing : movement.amount ≤ 0
  · rw [transfer, if_pos nothing] at fails
    cases fails
    exact .inl rfl
  have positive := Int.not_le.mp nothing
  rw [transfer_of_positive positive] at fails
  have misses : ∀ miss, (ledger.books.perform ledger.clock movement.settle).1 = .error miss →
      movement.Misses ledger.rows miss := by
    intro miss comes
    rcases Movement.settle_cases ledger.clock sound positive hasSource hasTarget with
      ⟨settlement, after, settled⟩ | ⟨found, meets, why⟩
    · rw [settled] at comes
      cases comes
    · rw [meets] at comes
      cases comes
      exact why
  rcases transact_outcome movement.strict_settle movement.clean_settle
    (laid_of_hasAccount hasSource) with same | ⟨given, ends, reason⟩
  · rw [same] at fails
    exact .inr (.inr ⟨error, misses error fails, rfl⟩)
  · rw [ends] at fails
    cases fails
    rcases reason with trouble | ⟨cause, comes, origin⟩
    · exact .inr (.inl trouble)
    · exact .inr (.inr ⟨cause, misses cause comes, origin⟩)

/-- **In a calm ledger** a transfer of something between accounts that are there is settled, or it
misses. -/
theorem Calm.transfer_cases (calm : ledger.Calm) (sound : ledger.books.Sound)
    (positive : 0 < movement.amount) (hasSource : ledger.rows.HasAccount movement.source)
    (hasTarget : ledger.rows.HasAccount movement.target) :
    (∃ settlement, (ledger.transfer movement).1 = .ok settlement) ∨
      ∃ error, (ledger.transfer movement).1 = .error error ∧ movement.Misses ledger.rows error := by
  rw [transfer_of_positive positive,
    calm.transact_outcome movement.strict_settle movement.clean_settle]
  rcases Movement.settle_cases ledger.clock sound positive hasSource hasTarget with
    ⟨settlement, after, settled⟩ | missed
  · exact .inl ⟨settlement, congrArg Prod.fst settled⟩
  · exact .inr missed

/-- A transfer that fits is not refused for the range of a balance. -/
theorem Books.settle_inRange {now : Instant} {books : Books} (sound : books.Sound)
    (positive : 0 < movement.amount) (fits : movement.Fits books.rows) :
    (books.perform now movement.settle).1 ≠ .error (.database (.ofRefusal .outOfRange)) := by
  intro refused
  by_cases there : books.rows.HasAccount movement.source ∧ books.rows.HasAccount movement.target
  · rcases Movement.settle_cases now sound positive there.1 there.2 with
      ⟨settlement, after, settled⟩ | ⟨error, meets, why⟩
    · rw [settled] at refused
      cases refused
    · rw [meets, Except.error.injEq] at refused
      cases why with
      | overdrawn found short => cases refused
      | outOfRange wide => exact wide fits
      | unreadable _ _ unread =>
        rw [(AccountRow.load_eq_error.mp unread).2] at refused
        cases refused
  · obtain ⟨key, meets⟩ := Movement.settle_unreferenced now positive there
    rw [meets, Except.error.injEq, StoreError.database.injEq] at refused
    exact absurd (congrArg DatabaseError.code? refused) (by simp [DatabaseError.ofRefusal,
      DatabaseError.code?, Refusal.code])

/-- **No change of balance leaves the range** in a transfer that fits, unless a fault says so. -/
theorem transfer_inRange (sound : ledger.books.Sound) (laid : ledger.tables.isSome = true)
    (fits : movement.Fits ledger.rows)
    (spared : ∀ fault ∈ ledger.faults, fault.failure.error ≠ .ofRefusal .outOfRange) :
    ∀ exchange ∈ ledger.transferExchanges movement,
      exchange.reply ≠ .error (.ofRefusal .outOfRange) := by
  intro exchange member refused
  unfold transferExchanges at member
  by_cases nothing : movement.amount ≤ 0
  · rw [if_pos nothing] at member
    cases member
  rw [if_neg nothing] at member
  rcases ledger.transact_cases movement.settle with
    ⟨_, _, _, _, heard, _⟩ | ⟨start, begun, _, heard, _⟩
  · rw [heard] at member
    cases member
  rw [heard] at member
  have ended := Session.error_of_heard movement.strict_settle member refused
  have ran := Session.run_outcome movement.strict_settle movement.clean_settle begun.running
    (begun.tables ▸ laid)
  rw [ended, begun.books, begun.around.clock] at ran
  rcases ran with same | ⟨fault, waiting, strikes⟩
  · exact Books.settle_inRange sound (Int.not_le.mp nothing) fits same.symm
  · obtain ⟨earlier, inside, left⟩ := begun.around.faults fault waiting
    rw [Except.error.injEq, StoreError.database.injEq] at strikes
    exact spared earlier inside (by rw [left.failure, strikes])

end Ledger

end Passbook
