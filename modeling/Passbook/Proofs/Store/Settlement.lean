/-
**What a transfer does to the books.**

A transfer that succeeds stores one transfer and two entries and changes the balances of its two
accounts, all of it or nothing.

* `Tables.adjusted change` — the rows with an amount added to every balance, which `change` gives
  for the number of the account.
* `Books.settled now movement` — the books after a transfer: the amount is taken from the source and
  given to the target, whichever balance was changed first.
* `Movement.Settles` — what is known of a transfer that was settled.
* **`transfer_cases`** — a transfer is settled, with its five statements executed, or it fails and
  leaves the rows as they are; `settles_of_transfer`, `rows_of_transfer_error` — either of the two
  from its outcome.
-/

import Passbook.Proofs.Ledger.Sound
import Passbook.Proofs.Store.Strict
import Passbook.Store.Transfer

namespace Passbook

open Ledger (Query Books Tables AccountRow Exchange)
open Time (Instant)

theorem Account.load_toRow (account : Account) : account.toRow.load = .ok account := by
  unfold Ledger.AccountRow.load
  rw [Account.toRow, Currency.ofCode?_code]

/-- An account is loaded from the row that holds it. -/
theorem Ledger.AccountRow.load_eq_ok {row : AccountRow} {account : Account} :
    row.load = .ok account ↔ account.toRow = row := by
  constructor
  · intro loads
    unfold load at loads
    cases known : Currency.ofCode? row.currency with
    | none =>
      rw [known] at loads
      cases loads
    | some held =>
      rw [known] at loads
      cases loads
      rw [Account.toRow, Currency.code_of_ofCode? known]
  · rintro rfl
    exact account.load_toRow

/-- The currency of an account is known. -/
def Ledger.AccountRow.Readable (row : AccountRow) : Prop :=
  ∃ held : Currency, held.code = row.currency

theorem Ledger.AccountRow.Readable.load {row : AccountRow} (readable : row.Readable) :
    ∃ account, row.load = .ok account := by
  obtain ⟨held, code⟩ := readable
  refine ⟨⟨row.id, row.owner, row.balance, held, row.createdAt⟩, load_eq_ok.mpr ?_⟩
  rw [Account.toRow, code]

theorem Ledger.AccountRow.Readable.load_ne_error {row : AccountRow} (readable : row.Readable)
    {problem : DatabaseError} : row.load ≠ .error problem := by
  intro fails
  obtain ⟨account, loads⟩ := readable.load
  rw [fails] at loads
  cases loads

/-! ### Changes of balances -/

namespace Ledger.Tables

/-- The rows with an amount added to every balance, which depends on the number of the account. -/
def adjusted (change : Int → Int) (tables : Tables) : Tables :=
  { tables with accounts := tables.accounts.map fun row => added row (change row.id) }

/-- An amount for one account, and nothing for the others. -/
def only (account amount : Int) : Int → Int :=
  fun id => if id = account then amount else 0

theorem only_self (account amount : Int) : only account amount account = amount :=
  if_pos rfl

theorem only_bounds {amount : Int} (nonneg : 0 ≤ amount) (account id : Int) :
    0 ≤ only account amount id ∧ only account amount id ≤ amount := by
  unfold only
  by_cases here : id = account
  · rw [if_pos here]
    exact ⟨nonneg, Int.le_refl amount⟩
  · rw [if_neg here]
    exact ⟨Int.le_refl 0, nonneg⟩

theorem only_neg (account amount id : Int) :
    only account (-amount) id = -only account amount id := by
  unfold only
  by_cases here : id = account
  · rw [if_pos here, if_pos here]
  · rw [if_neg here, if_neg here, Int.neg_zero]

theorem added_zero (row : AccountRow) : added row 0 = row := by
  rw [added, Int.add_zero]

theorem added_added (row : AccountRow) (first second : Int) :
    added (added row first) second = added row (first + second) := by
  rw [added, added, added, Int.add_assoc]

theorem adjusted_adjusted (first second : Int → Int) (tables : Tables) :
    (tables.adjusted first).adjusted second = tables.adjusted fun id => first id + second id := by
  unfold adjusted
  rw [List.map_map]
  have same : ((fun row => added row (second row.id)) ∘ fun row => added row (first row.id))
      = fun row : AccountRow => added row (first row.id + second row.id) := by
    funext row
    exact added_added row _ _
  rw [same]

theorem account?_adjusted (change : Int → Int) (tables : Tables) (id : Int) :
    (tables.adjusted change).account? id =
      (tables.account? id).map fun row => added row (change row.id) := by
  unfold account? adjusted
  rw [List.find?_map]
  rfl

/-- The other accounts are found as they were. -/
theorem account?_only {account amount id : Int} (apart : id ≠ account) (tables : Tables) :
    (tables.adjusted (only account amount)).account? id = tables.account? id := by
  rw [account?_adjusted]
  cases found : tables.account? id with
  | none => rfl
  | some row =>
    have other : row.id ≠ account := by rw [(account?_eq_some found).2]; exact apart
    rw [Option.map_some, only, if_neg other, added_zero]

/-- An account with an adjusted balance is loaded with what was added to the balance before. -/
theorem balance_of_adjusted {change : Int → Int} {tables : Tables} {id : Int} {later : AccountRow}
    {account : Account} (found : (tables.adjusted change).account? id = some later)
    (loads : later.load = .ok account) : ∃ row, tables.account? id = some row ∧
      account.id = id ∧ account.balance = row.balance + change id := by
  rw [account?_adjusted, Option.map_eq_some_iff] at found
  obtain ⟨row, stored, becomes⟩ := found
  have its : row.id = id := (account?_eq_some stored).2
  rw [← AccountRow.load_eq_ok.mp loads, its] at becomes
  exact ⟨row, stored, (congrArg AccountRow.id becomes).symm.trans its,
    (congrArg AccountRow.balance becomes).symm⟩

/-- Where numbers are not shared, only the one row changes. -/
theorem adding_eq_adjusted {tables : Tables} (numbers : (tables.accounts.map (·.id)).Nodup)
    {account : AccountRow} (stored : account ∈ tables.accounts) (amount : Int) :
    tables.adding account amount = tables.adjusted (only account.id amount) := by
  have same : put AccountRow.id (added account amount) tables.accounts =
      tables.accounts.map fun row => added row (only account.id amount row.id) := by
    refine List.map_congr_left fun row inside => ?_
    by_cases here : row.id = account.id
    · have one : row = account := eq_of_nodup_map numbers inside stored here
      subst one
      rw [only, if_pos rfl]
      exact if_pos rfl
    · rw [only, if_neg here, added_zero]
      exact if_neg here
  rw [adding, adjusted, same]

end Ledger.Tables

/-! ### Steps of a transfer on the books -/

namespace Ledger.Books

variable {now : Instant} {before after : Books}

theorem Sound.perform (sound : before.Sound) {query : Query} {answer : query.Answer}
    (succeeds : before.perform now (Work.ask query) = (.ok answer, after)) : after.Sound :=
  sound.execute (perform_ask_eq_ok.mp succeeds)

theorem perform_createTransfer {movement : Movement} {transfer : Transfer}
    (succeeds : before.perform now (Work.createTransfer movement) = (.ok transfer, after)) :
    0 < movement.amount ∧ before.rows.HasAccount movement.source ∧
      before.rows.HasAccount movement.target ∧
      transfer = ⟨before.serials.transfers + 1, movement.source, movement.target, movement.amount,
        now⟩ ∧
      after = ⟨{ before.serials with transfers := before.serials.transfers + 1 },
        { before.rows with transfers := before.rows.transfers ++ [transfer] }⟩ := by
  cases effect_of_execute (perform_ask_eq_ok.mp succeeds) with
  | read reads => cases reads
  | transferStored positive source target => exact ⟨positive, source, target, rfl, rfl⟩

theorem perform_createEntry {posting : Posting} {entry : Entry}
    (succeeds : before.perform now (Work.createEntry posting) = (.ok entry, after)) :
    entry = ⟨before.serials.entries + 1, posting.transfer, posting.account, posting.amount, now⟩ ∧
      after = ⟨{ before.serials with entries := before.serials.entries + 1 },
        { before.rows with entries := before.rows.entries ++ [entry] }⟩ := by
  cases effect_of_execute (perform_ask_eq_ok.mp succeeds) with
  | read reads => cases reads
  | entryStored nonzero transfer account => exact ⟨rfl, rfl⟩

/-- The books after an amount is added to one balance. -/
def balanced (change : BalanceChange) (books : Books) : Books :=
  { books with rows := books.rows.adjusted (Tables.only change.account change.amount) }

/-- A balance is changed, and the account is given as it stands then. -/
theorem perform_addBalance (sound : before.Sound) {change : BalanceChange} {account : Account}
    (succeeds : before.perform now (Work.addBalance change) = (.ok account, after)) :
    after.Sound ∧ after = before.balanced change ∧
      ∃ row, after.rows.account? change.account = some row ∧ row.load = .ok account ∧
        Text.IntegerRange.int64.contains row.balance = true := by
  obtain ⟨answer, between, asked, loaded⟩ := perform_bind_eq_ok.mp succeeds
  have kept := sound.perform asked
  cases effect_of_execute (perform_ask_eq_ok.mp asked) with
  | read reads => cases reads
  | balanceMissed missing => exact absurd loaded perform_throw_eq_ok
  | @balanceChanged _ row found inRange =>
    obtain ⟨loads, rfl⟩ := perform_load_eq_ok.mp loaded
    obtain ⟨stored, its⟩ := Tables.account?_eq_some found
    have adds := Tables.adding_eq_adjusted sound.accounts.nodup stored change.amount
    rw [its] at adds
    have same : ({ before with rows := before.rows.adding row change.amount } : Books) =
        before.balanced change := by rw [balanced, ← adds]
    refine ⟨kept, same, Tables.added row change.amount, ?_, loads, inRange⟩
    show (before.rows.adding row change.amount).account? change.account = _
    rw [adds, Tables.account?_adjusted, found, Option.map_some, its, Tables.only, if_pos rfl]

end Ledger.Books

/-! ### A transfer that is settled -/

namespace Movement

variable (now : Instant) (movement : Movement) (before : Books)

/-- The row that a transfer is stored as. -/
def transferRow : Transfer :=
  ⟨before.serials.transfers + 1, movement.source, movement.target, movement.amount, now⟩

/-- The row of the entry on the source. -/
def debitRow : Entry :=
  ⟨before.serials.entries + 1, before.serials.transfers + 1, movement.source, -movement.amount, now⟩

/-- The row of the entry on the target. -/
def creditRow : Entry :=
  ⟨before.serials.entries + 1 + 1, before.serials.transfers + 1, movement.target, movement.amount,
    now⟩

/-- What a transfer adds to the balance of each account. -/
def change : Int → Int :=
  fun id => Tables.only movement.target movement.amount id +
    Tables.only movement.source (-movement.amount) id

/-- The books after a transfer. -/
def settled : Books where
  serials := { before.serials with
    transfers := before.serials.transfers + 1
    entries := before.serials.entries + 1 + 1 }
  rows := { before.rows.adjusted movement.change with
    transfers := before.rows.transfers ++ [movement.transferRow now before]
    entries := before.rows.entries ++
      [movement.debitRow now before, movement.creditRow now before] }

/-- **A transfer was settled.** -/
structure Settles (settlement : Settlement) (after : Books) : Prop where
  positive : 0 < movement.amount
  hasSource : before.rows.HasAccount movement.source
  hasTarget : before.rows.HasAccount movement.target
  transfer : settlement.transfer = movement.transferRow now before
  debit : settlement.debit = movement.debitRow now before
  credit : settlement.credit = movement.creditRow now before
  source : ∃ row, after.rows.account? movement.source = some row ∧ row.load = .ok settlement.source
  target : ∃ row, after.rows.account? movement.target = some row ∧ row.load = .ok settlement.target
  funded : 0 ≤ settlement.source.balance
  books : after = movement.settled now before

variable {now movement before} {after : Books}

/-- The order of the two changes does not matter for the balances. -/
theorem balanced_orderedChanges (books : Books) :
    (books.balanced movement.orderedChanges.1).balanced movement.orderedChanges.2 =
      { books with rows := books.rows.adjusted movement.change } := by
  unfold Books.balanced
  rw [Tables.adjusted_adjusted]
  by_cases first : movement.source < movement.target
  · have swapped : (fun id => Tables.only movement.source (-movement.amount) id +
        Tables.only movement.target movement.amount id) = movement.change := by
      funext id
      exact Int.add_comm _ _
    simp only [orderedChanges, if_pos first, debit, credit]
    rw [swapped]
  · simp only [orderedChanges, if_neg first, debit, credit]
    rfl

/-- The accounts that a transfer gives are its two accounts as they stand after both changes. -/
theorem sides_stored {between : Books} {first second : Account} {firstRow secondRow : AccountRow}
    (one : between.rows.account? movement.orderedChanges.1.account = some firstRow)
    (firstLoads : firstRow.load = .ok first)
    (two : after.rows.account? movement.orderedChanges.2.account = some secondRow)
    (secondLoads : secondRow.load = .ok second)
    (books : after = between.balanced movement.orderedChanges.2) :
    (∃ row, after.rows.account? movement.source = some row ∧
      row.load = .ok (movement.sides first second).1) ∧
    (∃ row, after.rows.account? movement.target = some row ∧
      row.load = .ok (movement.sides first second).2) := by
  have others : ∀ id, id ≠ movement.orderedChanges.2.account →
      after.rows.account? id = between.rows.account? id := fun id apart => by
    rw [books]
    exact Tables.account?_only apart _
  unfold sides
  by_cases self : movement.source = movement.target
  · have last : movement.orderedChanges.2.account = movement.source := by
      rw [orderedChanges, if_neg (by omega)]
      rfl
    rw [last] at two
    rw [if_pos self, ← self]
    exact ⟨⟨secondRow, two, secondLoads⟩, ⟨secondRow, two, secondLoads⟩⟩
  rw [if_neg self]
  by_cases first : movement.source < movement.target
  · simp only [orderedChanges, if_pos first, debit, credit] at one two others
    rw [if_pos first, others _ self]
    exact ⟨⟨firstRow, one, firstLoads⟩, ⟨secondRow, two, secondLoads⟩⟩
  · simp only [orderedChanges, if_neg first, debit, credit] at one two others
    rw [if_neg first, others _ (Ne.symm self)]
    exact ⟨⟨secondRow, two, secondLoads⟩, ⟨firstRow, one, firstLoads⟩⟩

/-- **What a success of the work of a transfer says.** -/
theorem settles_of_perform (sound : before.Sound) {settlement : Settlement}
    (succeeds : before.perform now movement.settle = (.ok settlement, after)) :
    movement.Settles now before settlement after := by
  obtain ⟨transfer, stored, created, succeeds⟩ := Books.perform_bind_eq_ok.mp succeeds
  obtain ⟨debit, debited, posted, succeeds⟩ := Books.perform_bind_eq_ok.mp succeeds
  obtain ⟨credit, credited, posted', succeeds⟩ := Books.perform_bind_eq_ok.mp succeeds
  obtain ⟨first, once, adds, succeeds⟩ := Books.perform_bind_eq_ok.mp succeeds
  obtain ⟨second, twice, adds', succeeds⟩ := Books.perform_bind_eq_ok.mp succeeds
  have creditedSound := ((sound.perform created).perform posted).perform posted'
  obtain ⟨onceSound, once_eq, firstRow, one, firstLoads, _⟩ :=
    Books.perform_addBalance creditedSound adds
  obtain ⟨_, twice_eq, secondRow, two, secondLoads, _⟩ := Books.perform_addBalance onceSound adds'
  obtain ⟨hasSide, hasOther⟩ := sides_stored one firstLoads two secondLoads twice_eq
  rcases sides : movement.sides first second with ⟨source, target⟩
  simp only [sides] at succeeds hasSide hasOther
  by_cases overdrawn : source.balance < 0
  · rw [if_pos overdrawn] at succeeds
    obtain ⟨_, _, thrown, _⟩ := Books.perform_bind_eq_ok.mp succeeds
    exact absurd thrown Books.perform_throw_eq_ok
  rw [if_neg overdrawn] at succeeds
  obtain ⟨rfl, rfl⟩ := Books.perform_pure_eq_ok.mp succeeds
  obtain ⟨positive, hasSource, hasTarget, rfl, rfl⟩ := Books.perform_createTransfer created
  obtain ⟨rfl, rfl⟩ := Books.perform_createEntry posted
  obtain ⟨rfl, rfl⟩ := Books.perform_createEntry posted'
  refine ⟨positive, hasSource, hasTarget, rfl, rfl, rfl, hasSide, hasOther, Int.not_lt.mp overdrawn,
    ?_⟩
  rw [twice_eq, once_eq, balanced_orderedChanges]
  simp only [settled, List.append_assoc, List.singleton_append]
  rfl

section Balances

variable {settlement : Settlement} (settles : movement.Settles now before settlement after)

include settles

/-- The source ends with what it held before and what the transfer changes about it. -/
theorem Settles.source_balance : ∃ row, before.rows.account? movement.source = some row ∧
    settlement.source.balance = row.balance + movement.change movement.source := by
  obtain ⟨later, found, loads⟩ := settles.source
  rw [settles.books] at found
  obtain ⟨row, stored, _, balance⟩ := Tables.balance_of_adjusted found loads
  exact ⟨row, stored, balance⟩

/-- So does the target. -/
theorem Settles.target_balance : ∃ row, before.rows.account? movement.target = some row ∧
    settlement.target.balance = row.balance + movement.change movement.target := by
  obtain ⟨later, found, loads⟩ := settles.target
  rw [settles.books] at found
  obtain ⟨row, stored, _, balance⟩ := Tables.balance_of_adjusted found loads
  exact ⟨row, stored, balance⟩

/-- **The source of a transfer to another account held the amount.** -/
theorem Settles.amount_le (apart : movement.source ≠ movement.target) :
    ∃ row, before.rows.account? movement.source = some row ∧ movement.amount ≤ row.balance := by
  obtain ⟨row, stored, balance⟩ := settles.source_balance
  have taken : movement.change movement.source = -movement.amount := by
    simp [change, Tables.only, apart]
  have funded := settles.funded
  exact ⟨row, stored, by omega⟩

/-- A transfer takes from an account only what the account holds. -/
theorem Settles.floor (sound : before.Sound) {row : AccountRow}
    (stored : row ∈ before.rows.accounts) :
    min 0 row.balance ≤ row.balance + movement.change row.id := by
  have positive := settles.positive
  have funded := settles.funded
  by_cases pays : row.id = movement.source
  · obtain ⟨held, found, balance⟩ := settles.source_balance
    rw [← pays, Tables.account?_of_mem sound.accounts.nodup stored] at found
    cases found
    rw [← pays] at balance
    omega
  · -- an account that does not pay may only be paid
    have given := Tables.only_bounds (Int.le_of_lt positive) movement.target row.id
    have kept : Tables.only movement.source (-movement.amount) row.id = 0 := if_neg pays
    rw [change, kept]
    omega

end Balances

theorem strict_addBalance (change : BalanceChange) : (Work.addBalance change).Strict := by
  refine Work.strict_bind (Work.strict_ask _) fun answer => ?_
  cases answer with
  | some row => exact Work.strict_load _
  | none => exact Work.strict_throw _

theorem strict_settle (movement : Movement) : movement.settle.Strict := by
  refine Work.strict_bind (Work.strict_ask _) fun transfer => ?_
  refine Work.strict_bind (Work.strict_ask _) fun debit => ?_
  refine Work.strict_bind (Work.strict_ask _) fun credit => ?_
  refine Work.strict_bind (strict_addBalance _) fun first => ?_
  refine Work.strict_bind (strict_addBalance _) fun second => ?_
  exact Work.strict_ite (Work.strict_bind (Work.strict_throw _) fun _ => Work.strict_pure _)
    (Work.strict_pure _)

end Movement

/-! ### Statements that move money -/

/-- A statement of the kind that transfers are made of. -/
def Ledger.Query.MovesMoney : Query → Prop
  | .addBalance _ | .insertTransfer _ | .insertEntry _ => True
  | _ => False

namespace Movement

theorem asks_addBalance (change : BalanceChange) :
    (Work.addBalance change).run.Asks Query.MovesMoney := by
  refine Script.asks_except_bind (Work.asks_ask _ trivial) fun answer => ?_
  cases answer with
  | some row => exact trivial
  | none => exact trivial

/-- The work of a transfer consists of statements that move money. -/
theorem asks_settle (movement : Movement) : movement.settle.run.Asks Query.MovesMoney := by
  refine Script.asks_except_bind (Work.asks_ask _ trivial) fun transfer => ?_
  refine Script.asks_except_bind (Work.asks_ask _ trivial) fun debit => ?_
  refine Script.asks_except_bind (Work.asks_ask _ trivial) fun credit => ?_
  refine Script.asks_except_bind (asks_addBalance _) fun first => ?_
  refine Script.asks_except_bind (asks_addBalance _) fun second => ?_
  exact Script.asks_ite trivial trivial

end Movement

/-! ### Transfers in a ledger -/

namespace Ledger

variable (movement : Movement) (ledger : Ledger)

/-- The statements of a transfer with the replies to them. -/
def transferExchanges : List Exchange :=
  if movement.amount ≤ 0 then [] else ledger.exchanges movement.settle

theorem movesMoney_of_mem : ∀ exchange ∈ ledger.transferExchanges movement,
    exchange.query.MovesMoney := by
  unfold transferExchanges
  by_cases nothing : movement.amount ≤ 0
  · rw [if_pos nothing]
    exact fun _ member => by cases member
  · rw [if_neg nothing]
    exact kind_of_mem_exchanges _ ledger movement.asks_settle

variable {ledger}

/-- **A transfer is settled, or it fails and leaves the rows as they are.** -/
theorem transfer_cases (sound : ledger.books.Sound) :
    (∃ settlement after, ledger.transfer movement = (.ok settlement, after) ∧
      movement.Settles ledger.clock ledger.books settlement after.books ∧
      ledger.books.Executes ledger.clock (ledger.transferExchanges movement) after.books) ∨
    (∃ error after, ledger.transfer movement = (.error error, after) ∧
      after.tables = ledger.tables) := by
  unfold transfer transferExchanges
  by_cases nothing : movement.amount ≤ 0
  · rw [if_pos nothing]
    exact .inr ⟨_, ledger, rfl, rfl⟩
  rw [if_neg nothing, if_neg nothing]
  cases transacted : ledger.transact movement.settle with
  | mk outcome after =>
    cases outcome with
    | ok settlement =>
      have lands := lands_of_strict movement.strict_settle (congrArg Prod.fst transacted)
      obtain ⟨value, gives, performs⟩ := perform_of_lands lands
      have executes := executes_of_lands lands
      rw [transacted] at gives performs executes
      cases gives
      exact .inl ⟨settlement, after, rfl, Movement.settles_of_perform sound performs, executes⟩
    | error error =>
      have same := tables_of_transact_error (congrArg Prod.fst transacted)
      rw [transacted] at same
      exact .inr ⟨error, after, rfl, same⟩

variable {movement}

/-- **A transfer that succeeds is settled**, with its statements executed. -/
theorem settles_of_transfer (sound : ledger.books.Sound) {settlement : Settlement}
    (succeeds : (ledger.transfer movement).1 = .ok settlement) :
    movement.Settles ledger.clock ledger.books settlement (ledger.transfer movement).2.books ∧
      ledger.books.Executes ledger.clock (ledger.transferExchanges movement)
        (ledger.transfer movement).2.books := by
  rcases transfer_cases movement sound with
    ⟨settled, after, met, settles, executes⟩ | ⟨error, after, met, _⟩
  · rw [met] at succeeds ⊢
    cases succeeds
    exact ⟨settles, executes⟩
  · rw [met] at succeeds
    cases succeeds

/-- A transfer that fails leaves the rows. -/
theorem rows_of_transfer_error {error : StoreError}
    (fails : (ledger.transfer movement).1 = .error error) :
    (ledger.transfer movement).2.rows = ledger.rows := by
  unfold transfer at fails ⊢
  by_cases nothing : movement.amount ≤ 0
  · rw [if_pos nothing]
  · rw [if_neg nothing] at fails ⊢
    rw [rows, rows, tables_of_transact_error fails]

end Ledger

end Passbook
