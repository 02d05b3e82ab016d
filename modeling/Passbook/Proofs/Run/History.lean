/-
**History is only appended to.**

* `Books.Extends before after` — the transfers and entries of before stand unchanged at the head of
  those after; so do the users and accounts, in all but their profiles and balances; and rows that
  came since have numbers later than any that had been handed out.
* `Extends.execute`, `Extends.refl`, `Extends.trans` — an executed statement extends sound books,
  and so does one statement after another.
* `handedOut table past` — the numbers that statements were answered for the rows of a table, those
  of transactions that were undone included; `Handed.invariant` — they are handed out in order.
* `Tables.cut_of_isPrefix` — a window of a listing that has only grown at its end.
* `Leads may earlier between later` — further operations lead from one point of a run to another.
* **`history_append_only`** — between any two points of a run the books are extended, and every
  listing of transfers or entries at the first point is a prefix of the one at the second.
-/

import Passbook.Proofs.Ledger.Failure
import Passbook.Proofs.Run.Invariant

namespace Passbook

open Ledger (Query Books Tables Table AccountRow Exchange Numbered Serials)
open Time (Instant)

/-! ### What stays of a row -/

/-- What no statement changes of a user. -/
def User.lasting (user : User) : String × Instant :=
  (user.username, user.createdAt)

/-- What no statement changes of an account. -/
def Ledger.AccountRow.lasting (account : AccountRow) : Int × String × String × Instant :=
  (account.id, account.owner, account.currency, account.createdAt)

namespace Ledger

/-- The numbers of the rows of a table; users have none. -/
def Tables.numbers (tables : Tables) : Table → List Int
  | .users => []
  | .accounts => tables.accounts.map (·.id)
  | .transfers => tables.transfers.map (·.id)
  | .entries => tables.entries.map (·.id)

/-- The last number handed out for a table. -/
def Serials.last (serials : Serials) : Table → Int
  | .users => 0
  | .accounts => serials.accounts
  | .transfers => serials.transfers
  | .entries => serials.entries

theorem Serials.Le.last {before after : Serials} (le : before.Le after) (table : Table) :
    before.last table ≤ after.last table := by
  cases table with
  | users => exact Int.le_refl 0
  | accounts => exact le.accounts
  | transfers => exact le.transfers
  | entries => exact le.entries

theorem Serials.Le.trans {first second third : Serials} (before : first.Le second)
    (after : second.Le third) : first.Le third :=
  ⟨Int.le_trans before.accounts after.accounts, Int.le_trans before.transfers after.transfers,
    Int.le_trans before.entries after.entries⟩

/-! ### Books that are extended -/

/-- The numbers of a table afterwards: those of before, then ones that are later than `last`. -/
def Continues (last : Int) (before after : List Int) : Prop :=
  ∃ added, after = before ++ added ∧ ∀ number ∈ added, last < number

theorem Continues.refl (last : Int) (numbers : List Int) : Continues last numbers numbers :=
  ⟨[], (List.append_nil numbers).symm, fun _ member => by cases member⟩

theorem Continues.snoc (last : Int) (numbers : List Int) :
    Continues last numbers (numbers ++ [last + 1]) := by
  refine ⟨[last + 1], rfl, fun number member => ?_⟩
  rw [List.mem_singleton.mp member]
  exact Int.lt_succ last

theorem Continues.trans {last later : Int} {first second third : List Int}
    (before : Continues last first second) (after : Continues later second third)
    (grown : last ≤ later) : Continues last first third := by
  obtain ⟨sooner, rfl, sooner_later⟩ := before
  obtain ⟨added, rfl, added_later⟩ := after
  refine ⟨sooner ++ added, List.append_assoc _ _ _, fun number member => ?_⟩
  rcases List.mem_append.mp member with inside | inside
  · exact sooner_later number inside
  · exact Int.lt_of_le_of_lt grown (added_later number inside)

/-- **Books that only grew.** Nothing that was there is gone, and of what was there only profiles
and balances can have changed. -/
structure Books.Extends (before after : Books) : Prop where
  serials : before.serials.Le after.serials
  users : before.rows.users.map User.lasting <+: after.rows.users.map User.lasting
  accounts : before.rows.accounts.map AccountRow.lasting <+:
    after.rows.accounts.map AccountRow.lasting
  transfers : before.rows.transfers <+: after.rows.transfers
  entries : before.rows.entries <+: after.rows.entries
  /-- New rows have numbers that had not been handed out, whatever became of those that had. -/
  numbers : ∀ table,
    Continues (before.serials.last table) (before.rows.numbers table) (after.rows.numbers table)

namespace Books.Extends

variable {now : Instant} {before after : Books}

theorem refl (books : Books) : books.Extends books where
  serials := .refl _
  users := List.prefix_rfl
  accounts := List.prefix_rfl
  transfers := List.prefix_rfl
  entries := List.prefix_rfl
  numbers _ := .refl _ _

theorem trans {first second third : Books} (sooner : first.Extends second)
    (later : second.Extends third) : first.Extends third where
  serials := sooner.serials.trans later.serials
  users := sooner.users.trans later.users
  accounts := sooner.accounts.trans later.accounts
  transfers := sooner.transfers.trans later.transfers
  entries := sooner.entries.trans later.entries
  numbers table := (sooner.numbers table).trans (later.numbers table) (sooner.serials.last table)

/-- A number that is handed out in vain only makes later numbers later. -/
theorem later {serials later : Serials} {rows : Tables} (extended : before.Extends ⟨serials, rows⟩)
    (le : serials.Le later) : before.Extends ⟨later, rows⟩ :=
  { extended with serials := extended.serials.trans le }

theorem map_lasting_patching (sound : before.Sound) {user : User} (patch : ProfilePatch)
    (stored : user ∈ before.rows.users) :
    (before.rows.patching user patch).users.map User.lasting =
      before.rows.users.map User.lasting := by
  refine map_put _ fun other inside same => ?_
  rw [eq_of_nodup_map sound.usernames inside stored same]
  rfl

theorem map_lasting_adding (sound : before.Sound) {account : AccountRow} (amount : Int)
    (stored : account ∈ before.rows.accounts) :
    (before.rows.adding account amount).accounts.map AccountRow.lasting =
      before.rows.accounts.map AccountRow.lasting := by
  refine map_put _ fun other inside same => ?_
  rw [eq_of_nodup_map sound.accounts.nodup inside stored same]
  rfl

/-- **An executed statement extends sound books.** -/
theorem execute (sound : before.Sound) {query : Query} {answer : query.Answer}
    (executed : before.execute now query = .ok (answer, after)) : before.Extends after := by
  have le : before.serials.Le after.serials := (Serials.hands_of_execute executed).le
  have same := refl before
  cases effect_of_execute executed with
  | read _ | userMissed _ | balanceMissed _ => exact same
  | userStored _ _ =>
    refine { same with users := ?_, numbers := fun table => ?_ }
    · rw [List.map_append]
      exact List.prefix_append _ _
    · cases table <;> exact same.numbers _
  | userChanged found _ =>
    refine { same with users := ?_, numbers := fun table => ?_ }
    · refine ⟨[], (List.append_nil _).trans ?_⟩
      exact (map_lasting_patching sound _ (Tables.user?_eq_some found).1).symm
    · cases table <;> exact same.numbers _
  | accountOpened _ _ =>
    refine { same with serials := le, accounts := ?_, numbers := fun table => ?_ }
    · rw [List.map_append]
      exact List.prefix_append _ _
    · cases table with
      | accounts =>
        show Continues _ _ (List.map _ (_ ++ _))
        rw [List.map_append]
        exact .snoc _ _
      | users | transfers | entries => exact same.numbers _
  | balanceChanged found _ =>
    refine { same with accounts := ?_, numbers := fun table => ?_ }
    · refine ⟨[], (List.append_nil _).trans ?_⟩
      exact (map_lasting_adding sound _ (Tables.account?_eq_some found).1).symm
    · cases table with
      | accounts =>
        show Continues _ _ (List.map _ (before.rows.adding _ _).accounts)
        rw [Sound.map_id_adding]
        exact same.numbers .accounts
      | users | transfers | entries => exact same.numbers _
  | transferStored _ _ _ =>
    refine { same with serials := le, transfers := List.prefix_append _ _,
                       numbers := fun table => ?_ }
    cases table with
    | transfers =>
      show Continues _ _ (List.map _ (_ ++ _))
      rw [List.map_append]
      exact .snoc _ _
    | users | accounts | entries => exact same.numbers _
  | entryStored _ _ _ =>
    refine { same with serials := le, entries := List.prefix_append _ _,
                       numbers := fun table => ?_ }
    cases table with
    | entries =>
      show Continues _ _ (List.map _ (_ ++ _))
      rw [List.map_append]
      exact .snoc _ _
    | users | accounts | transfers => exact same.numbers _

/-- Statements executed one after another extend sound books. -/
theorem executes (sound : before.Sound) {exchanges : List Exchange}
    (executes : Executes now exchanges before after) : before.Extends after := by
  induction executes with
  | nil books => exact refl books
  | cons step _ ih => exact (execute sound step).trans (ih (sound.execute step))

end Books.Extends

/-! ### Numbers that were answered -/

/-- The number that a statement was answered for the row that it stored in a table. -/
def Exchange.number? (table : Table) : Exchange → Option Int
  | ⟨.insertAccount _ _ _, .ok (account : AccountRow)⟩ =>
    if table = .accounts then some account.id else none
  | ⟨.insertTransfer _, .ok (transfer : Transfer)⟩ =>
    if table = .transfers then some transfer.id else none
  | ⟨.insertEntry _, .ok (entry : Entry)⟩ => if table = .entries then some entry.id else none
  | _ => none

/-- The numbers that were answered for the rows of a table, in order; that of a row which was undone
is among them. -/
def handedOut (table : Table) (past : List Exchange) : List Int :=
  past.filterMap (Exchange.number? table)

/-- A statement is answered the next number of its table, or none. -/
theorem Serials.Hands.number {serials later : Serials} {exchange : Exchange}
    (hands : serials.Hands exchange later) (table : Table) :
    exchange.number? table = none ∨
      (exchange.number? table = some (serials.last table + 1) ∧
        later.last table = serials.last table + 1) := by
  cases hands with
  | @kept query error => exact .inl (by cases query <;> rfl)
  | @wasted query error => exact .inl (by cases query <;> rfl)
  | @answered query answer now rows next applied =>
    cases query with
    | insertUser _ | findUser _ | updateUser _ | findAccount _ | listAccounts _ | addBalance _
    | findTransfer _ | listTransfers _ | findEntry _ | listEntries _ | sumEntries _ =>
      exact .inl rfl
    | insertAccount owner balance currency =>
      obtain ⟨_, _, rfl, _⟩ := Tables.insertAccount_eq_ok.mp applied
      cases table with
      | accounts => exact .inr ⟨rfl, rfl⟩
      | users | transfers | entries => exact .inl rfl
    | insertTransfer movement =>
      obtain ⟨_, _, _, rfl, _⟩ := Tables.insertTransfer_eq_ok.mp applied
      cases table with
      | transfers => exact .inr ⟨rfl, rfl⟩
      | users | accounts | entries => exact .inl rfl
    | insertEntry posting =>
      obtain ⟨_, _, _, rfl, _⟩ := Tables.insertEntry_eq_ok.mp applied
      cases table with
      | entries => exact .inr ⟨rfl, rfl⟩
      | users | accounts | transfers => exact .inl rfl

theorem handedOut_of_hands {past : List Exchange} {serials later : Serials} {exchange : Exchange}
    {table : Table} (numbers : Numbered (serials.last table) (handedOut table past))
    (hands : serials.Hands exchange later) :
    Numbered (later.last table) (handedOut table (past ++ [exchange])) := by
  rw [handedOut, List.filterMap_append]
  rcases hands.number table with silent | ⟨number, taken⟩
  · rw [List.filterMap_cons_none silent, List.filterMap_nil, List.append_nil]
    exact numbers.mono (hands.le.last table)
  · rw [List.filterMap_cons_some number, List.filterMap_nil, taken]
    exact numbers.snoc

theorem handedOut_of_executes {now : Instant} {past exchanges : List Exchange}
    {before after : Books} {table : Table}
    (numbers : Numbered (before.serials.last table) (handedOut table past))
    (executes : before.Executes now exchanges after) :
    Numbered (after.serials.last table) (handedOut table (past ++ exchanges)) := by
  induction executes generalizing past with
  | nil books =>
    rw [List.append_nil]
    exact numbers
  | @cons query answer rest books next last step _ ih =>
    rw [← List.singleton_append, ← List.append_assoc]
    exact ih (handedOut_of_hands numbers (Serials.hands_of_execute step))

/-! ### Listings -/

namespace Tables

theorem cut_eq_ok {ρ : Type} {window : Window} {rows shown : List ρ} :
    cut window rows = .ok shown ↔ 0 ≤ window.offset ∧ 0 ≤ window.limit ∧
      shown = (rows.drop window.offset.toNat).take window.limit.toNat := by
  rw [cut, check_eq_ok, check_eq_ok, Except.ok.injEq, Int.not_lt, Int.not_lt, eq_comm (a := shown)]

/-- A window on a listing that has grown shows what it showed, and more only if it had room. -/
theorem cut_of_isPrefix {ρ : Type} {window : Window} {rows longer shown : List ρ}
    (grown : rows <+: longer) (cuts : cut window rows = .ok shown) :
    ∃ more, cut window longer = .ok more ∧ shown <+: more ∧
      (shown.length = window.limit → more = shown) := by
  obtain ⟨offset, limit, rfl⟩ := cut_eq_ok.mp cuts
  obtain ⟨rest, rfl⟩ := grown
  have shows : (rows.drop window.offset.toNat).take window.limit.toNat <+:
      ((rows ++ rest).drop window.offset.toNat).take window.limit.toNat := by
    rw [List.drop_append, List.take_append]
    exact List.prefix_append _ _
  refine ⟨_, cut_eq_ok.mpr ⟨offset, limit, rfl⟩, shows, fun full => ?_⟩
  have room := List.length_take_le window.limit.toNat
    ((rows ++ rest).drop window.offset.toNat)
  exact (shows.eq_of_length_le (by omega)).symm

end Tables

/-- What a listing showed stands at the head of what it shows later, and if its window was full it
shows the same. -/
structure Prolongs {ρ : Type} (window : Window) (first second : List ρ) : Prop where
  isPrefix : first <+: second
  full : first.length = window.limit → second = first

/-- The work lists the rows of a window that `select` picks out, as they are in the ledger. -/
structure Lists {ρ : Type} (listing : Work (List ρ)) (window : Window)
    (select : Tables → List ρ) : Prop where
  cut : ∀ {ledger : Ledger} {shown : List ρ}, (ledger.perform listing).1 = .ok shown →
    Tables.cut window (select ledger.rows) = .ok shown
  perform : ∀ {ledger : Ledger} {shown : List ρ}, ledger.Calm →
    Tables.cut window (select ledger.rows) = .ok shown → (ledger.perform listing).1 = .ok shown

theorem answer_of_perform_ask {query : Query} {answer : query.Answer} {ledger : Ledger}
    (answered : (ledger.perform (Work.ask query)).1 = .ok answer) :
    ∃ after, Answering query answer ledger after := by
  have mapped : (ledger.query query).1.mapError StoreError.database = .ok answer := answered
  rcases ledger.query_cases query with ⟨error, after, met, _⟩ | ⟨given, after, met, answering⟩
  · rw [met] at mapped
    cases mapped
  · rw [met] at mapped
    cases mapped
    exact ⟨after, answering⟩

/-- A statement that the books answer is answered by a calm ledger. -/
theorem Calm.perform_ask {query : Query} {answer : query.Answer} {ledger : Ledger} {after : Books}
    (calm : ledger.Calm) (clean : query.hasNul = false)
    (executed : ledger.books.execute ledger.clock query = .ok (answer, after)) :
    (ledger.perform (Work.ask query)).1 = .ok answer := by
  obtain ⟨_, met, _⟩ := calm.query_of_execute clean executed
  show (ledger.query query).1.mapError StoreError.database = _
  rw [met]
  rfl

theorem lists_transfers (rows : TransferRows) : Lists (Work.listTransfers rows) rows.window
    fun tables => tables.transfersBetween rows.source rows.target where
  cut shows := by
    obtain ⟨after, answering⟩ := answer_of_perform_ask shows
    exact (Tables.reading_eq_ok.mp (Books.execute_eq_ok.mp answering.books).1).1
  perform calm cuts :=
    calm.perform_ask rfl (Books.execute_eq_ok.mpr ⟨Tables.reading_eq_ok.mpr ⟨cuts, rfl⟩, rfl⟩)

theorem lists_entries (rows : EntryRows) : Lists (Work.listEntries rows) rows.window
    fun tables => tables.entriesOf rows.account where
  cut shows := by
    obtain ⟨after, answering⟩ := answer_of_perform_ask shows
    exact (Tables.reading_eq_ok.mp (Books.execute_eq_ok.mp answering.books).1).1
  perform calm cuts :=
    calm.perform_ask rfl (Books.execute_eq_ok.mpr ⟨Tables.reading_eq_ok.mpr ⟨cuts, rfl⟩, rfl⟩)

/-- **A listing of rows that only grew is prolonged**, and given again where nothing stands in the
way. -/
theorem Lists.prolongs {ρ : Type} {listing : Work (List ρ)} {window : Window}
    {select : Tables → List ρ} (lists : Lists listing window select) {earlier later : Ledger}
    (grown : select earlier.rows <+: select later.rows) {first : List ρ}
    (shows : (earlier.perform listing).1 = .ok first) :
    (∀ second, (later.perform listing).1 = .ok second → Prolongs window first second) ∧
      (later.Calm → ∃ second, (later.perform listing).1 = .ok second) := by
  obtain ⟨more, cuts, begins, same⟩ := Tables.cut_of_isPrefix grown (lists.cut shows)
  refine ⟨fun second again => ?_, fun calm => ⟨more, lists.perform calm cuts⟩⟩
  have its := cuts.symm.trans (lists.cut again)
  rw [Except.ok.injEq] at its
  subst its
  exact ⟨begins, same⟩

end Ledger

/-! ### Points of a run -/

/-- Further operations lead from one ledger to another; `between` are their statements. -/
inductive Leads (may : Call → Prop) (earlier : Ledger) : List Exchange → Ledger → Prop
  | here : Leads may earlier [] earlier
  | step {between : List Exchange} {later : Ledger} (operation : Operation) :
    Leads may earlier between later → operation.Within may →
    Leads may earlier (between ++ operation.exchanges later) (operation.run later)

section Leading

variable {may : Call → Prop} {past between : List Exchange} {ledger later : Ledger}

/-- From one point of a run to another is a run. -/
theorem Reachable.leads (reachable : Reachable may past ledger)
    (leads : Leads may ledger between later) : Reachable may (past ++ between) later := by
  induction leads with
  | here =>
    rw [List.append_nil]
    exact reachable
  | step operation _ within ih =>
    rw [← List.append_assoc]
    exact .step operation ih within

/-- Tables that are laid out stay so. -/
theorem Leads.laid (leads : Leads may ledger between later)
    (laid : ledger.tables.isSome = true) : later.tables.isSome = true := by
  induction leads with
  | here => exact laid
  | step operation _ _ ih => exact operation.run_laid ih

end Leading

/-- What operations keep is kept on from any point of a run. -/
theorem Preserved.Kept.leads {may : Call → Prop} {preserved : Preserved (Call.Permitted may)}
    {past between : List Exchange} {earlier later : Ledger}
    (kept : preserved.Kept past earlier.books) (leads : Leads may earlier between later) :
    preserved.Kept (past ++ between) later.books := by
  induction leads with
  | here =>
    rw [List.append_nil]
    exact kept
  | step operation _ within ih =>
    rw [← List.append_assoc]
    exact ih.operation (Operation.asks_of_within within)

/-- The books of a run from one of its points on. -/
def Ledger.Books.extended (may : Call → Prop) (start : Books) :
    Preserved (Call.Permitted may) where
  holds _ books := start.Extends books
  hear extended hands := extended.later hands.le
  apply _ sound extended executed := extended.trans (.execute sound executed)
  move _ sound extended _ executes _ := extended.trans (.executes sound executes)

/-- The numbers that were answered are in order, and none is later than the last. -/
def handedInOrder (may : Call → Prop) : Invariant may where
  holds past books := ∀ table, Numbered (books.serials.last table) (Ledger.handedOut table past)
  empty _ := .nil _
  hear numbers hands table := Ledger.handedOut_of_hands (numbers table) hands
  apply _ _ numbers executed table :=
    Ledger.handedOut_of_hands (numbers table) (Serials.hands_of_execute executed)
  move _ _ numbers _ executes _ table := Ledger.handedOut_of_executes (numbers table) executes

variable {may : Call → Prop} {past between : List Exchange} {earlier later : Ledger}

/-- **History is only appended to.** -/
theorem history_append_only (reachable : Reachable may past earlier)
    (leads : Leads may earlier between later) :
    earlier.books.Extends later.books ∧
    (∀ table, (Ledger.handedOut table (past ++ between)).Pairwise (· < ·) ∧
      ∀ number ∈ later.rows.numbers table, number ∈ earlier.rows.numbers table ∨
        earlier.serials.last table < number ∧
        ∀ handed ∈ Ledger.handedOut table past, handed < number) ∧
    (∀ rows first, (earlier.perform (Work.listTransfers rows)).1 = .ok first →
      (∀ second, (later.perform (Work.listTransfers rows)).1 = .ok second →
        Ledger.Prolongs rows.window first second) ∧
      (later.Calm → ∃ second, (later.perform (Work.listTransfers rows)).1 = .ok second)) ∧
    (∀ rows first, (earlier.perform (Work.listEntries rows)).1 = .ok first →
      (∀ second, (later.perform (Work.listEntries rows)).1 = .ok second →
        Ledger.Prolongs rows.window first second) ∧
      (later.Calm → ∃ second, (later.perform (Work.listEntries rows)).1 = .ok second)) := by
  have start : (Books.extended may earlier.books).Kept past earlier.books :=
    ⟨reachable.sound, .refl _⟩
  have extended : earlier.books.Extends later.books := (start.leads leads).holds
  have numbers := (handedInOrder may).of_reachable reachable
  have numbers_later := (numbers.leads leads).holds
  refine ⟨extended, fun table => ⟨(numbers_later table).ordered, fun number member => ?_⟩,
    fun rows first => ?_, fun rows first => ?_⟩
  · obtain ⟨added, grown, new⟩ := extended.numbers table
    have among : number ∈ earlier.rows.numbers table ++ added := grown ▸ member
    rcases List.mem_append.mp among with before | inside
    · exact .inl before
    · refine .inr ⟨new number inside, fun handed known => ?_⟩
      exact Int.lt_of_le_of_lt ((numbers.holds table).handed handed known) (new number inside)
  · exact (Ledger.lists_transfers rows).prolongs (extended.transfers.filter _)
  · exact (Ledger.lists_entries rows).prolongs (extended.entries.filter _)

/-- A ledger with the demonstration data, in which one account has paid another. -/
def firstPaid : Ledger :=
  (Operation.transfer ⟨1, 4, 30⟩).run (Operation.seed.run .fresh)

/-- The same account pays more than it holds, which is undone, and then pays once more. -/
def thenPaid : Ledger :=
  (Operation.transfer ⟨1, 4, 20⟩).run ((Operation.transfer ⟨1, 4, 1000⟩).run firstPaid)

/-- The transfer that was undone has taken its number with it: the next one has number 3. The full
window stays as it was read. -/
theorem history_append_only_thenPaid :
    firstPaid.rows.numbers .transfers = [1] ∧ thenPaid.rows.numbers .transfers = [1, 3] ∧
      firstPaid.rows.transfers <+: thenPaid.rows.transfers ∧
      (firstPaid.perform (Work.listTransfers ⟨1, 1, ⟨1, 0⟩⟩)).1 =
        .ok [⟨1, 1, 4, 30, .newYear2024⟩] ∧
      (thenPaid.perform (Work.listTransfers ⟨1, 1, ⟨1, 0⟩⟩)).1 =
        .ok [⟨1, 1, 4, 30, .newYear2024⟩] := by
  have reachable : Reachable (fun _ => True) _ firstPaid :=
    .step (.transfer ⟨1, 4, 30⟩) (.step .seed .fresh trivial) trivial
  have leads : Leads (fun _ => True) firstPaid _ thenPaid :=
    .step (.transfer ⟨1, 4, 20⟩) (.step (.transfer ⟨1, 4, 1000⟩) .here trivial) trivial
  obtain ⟨extended, _, transfers, _⟩ := history_append_only reachable leads
  have shown : (firstPaid.perform (Work.listTransfers ⟨1, 1, ⟨1, 0⟩⟩)).1 =
      .ok [⟨1, 1, 4, 30, .newYear2024⟩] := rfl
  obtain ⟨prolonged, answers⟩ := transfers ⟨1, 1, ⟨1, 0⟩⟩ _ shown
  obtain ⟨second, again⟩ := answers ⟨by decide, by decide, by decide⟩
  have same : second = [⟨1, 1, 4, 30, .newYear2024⟩] := (prolonged second again).full rfl
  exact ⟨by decide, by decide, extended.transfers, shown, same ▸ again⟩

end Passbook
