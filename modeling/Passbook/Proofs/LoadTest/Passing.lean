/-
**A load test raises no false alarm.**

A load test that comes to its trial passes both checks. It comes to its trial wherever it reaches
the database, no fault strikes and its user is new; and where it does not, it ends before the
checks.

* `Ledger.calm_migrate` — the tables are laid out where nothing stands in the way.
* `Holds.opened`, `Holds.kept` — an account is opened, and others stay as they are.
* `transfers_nextPair` — no transfer is stored for accounts that are yet to be opened.
* `balanced_of_settings`, `exists_settings` — what the opening of both accounts comes to.
* `balanced_of_prepare`, `prepare_of_fresh` — the accounts that the trial begins with.
* `Plan.transfers_ofArguments` — any number of transfers can be asked for.
* **`load_test_passes`** — the test passes both checks, or it ends before them.
* `length_affordable_oneSided` — how many transfers are made when those to one account come first.
-/

import Passbook.Proofs.LoadTest.Trial
import Passbook.Proofs.Run.Seeding
import Passbook.Proofs.Text.Numeral

namespace Passbook

open Ledger (Query Books Tables AccountRow)
open Time (Instant)

/-! ### Laying out the tables -/

namespace Ledger

variable {ledger : Ledger}

/-- Where connections are given out and no fault waits, the tables are laid out. -/
theorem calm_migrate (granted : ledger.access = .granted) (faultless : ledger.faults = []) :
    ledger.migrate.1 = .ok () ∧ ledger.migrate.2.Calm := by
  unfold migrate
  rw [granted]
  by_cases laid : ledger.tables.isSome = true
  · simp only [Access.check, if_pos laid]
    exact ⟨trivial, granted, faultless, laid⟩
  · simp only [Access.check, if_neg laid, note, faultless, Fault.meet]
    exact ⟨trivial, granted, rfl, rfl⟩

end Ledger

namespace LoadTest

/-! ### Opening the accounts -/

/-- The two accounts that are opened next. -/
def nextPair (books : Books) : Pair :=
  ⟨books.serials.accounts + 1, books.serials.accounts + 2⟩

section Opening

variable {now : Instant} {before after : Books} {owner : String} {currency : Currency}
  {account : Account}
  (opens : before.perform now (Work.createAccount ⟨owner, openingBalance, currency⟩) =
    (.ok account, after))

include opens

/-- An account that was just opened. -/
theorem Holds.opened (sound : before.Sound) :
    account.id = before.serials.accounts + 1 ∧ Holds after.rows account.id 0 := by
  obtain ⟨its, rfl⟩ := Books.opened_of_perform opens
  have number : account.id = before.serials.accounts + 1 := congrArg AccountRow.id its
  refine ⟨number, ?_⟩
  have new : ∀ other ∈ before.rows.accounts,
      other.id ≠ (before.openedRow now ⟨owner, openingBalance, currency⟩).id :=
    fun other inside => sound.accounts.ne_next (List.mem_map_of_mem inside)
  rw [number]
  exact {
    stored := ⟨_, (Ledger.find?_snoc new _).trans (if_pos rfl), ⟨currency, rfl⟩,
      (Int.add_zero openingBalance).symm⟩
    entries := sound.entrySum_next
    funded := by decide }

/-- An account that was there before. -/
theorem Holds.kept {id net : Int} (holds : Holds before.rows id net) :
    Holds after.rows id net := by
  obtain ⟨_, rfl⟩ := Books.opened_of_perform opens
  obtain ⟨row, found, its⟩ := holds.stored
  refine ⟨⟨row, ?_, its⟩, holds.entries, holds.funded⟩
  unfold Tables.account? at found ⊢
  simp only [Books.withOpened, List.find?_append, found]
  rfl

end Opening

/-- No transfer is stored yet for the accounts that are opened next. -/
theorem transfers_nextPair {books : Books} (sound : books.Sound) :
    (nextPair books).transfers books.rows = [] := by
  have earlier : ∀ id, books.rows.HasAccount id → id ≤ books.serials.accounts := by
    rintro id ⟨account, stored, rfl⟩
    exact sound.accounts.handed _ (List.mem_map_of_mem stored)
  refine List.filter_eq_nil_iff.mpr fun transfer stored => ?_
  obtain ⟨_, source, target⟩ := sound.ends transfer stored
  have sourceEarlier := earlier _ source
  have targetEarlier := earlier _ target
  simp only [nextPair, Bool.or_eq_true, beq_iff_eq]
  omega

/-- **The opening of the accounts**, where it succeeds, gives the next two, and they are
balanced. -/
theorem balanced_of_settings {now : Instant} {before after : Books} {username : String}
    {pair : Pair} (sound : before.Sound)
    (succeeds : before.perform now (settings username) = (.ok pair, after)) :
    pair = nextPair before ∧ Balanced pair [] after.rows := by
  obtain ⟨user, joined, stores, succeeds⟩ := Books.perform_bind_eq_ok.mp succeeds
  obtain ⟨first, between, opens, succeeds⟩ := Books.perform_bind_eq_ok.mp succeeds
  obtain ⟨second, last, opens', succeeds⟩ := Books.perform_bind_eq_ok.mp succeeds
  obtain ⟨rfl, rfl⟩ := Books.perform_pure_eq_ok.mp succeeds
  have joinedSound := sound.perform stores
  have betweenSound :=
    joinedSound.performed now (Work.createAccount ⟨username, openingBalance, .usd⟩)
  rw [opens] at betweenSound
  obtain ⟨firstNumber, firstHolds⟩ := Holds.opened opens joinedSound
  obtain ⟨secondNumber, secondHolds⟩ := Holds.opened opens' betweenSound
  have stays : joined.serials.accounts = before.serials.accounts ∧
      joined.rows.transfers = before.rows.transfers := by
    cases Books.effect_of_execute (Books.perform_ask_eq_ok.mp stores) with
    | read reads => cases reads
    | userStored _ _ => exact ⟨rfl, rfl⟩
  have later : between.serials.accounts = joined.serials.accounts + 1 ∧
      after.rows.transfers = joined.rows.transfers := by
    obtain ⟨_, rfl⟩ := Books.opened_of_perform opens
    obtain ⟨_, rfl⟩ := Books.opened_of_perform opens'
    exact ⟨rfl, rfl⟩
  have same : (⟨first.id, second.id⟩ : Pair) = nextPair before := by
    rw [nextPair, Pair.mk.injEq]
    omega
  refine ⟨same, ?_, firstHolds.kept opens', secondHolds, ?_⟩
  · show first.id ≠ second.id
    omega
  · rw [same, Pair.transfers, later.2, stays.2]
    exact congrArg (List.map _) (transfers_nextPair sound)

/-- The name is new: no user has it, nor the address that is made of it, and it can be stored. -/
structure Fresh (username : String) (rows : Tables) : Prop where
  absent : ¬ rows.HasUser username
  unaddressed : ∀ other ∈ rows.users, other.email ≠ s!"{username}@load.test"
  storable : '\x00' ∉ username.toList

/-- For a new name the accounts are opened. -/
theorem exists_settings (now : Instant) {books : Books} (sound : books.Sound) {username : String}
    (fresh : Fresh username books.rows) :
    ∃ pair after, books.perform now (settings username) = (.ok pair, after) := by
  let user : NewUser := ⟨username, "Load Test", s!"{username}@load.test"⟩
  let joined := books.joined now [user]
  have stores : books.perform now (Work.createUser user) = (.ok (user.stored now), joined) :=
    Books.perform_createUser now fresh.absent fresh.unaddressed
  have owned : joined.rows.HasUser username :=
    Books.hasUser_joined.mpr (.inr ⟨user, List.mem_singleton_self _, rfl⟩)
  have others : ∀ account ∈ books.rows.accounts, account.owner ≠ username := by
    intro account stored its
    exact fresh.absent (its ▸ sound.owners account stored)
  obtain ⟨first, opens⟩ := @Books.exists_createAccount joined now ⟨username, openingBalance, .usd⟩
    owned fun other inside its => absurd its (others other inside)
  obtain ⟨second, opens'⟩ := @Books.exists_createAccount
    (joined.withOpened now ⟨username, openingBalance, .usd⟩) now ⟨username, openingBalance, .eur⟩
    owned (by
      intro other inside its
      rcases List.mem_append.mp inside with before | here
      · exact absurd its (others other before)
      · rw [List.mem_singleton.mp here]
        exact (by decide : Currency.usd.code ≠ Currency.eur.code))
  exact ⟨_, _, Books.perform_bind_eq_ok.mpr ⟨_, _, stores, Books.perform_bind_eq_ok.mpr
    ⟨_, _, opens, Books.perform_bind_eq_ok.mpr ⟨_, _, opens', Books.perform_pure_eq_ok.mpr
      ⟨rfl, rfl⟩⟩⟩⟩⟩

/-! ### Coming to the trial -/

theorem strict_settings (username : String) : (settings username).Strict := by
  refine Work.strict_bind (Work.strict_ask _) fun user => ?_
  refine Work.strict_bind (Work.single_createAccount _).strict fun first => ?_
  exact Work.strict_bind (Work.single_createAccount _).strict fun second => Work.strict_pure _

/-- The texts of a new name can be stored. -/
theorem Fresh.clean {username : String} {rows : Tables} (fresh : Fresh username rows) :
    (settings username).run.Asks Query.Clean := by
  have user : (Query.insertUser
      ⟨username, "Load Test", s!"{username}@load.test"⟩).Clean := by
    have storable := fresh.storable
    simp [Query.Clean, Query.hasNul, Query.texts, ToString.toString, storable]
  have account : ∀ currency : Currency,
      (Query.insertAccount username openingBalance currency.code).Clean := by
    intro currency
    cases currency <;> simp [Query.Clean, Query.hasNul, Query.texts, fresh.storable, Currency.code]
  refine Script.asks_except_bind (Work.asks_ask _ user) fun _ => ?_
  refine Script.asks_except_bind ((Work.single_createAccount _).asks (account .usd)) fun _ => ?_
  exact Script.asks_except_bind ((Work.single_createAccount _).asks (account .eur)) fun _ => trivial

/-- A load test has what it needs: a database to which it can connect, no fault in waiting, and a
new name. -/
structure Ready (around : Surroundings) (plan : Plan) (ledger : Ledger) : Prop where
  connects : ∃ address, around.database = some address ∧
    openPool address plan.connections ledger = .ok ()
  faultless : ledger.faults = []
  fresh : Fresh around.username ledger.rows

section Preparing

variable {address username : String} {plan : Plan} {ledger : Ledger}

/-- A pool of connections is opened only where connections are given out. -/
theorem granted_of_openPool {connections : Nat}
    (opens : openPool address connections ledger = .ok ()) : ledger.access = .granted := by
  unfold openPool at opens
  split at opens
  · cases opens
  · split at opens
    · cases opens
    · have pinged : ledger.access.check = .ok () := mapError_eq_ok.mp opens
      cases access : ledger.access with
      | granted => rfl
      | closed | unreachable =>
        rw [access] at pinged
        cases pinged

/-- What a preparation that succeeds is made of. -/
theorem prepare_eq_ok {pair : Pair} {after : Ledger} :
    prepare address username plan ledger = (.ok pair, after) ↔
      openPool address plan.connections ledger = .ok () ∧ ledger.migrate.1 = .ok () ∧
        ledger.migrate.2.perform (settings username) = (.ok pair, after) := by
  unfold prepare
  cases openPool address plan.connections ledger with
  | error error => simp
  | ok _ =>
    rcases ledger.migrate with ⟨_ | _, migrated⟩
    · simp
    · show ((migrated.perform (settings username)).1.mapError ProgramError.ofStore,
        (migrated.perform (settings username)).2) = _ ↔ _
      rw [Prod.mk.injEq, mapError_eq_ok, Prod.ext_iff]
      simp

/-- **Where the preparation succeeds**, the next two accounts are opened, and they are balanced. -/
theorem balanced_of_prepare (attained : ledger.Attained) {pair : Pair} {after : Ledger}
    (prepares : prepare address username plan ledger = (.ok pair, after)) :
    pair = nextPair ledger.books ∧ Balanced pair [] after.rows ∧ after.Attained := by
  obtain ⟨_, _, opens⟩ := prepare_eq_ok.mp prepares
  have performs := Ledger.books_of_perform (strict_settings username) (congrArg Prod.fst opens)
  have later := attained.migrate.perform (settings username)
  rw [opens] at performs later
  obtain ⟨next, balanced⟩ := balanced_of_settings attained.migrate.sound performs
  rw [ledger.migrate_books] at next
  exact ⟨next, balanced, later⟩

/-- **Where nothing stands in the way**, the preparation succeeds for a new name, and the ledger is
calm after it. -/
theorem prepare_of_fresh (attained : ledger.Attained)
    (opens : openPool address plan.connections ledger = .ok ()) (faultless : ledger.faults = [])
    (fresh : Fresh username ledger.rows) :
    ∃ pair after, prepare address username plan ledger = (.ok pair, after) ∧ after.Calm := by
  obtain ⟨migrates, calm⟩ := Ledger.calm_migrate (granted_of_openPool opens) faultless
  have rows : ledger.migrate.2.books.rows = ledger.rows :=
    congrArg Books.rows ledger.migrate_books
  obtain ⟨pair, books, performs⟩ := exists_settings ledger.migrate.2.clock
    attained.migrate.sound (rows.symm ▸ fresh)
  have outcome := calm.perform_outcome (strict_settings username) fresh.clean
  rw [performs] at outcome
  exact ⟨pair, (ledger.migrate.2.perform (settings username)).2,
    prepare_eq_ok.mpr ⟨opens, migrates, Prod.ext outcome rfl⟩, calm.perform _⟩

end Preparing

/-! ### The whole test -/

/-- Any number of transfers that fits in 64 bits can be asked for. -/
theorem Plan.transfers_ofArguments {n : Nat}
    (fits : Text.IntegerRange.word64.contains (n : Int) = true) :
    (Plan.ofArguments ["--transfers", toString n]).transfers = n := by
  have written : toString (n : Int) = toString n := rfl
  have read := Text.Numeral.read_toString (by decide) fits
  rw [written] at read
  have given : Plan.number? "--transfers" ["--transfers", toString n] = some n := by
    rw [Plan.number?, Plan.valueAfter, if_pos rfl, List.head?_cons, Option.bind_eq_bind,
      Option.bind_some, read]
    rfl
  simp only [Plan.ofArguments, given, Option.getD_some]

/-- A test that ends before the checks, for want of an answer of the database. -/
structure Unfinished (plan : Plan) (ending : Ending) : Prop where
  code : ending.code = 1
  output : ending.output = [] ∨ ending.output = heading plan

variable {around : Surroundings} {arguments : List String} {ledger : Ledger}

theorem run_of_prepared {address : String} {pair : Pair} {after : Ledger}
    (known : around.database = some address)
    (prepares : prepare address around.username (.ofArguments arguments) ledger =
      (.ok pair, after)) :
    run around arguments ledger = trial around (.ofArguments arguments) pair after := by
  unfold run start
  simp only [known, prepares, Except.mapError]

/-- Without its accounts a test ends before the checks. -/
theorem unfinished_of_unprepared (unprepared : ∀ address, around.database = some address →
      ∃ error after, prepare address around.username (.ofArguments arguments) ledger =
        (.error error, after)) :
    Unfinished (.ofArguments arguments) (run around arguments ledger).1 := by
  unfold run start
  cases known : around.database with
  | none => exact ⟨rfl, .inl rfl⟩
  | some address =>
    obtain ⟨error, after, fails⟩ := unprepared address known
    simp only [fails, Except.mapError]
    exact ⟨rfl, .inr rfl⟩

variable {may : Call → Prop} {past : List Ledger.Exchange}

/-- **A load test raises no false alarm**, in any state that a run leads to, for any number of
transfers and in any order of them, although some may fail. If the test can connect to the database,
no fault waits and its user is new, it makes the transfers that its accounts can pay for in this
order, and passes both checks; and if not, it passes them or it ends before them. -/
theorem load_test_passes (reachable : Reachable may past ledger)
    (permutes : (around.order (Plan.ofArguments arguments).transfers).Perm
      (List.range (Plan.ofArguments arguments).transfers)) :
    (Ready around (.ofArguments arguments) ledger → ∃ tally,
      Passed (.ofArguments arguments) (nextPair ledger.books)
        (affordable openingBalance openingBalance
          (around.order (Plan.ofArguments arguments).transfers))
        tally (run around arguments ledger)) ∧
    ((∃ tally made, made.Sublist (around.order (Plan.ofArguments arguments).transfers) ∧
        Passed (.ofArguments arguments) (nextPair ledger.books) made tally
          (run around arguments ledger)) ∨
      Unfinished (.ofArguments arguments) (run around arguments ledger).1) := by
  have attained : ledger.Attained := ⟨past, reachable.mono fun _ _ => trivial⟩
  constructor
  · rintro ⟨⟨address, known, opens⟩, faultless, fresh⟩
    obtain ⟨pair, after, prepares, calm⟩ := prepare_of_fresh attained opens faultless fresh
    obtain ⟨rfl, balanced, later⟩ := balanced_of_prepare attained prepares
    rw [run_of_prepared known prepares]
    exact passed_of_calm balanced later permutes calm
  · by_cases prepared : ∃ address pair after, around.database = some address ∧
        prepare address around.username (.ofArguments arguments) ledger = (.ok pair, after)
    · obtain ⟨address, pair, after, known, prepares⟩ := prepared
      obtain ⟨rfl, balanced, later⟩ := balanced_of_prepare attained prepares
      rw [run_of_prepared known prepares]
      rcases trial_cases balanced later permutes with ⟨errors, error, ends⟩ | passed
      · rw [ends]
        exact .inr ⟨rfl, .inr rfl⟩
      · exact .inl passed
    · refine .inr (unfinished_of_unprepared fun address known => ?_)
      rcases prepares : prepare address around.username (.ofArguments arguments) ledger with
        ⟨error | pair, after⟩
      · exact ⟨error, after, rfl⟩
      · exact absurd ⟨address, pair, after, known, prepares⟩ prepared

/-- All transfers to the second account come before those back to the first. -/
def oneSided (count : Nat) : List Nat :=
  (List.range count).filter (· % 2 == 0) ++ (List.range count).filter (· % 2 != 0)

/-- So many of the numbers are even. -/
theorem length_forth (count : Nat) :
    ((List.range count).filter (· % 2 == 0)).length = (count + 1) / 2 := by
  induction count with
  | zero => rfl
  | succ count ih =>
    rw [List.range_succ, List.filter_append, List.length_append, ih, List.filter_cons]
    by_cases even : count % 2 = 0
    · rw [if_pos (beq_iff_eq.mpr even), List.filter_nil, List.length_singleton]
      omega
    · rw [if_neg (mt beq_iff_eq.mp even), List.filter_nil, List.length_nil]
      omega

/-- **One-sided transfers** are paid for until the first account is empty, and then those back until
the second is. -/
theorem length_affordable_oneSided (count : Nat) :
    (affordable openingBalance openingBalance (oneSided count)).length =
      min ((count + 1) / 2) 100000 + min (count / 2) (100000 + min ((count + 1) / 2) 100000) := by
  have evens : ∀ n ∈ (List.range count).filter (· % 2 == 0), n % 2 = 0 :=
    fun n member => beq_iff_eq.mp (List.mem_filter.mp member).2
  have odds : ∀ n ∈ (List.range count).filter (· % 2 != 0), n % 2 = 1 := by
    intro n member
    have odd : n % 2 ≠ 0 := bne_iff_ne.mp (List.mem_filter.mp member).2
    omega
  have all : (oneSided count).length = count :=
    (List.filter_append_perm _ _).length_eq.trans List.length_range
  have forth := length_affordable_of_parity evens openingBalance openingBalance
  have carried := brought_of_even fun n member =>
    evens n ((affordable_sublist openingBalance openingBalance _).subset member)
  rw [oneSided, List.length_append, length_forth] at all
  rw [length_forth, if_pos rfl] at forth
  rw [oneSided, affordable_append _ _ (by decide) (by decide), List.length_append,
    length_affordable_of_parity odds, carried, forth]
  rw [if_neg (by decide)]
  unfold openingBalance amount
  omega

def oneSidedTest : Surroundings where
  database := some "postgres://localhost/bank"
  username := "load_x1"
  order := oneSided

/-- Of three hundred thousand transfers, the last of the first half find nothing left. -/
theorem load_test_passes_oneSided : ∃ tally,
    tally.successes = 250000 ∧ tally.failures = 50000 ∧
      Passed ⟨300000, 10⟩ ⟨1, 2⟩ (affordable openingBalance openingBalance (oneSided 300000)) tally
        (run oneSidedTest ["--transfers", "300000"] .blank) := by
  have plan : Plan.ofArguments ["--transfers", "300000"] = ⟨300000, 10⟩ := by decide
  have permutes : (oneSided 300000).Perm (List.range 300000) := List.filter_append_perm _ _
  have fresh : Fresh "load_x1" Ledger.blank.rows := by
    refine ⟨?_, fun other stored => ?_, by decide⟩
    · rintro ⟨user, stored, _⟩
      cases stored
    · cases stored
  have ready : Ready oneSidedTest ⟨300000, 10⟩ .blank :=
    ⟨⟨_, rfl, eq_ok_of_toOption (by decide +kernel)⟩, rfl, fresh⟩
  have reachable : Reachable (fun _ => True) [] .blank := .blank
  have passes := @load_test_passes oneSidedTest ["--transfers", "300000"] _ _ _ reachable
  rw [plan] at passes
  obtain ⟨tally, passed⟩ := (passes permutes).1 ready
  have made : tally.successes = 250000 := by
    rw [passed.successes, ← List.length_map Transfer.movement, passed.stored, List.length_map]
    exact length_affordable_oneSided 300000
  have counts : tally.successes + tally.failures = 300000 := passed.counts
  exact ⟨tally, made, by omega, passed⟩

end LoadTest

end Passbook
