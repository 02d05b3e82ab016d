/-
**What the seeding does.**

The seeding goes through its users one after another, and what it does for one must make no
difference to the next: no two of them share a username or an email.

* `Seed.missingUsers`, `Seed.missingAccounts` — what is not there yet; `Seed.Blocked` — someone has
  the email of a user who is not there.
* `Books.opened_of_perform`, `Books.exists_createAccount` — the opening of one account.
* `Books.seeded` — the books with what was missing; `seeded_cons` — user after user, or at once.
* **`Books.perform_seedAll`**, `perform_seedAll_of_blocked` — what the seeding comes to on the
  books; `Ledger.seed_cases` — and in a ledger that may be in trouble.
* `Seed.Present` — nothing is missing; `present_seeded`, `Present.extends` — so it is after a
  seeding and from then on, since of users and accounts what names them lasts; `seed_of_present` —
  a seeding where nothing is missing.
* **`seeding_exact`** — the seeding in every state, and every seeding after it.
-/

import Passbook.Proofs.Run.Integrity

namespace Passbook

open Ledger (Query Books Tables AccountRow Exchange)
open Time (Instant)

/-! ### What is missing -/

/-- The user as it is stored. -/
def NewUser.stored (now : Instant) (new : NewUser) : User :=
  ⟨new.username, new.fullName, new.email, now⟩

/-- The owner has an account in the currency. -/
def Ledger.Tables.isHeld (rows : Tables) (owner : String) (currency : Currency) : Bool :=
  rows.accounts.any fun account => account.owner == owner && account.currency == currency.code

theorem Ledger.Tables.isHeld_iff {rows : Tables} {owner : String} {currency : Currency} :
    rows.isHeld owner currency = true ↔
      (owner, currency.code) ∈ rows.accounts.map AccountRow.holding := by
  simp [isHeld, AccountRow.holding]

namespace Seed

/-- Owner and currency of each account of a demonstration user. -/
def Demo.holdings (demo : Demo) : List (String × Currency) :=
  demo.currencies.map fun currency => (demo.user.username, currency)

/-- The users of the list who are not there. -/
def missingUsers (list : List Demo) (rows : Tables) : List NewUser :=
  (list.map (·.user)).filter fun user => (rows.user? user.username).isNone

/-- Owner and currency of the accounts of the list that are not there. -/
def missingAccounts (list : List Demo) (rows : Tables) : List (String × Currency) :=
  (list.flatMap Demo.holdings).filter fun holding => !rows.isHeld holding.1 holding.2

/-- Someone has the email of a user of the list who is not there. -/
def Blocked (list : List Demo) (rows : Tables) : Prop :=
  ∃ demo ∈ list, ¬ rows.HasUser demo.user.username ∧
    ∃ other ∈ rows.users, other.email = demo.user.email

/-- Accounts with the demonstration balance, numbered on from the last number. -/
def opened (now : Instant) : Int → List (String × Currency) → List AccountRow
  | _, [] => []
  | last, (owner, currency) :: rest =>
    ⟨last + 1, owner, balance, currency.code, now⟩ :: opened now (last + 1) rest

variable {now : Instant} {last : Int}

theorem opened_append (first second : List (String × Currency)) :
    opened now last (first ++ second) =
      opened now last first ++ opened now (last + first.length) second := by
  induction first generalizing last with
  | nil => simp [opened]
  | cons holding rest ih =>
    have next : last + 1 + (rest.length : Int) = last + ((holding :: rest).length : Nat) := by
      rw [List.length_cons]
      omega
    rw [List.cons_append, opened, opened, ih, next]
    rfl

theorem map_holding_opened (holdings : List (String × Currency)) :
    (opened now last holdings).map AccountRow.holding =
      holdings.map fun holding => (holding.1, holding.2.code) := by
  induction holdings generalizing last with
  | nil => rfl
  | cons holding rest ih =>
    rw [opened, List.map_cons, ih]
    rfl

theorem readable_opened {holdings : List (String × Currency)} {account : AccountRow}
    (member : account ∈ opened now last holdings) :
    account.balance = balance ∧ account.Readable := by
  induction holdings generalizing last with
  | nil => cases member
  | cons holding rest ih =>
    rw [opened, List.mem_cons] at member
    rcases member with rfl | later
    · exact ⟨rfl, holding.2, rfl⟩
    · exact ih later

theorem missingUsers_cons (demo : Demo) (rest : List Demo) (rows : Tables) :
    missingUsers (demo :: rest) rows = missingUsers [demo] rows ++ missingUsers rest rows := by
  show (List.map _ ([demo] ++ rest)).filter _ = _
  rw [List.map_append, List.filter_append]
  rfl

theorem missingAccounts_cons (demo : Demo) (rest : List Demo) (rows : Tables) :
    missingAccounts (demo :: rest) rows =
      missingAccounts [demo] rows ++ missingAccounts rest rows := by
  show (List.flatMap _ ([demo] ++ rest)).filter _ = _
  rw [List.flatMap_append, List.filter_append]
  rfl

theorem blocked_cons {demo : Demo} {rest : List Demo} {rows : Tables} :
    Blocked (demo :: rest) rows ↔ Blocked [demo] rows ∨ Blocked rest rows := by
  simp [Blocked]

/-- No two users of the list share a username or an email, and none has a currency twice. -/
structure Distinct (list : List Demo) : Prop where
  usernames : (list.map (·.user.username)).Nodup
  emails : (list.map (·.user.email)).Nodup
  currencies : ∀ demo ∈ list, demo.currencies.Nodup

theorem Distinct.tail {demo : Demo} {rest : List Demo} (distinct : Distinct (demo :: rest)) :
    Distinct rest where
  usernames := (List.nodup_cons.mp distinct.usernames).2
  emails := (List.nodup_cons.mp distinct.emails).2
  currencies other member := distinct.currencies other (List.mem_cons_of_mem _ member)

theorem distinct_demos : Distinct demos :=
  ⟨by decide, by decide, by decide⟩

end Seed

/-! ### Books that are seeded -/

namespace Ledger.Books

open Seed (Demo missingUsers missingAccounts Blocked opened)

/-- The books with users stored. -/
def joined (now : Instant) (users : List NewUser) (books : Books) : Books :=
  { books with rows :=
    { books.rows with users := books.rows.users ++ users.map (·.stored now) } }

/-- The books with accounts opened. -/
def opening (now : Instant) (holdings : List (String × Currency)) (books : Books) : Books :=
  ⟨{ books.serials with accounts := books.serials.accounts + holdings.length },
    { books.rows with accounts :=
        books.rows.accounts ++ opened now books.serials.accounts holdings }⟩

/-- The books with what is missing of the list. -/
def seeded (now : Instant) (list : List Demo) (books : Books) : Books :=
  (books.joined now (missingUsers list books.rows)).opening now
    (missingAccounts list books.rows)

variable {now : Instant} {books : Books}

theorem joined_nil (now : Instant) (books : Books) : books.joined now [] = books := by
  simp [joined]

theorem opening_nil (now : Instant) (books : Books) : books.opening now [] = books := by
  simp [opening, opened]

theorem opening_opening (first second : List (String × Currency)) :
    (books.opening now first).opening now second = books.opening now (first ++ second) := by
  simp [opening, Seed.opened_append, Int.add_assoc]

theorem isHeld_opening {holdings : List (String × Currency)} {owner : String}
    {currency : Currency} : (books.opening now holdings).rows.isHeld owner currency = true ↔
      books.rows.isHeld owner currency = true ∨ (owner, currency) ∈ holdings := by
  rw [Tables.isHeld_iff, Tables.isHeld_iff]
  show _ ∈ List.map _ (_ ++ _) ↔ _
  rw [List.map_append, List.mem_append, Seed.map_holding_opened]
  refine or_congr_right ?_
  constructor
  · intro member
    obtain ⟨⟨given, held⟩, inside, same⟩ := List.mem_map.mp member
    rw [Prod.mk.injEq] at same
    rw [← same.1, ← Currency.code_injective same.2]
    exact inside
  · exact fun inside => List.mem_map.mpr ⟨_, inside, rfl⟩

theorem hasUser_joined {users : List NewUser} {username : String} :
    (books.joined now users).rows.HasUser username ↔
      books.rows.HasUser username ∨ ∃ new ∈ users, new.username = username := by
  simp only [Tables.HasUser, joined, List.mem_append, List.mem_map, or_and_right, exists_or]
  refine or_congr_right ?_
  constructor
  · rintro ⟨_, ⟨new, inside, rfl⟩, its⟩
    exact ⟨new, inside, its⟩
  · rintro ⟨new, inside, its⟩
    exact ⟨_, ⟨new, inside, rfl⟩, its⟩

/-! ### The statements of the seeding -/

theorem Sound.performed {α : Type} (sound : books.Sound) (now : Instant) (work : Work α) :
    (books.perform now work).2.Sound := by
  unfold Books.perform
  generalize work.run = script
  induction script generalizing books with
  | done result => exact sound
  | ask query next ih =>
    refine ih _ ?_
    show (books.reply now query).2.Sound
    unfold reply
    cases executed : books.execute now query with
    | ok outcome => exact sound.execute executed
    | error refusal => exact sound.later (books.serials.le_take query)

theorem perform_findUser (username : String) :
    books.perform now (Work.findUser username) = (.ok (books.rows.user? username), books) :=
  perform_ask_eq_ok.mpr (execute_eq_ok.mpr ⟨rfl, rfl⟩)

theorem perform_createUser (now : Instant) {new : NewUser}
    (absent : ¬ books.rows.HasUser new.username)
    (free : ∀ other ∈ books.rows.users, other.email ≠ new.email) :
    books.perform now (Work.createUser new) = (.ok (new.stored now), books.joined now [new]) :=
  perform_ask_eq_ok.mpr <| execute_eq_ok.mpr ⟨Tables.insertUser_eq_ok.mpr
    ⟨fun other inside its => absent ⟨other, inside, its⟩, free, rfl, rfl⟩, rfl⟩

/-- The row of an account that is opened next. -/
def openedRow (now : Instant) (opening : AccountOpening) (books : Books) : AccountRow :=
  ⟨books.serials.accounts + 1, opening.owner, opening.balance, opening.currency.code, now⟩

/-- The books with an account opened. -/
def withOpened (now : Instant) (opening : AccountOpening) (books : Books) : Books :=
  ⟨{ books.serials with accounts := books.serials.accounts + 1 },
    { books.rows with accounts := books.rows.accounts ++ [books.openedRow now opening] }⟩

/-- An account that is opened is stored under the next number. -/
theorem opened_of_perform {opening : AccountOpening} {account : Account} {next : Books}
    (opens : books.perform now (Work.createAccount opening) = (.ok account, next)) :
    account.toRow = books.openedRow now opening ∧ next = books.withOpened now opening := by
  obtain ⟨row, between, asked, loaded⟩ := perform_bind_eq_ok.mp opens
  obtain ⟨loads, rfl⟩ := perform_load_eq_ok.mp loaded
  cases effect_of_execute (perform_ask_eq_ok.mp asked) with
  | read reads => cases reads
  | accountOpened _ _ => exact ⟨AccountRow.load_eq_ok.mp loads, rfl⟩

/-- An account is opened for a user who has none in its currency. -/
theorem exists_createAccount (now : Instant) {opening : AccountOpening}
    (owned : books.rows.HasUser opening.owner) (free : ∀ other ∈ books.rows.accounts,
      other.owner = opening.owner → other.currency ≠ opening.currency.code) :
    ∃ account, books.perform now (Work.createAccount opening) =
      (.ok account, books.withOpened now opening) := by
  let account : Account :=
    ⟨books.serials.accounts + 1, opening.owner, opening.balance, opening.currency, now⟩
  refine ⟨account, (Work.single_createAccount opening).perform_books ?_ account.load_toRow⟩
  exact execute_eq_ok.mpr ⟨Tables.insertAccount_eq_ok.mpr ⟨free, owned, rfl, rfl⟩, rfl⟩

theorem perform_createAccount (now : Instant) {owner : String} {currency : Currency}
    (owned : books.rows.HasUser owner) (free : books.rows.isHeld owner currency = false) :
    ∃ account, books.perform now (Work.createAccount ⟨owner, Seed.balance, currency⟩) =
      (.ok account, books.opening now [(owner, currency)]) := by
  have new : ∀ other ∈ books.rows.accounts, other.owner = owner →
      other.currency ≠ currency.code := fun other inside its same => by
    have held : books.rows.isHeld owner currency = true :=
      Tables.isHeld_iff.mpr (List.mem_map.mpr ⟨other, inside, Prod.ext its same⟩)
    rw [free] at held
    cases held
  exact @exists_createAccount books now ⟨owner, Seed.balance, currency⟩ owned new

/-- A listing with room for all accounts of an owner tells in which currencies they are. -/
theorem perform_listAccounts (now : Instant) (sound : books.Sound) (typed : books.rows.Typed)
    (owner : String) :
    ∃ existing, books.perform now
        (Work.listAccounts ⟨owner, ⟨Currency.all.length, 0⟩⟩) = (.ok existing, books) ∧
      ∀ currency, (existing.any fun account => account.currency == currency) =
        books.rows.isHeld owner currency := by
  have readable : ∀ row ∈ books.rows.accountsOf owner, row.Readable :=
    fun row member => (typed row (List.mem_filter.mp member).1).2
  obtain ⟨existing, loaded⟩ := exists_mapM_load readable
  have room := Int.ofNat_le.mpr (length_accountsOf_le sound typed owner)
  refine ⟨existing, perform_bind_eq_ok.mpr
    ⟨_, _, perform_ask_eq_ok.mpr (execute_eq_ok.mpr
      ⟨Tables.reading_eq_ok.mpr ⟨Tables.cut_all room, rfl⟩, rfl⟩),
      perform_load_eq_ok.mpr ⟨loaded, rfl⟩⟩, fun currency => ?_⟩
  have same : existing.map Account.toRow = books.rows.accountsOf owner := mapM_load_eq_ok.mp loaded
  have codes : ((fun row : AccountRow => row.currency == currency.code) ∘ Account.toRow) =
      fun account => account.currency == currency := by
    funext account
    rw [Bool.eq_iff_iff]
    simp only [Function.comp_apply, beq_iff_eq]
    exact ⟨Currency.code_injective, congrArg Currency.code⟩
  rw [Tables.isHeld, ← List.any_filter, ← Tables.accountsOf, ← same, List.any_map, codes]

/-- **The accounts that the listing does not show are opened.** -/
theorem perform_openMissing {owner : String} {existing : List Account}
    {currencies : List Currency} (distinct : currencies.Nodup)
    (owned : books.rows.HasUser owner) (shown : ∀ currency ∈ currencies,
      (existing.any fun account => account.currency == currency) =
        books.rows.isHeld owner currency) {new : List Currency}
    (missing : new = currencies.filter fun currency => !books.rows.isHeld owner currency) :
    books.perform now (Seed.openMissing owner existing currencies) =
      (.ok new.length, books.opening now (new.map (owner, ·))) := by
  subst missing
  induction currencies generalizing books with
  | nil => exact congrArg _ (opening_nil now books).symm
  | cons currency rest ih =>
    obtain ⟨once, distinct⟩ := List.nodup_cons.mp distinct
    have later : ∀ other ∈ rest, _ :=
      fun other inside => shown other (List.mem_cons_of_mem _ inside)
    rw [Seed.openMissing, shown currency List.mem_cons_self]
    cases held : books.rows.isHeld owner currency with
    | true =>
      rw [if_pos rfl, List.filter_cons_of_neg (by simp [held])]
      exact ih distinct owned later
    | false =>
      obtain ⟨account, opens⟩ := perform_createAccount now owned held
      -- the account that was opened is in none of the other currencies
      have same : ∀ other ∈ rest,
          (books.opening now [(owner, currency)]).rows.isHeld owner other =
            books.rows.isHeld owner other := fun other inside => by
        rw [Bool.eq_iff_iff, isHeld_opening, List.mem_singleton, Prod.mk.injEq]
        exact or_iff_left fun here => once (here.2 ▸ inside)
      have opened := @ih (books.opening now [(owner, currency)]) distinct owned
        fun other inside => (later other inside).trans (same other inside).symm
      have filtered : (rest.filter fun other =>
          !(books.opening now [(owner, currency)]).rows.isHeld owner other) =
          rest.filter fun other => !books.rows.isHeld owner other :=
        List.filter_congr fun other inside => by rw [same other inside]
      rw [filtered, opening_opening] at opened
      rw [if_neg Bool.false_ne_true, List.filter_cons_of_pos (by simp [held]),
        perform_bind_of_ok opens, perform_bind_of_ok opened]
      rfl

/-! ### One user after another -/

/-- The accounts of a user who is there are listed, and those that are missing are opened. -/
theorem perform_openAccounts (now : Instant) (sound : books.Sound) (typed : books.rows.Typed)
    {demo : Demo} (distinct : demo.currencies.Nodup)
    (there : books.rows.HasUser demo.user.username) :
    books.perform now (do
        let existing ← Work.listAccounts ⟨demo.user.username, ⟨Currency.all.length, 0⟩⟩
        Seed.openMissing demo.user.username existing demo.currencies) =
      (.ok (missingAccounts [demo] books.rows).length,
        books.opening now (missingAccounts [demo] books.rows)) := by
  obtain ⟨existing, lists, shown⟩ := perform_listAccounts now sound typed demo.user.username
  have same : missingAccounts [demo] books.rows = (demo.currencies.filter fun currency =>
      !books.rows.isHeld demo.user.username currency).map (demo.user.username, ·) := by
    simp [missingAccounts, Demo.holdings, List.filter_map, Function.comp_def]
  rw [perform_bind_of_ok lists,
    perform_openMissing distinct there (fun currency _ => shown currency) rfl, same,
    List.length_map]

/-- **One user** is stored, unless someone is there under that name, and has the missing accounts
opened. -/
theorem perform_seedDemo (now : Instant) (sound : books.Sound) (typed : books.rows.Typed)
    {demo : Demo} (distinct : demo.currencies.Nodup) (free : ¬ Blocked [demo] books.rows) :
    books.perform now (Seed.seedDemo demo) =
      (.ok (missingAccounts [demo] books.rows).length, books.seeded now [demo]) := by
  have users : missingUsers [demo] books.rows =
      if (books.rows.user? demo.user.username).isNone then [demo.user] else [] := by
    cases missing : (books.rows.user? demo.user.username).isNone <;> simp [missingUsers, missing]
  unfold Seed.seedDemo seeded
  rw [perform_bind_of_ok (perform_findUser _), users]
  cases missing : (books.rows.user? demo.user.username).isNone with
  | true =>
    have absent : ¬ books.rows.HasUser demo.user.username := fun there =>
      Tables.user?_isNone.mpr there missing
    have creates := perform_createUser now absent fun other inside same =>
      free ⟨demo, List.mem_singleton_self _, absent, other, inside, same⟩
    have sound' := sound.performed now (Work.createUser demo.user)
    rw [creates] at sound'
    rw [if_pos rfl, if_pos rfl, perform_bind_of_ok creates]
    exact perform_openAccounts now sound' typed distinct
      (hasUser_joined.mpr (.inr ⟨demo.user, List.mem_singleton_self _, rfl⟩))
  | false =>
    rw [if_neg Bool.false_ne_true, if_neg Bool.false_ne_true, joined_nil]
    refine perform_openAccounts now sound typed distinct (Tables.user?_isNone.mp ?_)
    rw [missing]
    exact Bool.false_ne_true

/-- Where someone else has the email of a user who is not there, it is refused. -/
theorem perform_seedDemo_of_blocked {demo : Demo} (blocked : Blocked [demo] books.rows) :
    (books.perform now (Seed.seedDemo demo)).1 =
      .error (.database (.ofRefusal (.duplicate "users_email_key"))) := by
  obtain ⟨user, member, absent, other, inside, same⟩ := blocked
  rw [List.mem_singleton.mp member] at absent same
  have missing : (books.rows.user? demo.user.username).isNone = true := by
    by_contra there
    exact absent (Tables.user?_isNone.mp there)
  unfold Seed.seedDemo
  rw [perform_bind_of_ok (perform_findUser _), missing, if_pos rfl]
  refine perform_bind_of_error (perform_ask_of_error (execute_eq_error.mpr ?_))
  refine Tables.insertUser_eq_error.mpr (.inr ⟨fun other inside its => ?_, ?_, rfl⟩)
  · exact absent ⟨other, inside, its⟩
  · exact ⟨other, inside, same⟩

theorem hasUser_seeded {list : List Demo} {username : String} :
    (books.seeded now list).rows.HasUser username ↔ books.rows.HasUser username ∨
      ∃ new ∈ missingUsers list books.rows, new.username = username :=
  hasUser_joined

theorem isHeld_seeded {list : List Demo} {owner : String} {currency : Currency} :
    (books.seeded now list).rows.isHeld owner currency = true ↔
      books.rows.isHeld owner currency = true ∨
        (owner, currency) ∈ missingAccounts list books.rows :=
  isHeld_opening

section Apart

variable {demo : Demo} {rest : List Demo} (distinct : Seed.Distinct (demo :: rest))

include distinct

/-- What was seeded of one user makes no difference to another, who shares neither username nor
email with that one. -/
theorem hasUser_seeded_apart {other : Demo} (member : other ∈ rest) :
    (books.seeded now [demo]).rows.HasUser other.user.username ↔
      books.rows.HasUser other.user.username := by
  rw [hasUser_seeded]
  refine or_iff_left ?_
  rintro ⟨new, missing, same⟩
  obtain rfl := List.mem_singleton.mp (List.mem_filter.mp missing).1
  exact (List.nodup_cons.mp distinct.usernames).1 (List.mem_map.mpr ⟨other, member, same.symm⟩)

theorem missingUsers_seeded_apart :
    missingUsers rest (books.seeded now [demo]).rows = missingUsers rest books.rows := by
  refine List.filter_congr fun user inside => ?_
  obtain ⟨other, member, rfl⟩ := List.mem_map.mp inside
  rw [Bool.eq_iff_iff, ← not_iff_not, Tables.user?_isNone, Tables.user?_isNone]
  exact hasUser_seeded_apart distinct member

theorem missingAccounts_seeded_apart :
    missingAccounts rest (books.seeded now [demo]).rows = missingAccounts rest books.rows := by
  refine List.filter_congr fun holding inside => congrArg not ?_
  obtain ⟨other, member, its⟩ := List.mem_flatMap.mp inside
  obtain ⟨currency, _, rfl⟩ := List.mem_map.mp its
  rw [Bool.eq_iff_iff, isHeld_seeded]
  refine or_iff_left fun missing => ?_
  obtain ⟨first, here, wanted⟩ := List.mem_flatMap.mp (List.mem_filter.mp missing).1
  obtain rfl := List.mem_singleton.mp here
  obtain ⟨_, _, same⟩ := List.mem_map.mp wanted
  exact (List.nodup_cons.mp distinct.usernames).1
    (List.mem_map.mpr ⟨other, member, (congrArg Prod.fst same).symm⟩)

theorem blocked_seeded_apart :
    Blocked rest (books.seeded now [demo]).rows ↔ Blocked rest books.rows := by
  refine exists_congr fun other => and_congr_right fun member =>
    and_congr (not_congr (hasUser_seeded_apart distinct member)) ?_
  constructor
  · rintro ⟨user, stored, same⟩
    rcases List.mem_append.mp stored with before | new
    · exact ⟨user, before, same⟩
    · obtain ⟨created, missing, rfl⟩ := List.mem_map.mp new
      obtain rfl := List.mem_singleton.mp (List.mem_filter.mp missing).1
      exact absurd (List.mem_map.mpr ⟨other, member, same.symm⟩)
        (List.nodup_cons.mp distinct.emails).1
  · rintro ⟨user, stored, same⟩
    exact ⟨user, List.mem_append_left _ stored, same⟩

/-- What is seeded of one user, and then of the others, is what is seeded of all. -/
theorem seeded_cons :
    (books.seeded now [demo]).seeded now rest = books.seeded now (demo :: rest) := by
  rw [seeded, missingUsers_seeded_apart distinct, missingAccounts_seeded_apart distinct]
  simp [seeded, joined, opening, Seed.missingUsers_cons demo rest,
    Seed.missingAccounts_cons demo rest, Seed.opened_append, Int.add_assoc]

end Apart

theorem typed_seeded {list : List Demo} (typed : books.rows.Typed) :
    (books.seeded now list).rows.Typed := by
  intro account member
  rcases List.mem_append.mp member with before | new
  · exact typed account before
  · obtain ⟨same, readable⟩ := Seed.readable_opened new
    rw [same]
    exact ⟨by decide, readable⟩

/-- **The seeding on the books** stores what is missing, unless it is blocked. -/
theorem perform_seedAll {list : List Demo} (distinct : Seed.Distinct list) (sound : books.Sound)
    (typed : books.rows.Typed) (free : ¬ Blocked list books.rows) :
    books.perform now (Seed.seedAll list) =
      (.ok (missingAccounts list books.rows).length, books.seeded now list) := by
  induction list generalizing books with
  | nil =>
    refine congrArg (Prod.mk _) ?_
    exact ((opening_nil now _).trans (joined_nil now books)).symm
  | cons demo rest ih =>
    rw [Seed.blocked_cons, not_or] at free
    have first := perform_seedDemo now sound typed
      (distinct.currencies demo List.mem_cons_self) free.1
    have sound' := sound.performed now (Seed.seedDemo demo)
    rw [first] at sound'
    have later := ih distinct.tail sound' (typed_seeded typed)
      (mt (blocked_seeded_apart distinct).mp free.2)
    rw [Seed.seedAll, perform_bind_of_ok first, perform_bind_of_ok later, seeded_cons distinct,
      missingAccounts_seeded_apart distinct, Seed.missingAccounts_cons demo rest,
      List.length_append]
    rfl

/-- **Where the seeding is blocked**, it fails as a violation of a unique key. -/
theorem perform_seedAll_of_blocked {list : List Demo} (distinct : Seed.Distinct list)
    (sound : books.Sound) (typed : books.rows.Typed) (blocked : Blocked list books.rows) :
    (books.perform now (Seed.seedAll list)).1 =
      .error (.database (.ofRefusal (.duplicate "users_email_key"))) := by
  induction list generalizing books with
  | nil =>
    obtain ⟨_, member, _⟩ := blocked
    cases member
  | cons demo rest ih =>
    rw [Seed.seedAll]
    by_cases here : Blocked [demo] books.rows
    · exact perform_bind_of_error (perform_seedDemo_of_blocked here)
    · have first := perform_seedDemo now sound typed
        (distinct.currencies demo List.mem_cons_self) here
      have sound' := sound.performed now (Seed.seedDemo demo)
      rw [first] at sound'
      rw [perform_bind_of_ok first]
      refine perform_bind_of_error (ih distinct.tail sound' (typed_seeded typed) ?_)
      exact (blocked_seeded_apart distinct).mpr ((Seed.blocked_cons.mp blocked).resolve_left here)

end Ledger.Books

/-! ### Seeding a ledger -/

namespace Seed

theorem strict_openMissing (owner : String) (existing : List Account)
    (currencies : List Currency) : (openMissing owner existing currencies).Strict := by
  induction currencies with
  | nil => exact trivial
  | cons currency rest ih =>
    refine Work.strict_ite ih (Work.strict_bind (Work.single_createAccount _).strict fun _ => ?_)
    exact Work.strict_bind ih fun _ => trivial

theorem strict_seedDemo (demo : Demo) : (seedDemo demo).Strict := by
  have lists := (Work.single_listAccounts ⟨demo.user.username, ⟨Currency.all.length, 0⟩⟩).strict
  have opens := fun existing => strict_openMissing demo.user.username existing demo.currencies
  refine Work.strict_bind (Work.strict_ask _) fun found => Work.strict_ite ?_ ?_
  · exact Work.strict_bind (Work.strict_ask _) fun _ => Work.strict_bind lists opens
  · exact Work.strict_bind lists opens

theorem strict_seedAll (list : List Demo) : (seedAll list).Strict := by
  induction list with
  | nil => exact trivial
  | cons demo rest ih =>
    exact Work.strict_bind (strict_seedDemo demo) fun _ => Work.strict_bind ih fun _ => trivial

/-- The texts of the demonstration can be stored. -/
theorem Demo.asks_clean {demo : Demo} (member : demo ∈ demos) : demo.Asks Query.Clean := by
  have clean : ∀ demo ∈ demos, (Query.findUser demo.user.username).hasNul = false ∧
      (Query.insertUser demo.user).hasNul = false ∧
      ∀ currency ∈ demo.currencies,
        (Query.insertAccount demo.user.username balance currency.code).hasNul = false := by
    decide
  obtain ⟨finds, stores, opens⟩ := clean demo member
  exact ⟨finds, stores, finds, opens⟩

end Seed

namespace Ledger

open Seed (demos missingAccounts Blocked)

variable {ledger : Ledger}

/-- Trouble makes a seeding fail, or it is blocked, or it stores what is missing. -/
theorem seed_cases (laid : ledger.tables.isSome = true) (sound : ledger.books.Sound)
    (typed : ledger.rows.Typed) :
    (∃ error trouble, ledger.Trouble trouble ∧ ledger.seed.1 = .error error ∧
      error.origin = .database trouble ∧ ledger.seed.2.rows = ledger.rows) ∨
    (Blocked demos ledger.rows ∧ (∃ error, ledger.seed.1 = .error error ∧
      error.isUniqueViolation = true) ∧ ledger.seed.2.rows = ledger.rows) ∨
    (¬ Blocked demos ledger.rows ∧
      ledger.seed.1 = .ok (missingAccounts demos ledger.rows).length ∧
      ledger.seed.2.books = ledger.books.seeded ledger.clock demos) := by
  have strict := Seed.strict_seedAll demos
  have clean : (Seed.seedAll demos).run.Asks Query.Clean :=
    Seed.asks_seedAll fun _ => Seed.Demo.asks_clean
  have leaves : ∀ {error}, ledger.seed.1 = .error error → ledger.seed.2.rows = ledger.rows :=
    rows_of_transact_error
  by_cases blocked : Blocked demos ledger.rows
  · have refused : (ledger.books.perform ledger.clock _).1 = _ :=
      Books.perform_seedAll_of_blocked Seed.distinct_demos sound typed blocked
    rcases transact_outcome strict clean laid with
      same | ⟨error, fails, ⟨trouble, met, origin⟩ | ⟨cause, comes, origin⟩⟩
    · have fails := same.trans refused
      exact .inr (.inl ⟨blocked, ⟨_, fails, by decide⟩, leaves fails⟩)
    · exact .inl ⟨error, trouble, met, fails, origin, leaves fails⟩
    · rw [refused, Except.error.injEq] at comes
      refine .inr (.inl ⟨blocked, ⟨error, fails, ?_⟩, leaves fails⟩)
      rw [StoreError.isUniqueViolation, ← StoreError.code?_origin, origin, ← comes]
      decide
  · have stores : ledger.books.perform ledger.clock _ = _ :=
      Books.perform_seedAll Seed.distinct_demos sound typed blocked
    rcases transact_outcome strict clean laid with
      same | ⟨error, fails, ⟨trouble, met, origin⟩ | ⟨cause, comes, _⟩⟩
    · have succeeds := same.trans (congrArg Prod.fst stores)
      obtain ⟨_, _, performs⟩ := perform_of_lands (lands_of_strict strict succeeds)
      exact .inr (.inr ⟨blocked, succeeds, congrArg Prod.snd (performs.symm.trans stores)⟩)
    · exact .inl ⟨error, trouble, met, fails, origin, leaves fails⟩
    · rw [stores] at comes
      cases comes

/-- A seeding succeeds only where tables are laid out. -/
theorem laid_of_seed {opened : Nat} (succeeds : ledger.seed.1 = .ok opened) :
    ledger.tables.isSome = true :=
  laid_of_lands rfl (lands_of_strict (Seed.strict_seedAll demos) succeeds)

end Ledger

/-! ### Seeded for good -/

namespace Seed

/-- Every user of the list is there, and so are their accounts. -/
structure Present (list : List Demo) (rows : Tables) : Prop where
  users : ∀ demo ∈ list, rows.HasUser demo.user.username
  accounts : ∀ holding ∈ list.flatMap Demo.holdings, rows.isHeld holding.1 holding.2 = true

variable {list : List Demo} {before after : Books} {now : Instant}

theorem present_seeded (list : List Demo) (before : Books) :
    Present list (before.seeded now list).rows where
  users demo member := by
    rw [Books.hasUser_seeded]
    by_cases there : before.rows.HasUser demo.user.username
    · exact .inl there
    · refine .inr ⟨demo.user, List.mem_filter.mpr ⟨List.mem_map_of_mem member, ?_⟩, rfl⟩
      by_contra found
      exact there (Tables.user?_isNone.mp found)
  accounts holding member := by
    rw [Books.isHeld_seeded]
    cases held : before.rows.isHeld holding.1 holding.2 with
    | true => exact .inl rfl
    | false => exact .inr (List.mem_filter.mpr ⟨member, by rw [held]; rfl⟩)

/-- What is there stays there: of a user and of an account, what names them lasts. -/
theorem Present.extends (present : Present list before.rows) (extended : before.Extends after) :
    Present list after.rows where
  users demo member := by
    obtain ⟨user, stored, its⟩ := present.users demo member
    obtain ⟨later, inside, same⟩ :=
      List.mem_map.mp (extended.users.subset (List.mem_map_of_mem (f := User.lasting) stored))
    exact ⟨later, inside, (congrArg Prod.fst same).trans its⟩
  accounts holding member := by
    obtain ⟨account, stored, its⟩ :=
      List.mem_map.mp (Tables.isHeld_iff.mp (present.accounts holding member))
    obtain ⟨later, inside, same⟩ := List.mem_map.mp
      (extended.accounts.subset (List.mem_map_of_mem (f := AccountRow.lasting) stored))
    refine Tables.isHeld_iff.mpr (List.mem_map.mpr ⟨later, inside, Eq.trans ?_ its⟩)
    exact congrArg (fun lasting => (lasting.2.1, lasting.2.2.1)) same

namespace Present

variable {rows : Tables} (present : Present list rows)

include present

theorem not_blocked : ¬ Blocked list rows :=
  fun ⟨demo, member, absent, _⟩ => absent (present.users demo member)

theorem missingUsers : missingUsers list rows = [] := by
  refine List.filter_eq_nil_iff.mpr fun user inside => ?_
  obtain ⟨demo, member, rfl⟩ := List.mem_map.mp inside
  exact Tables.user?_isNone.mpr (present.users demo member)

theorem missingAccounts : missingAccounts list rows = [] := by
  refine List.filter_eq_nil_iff.mpr fun holding inside => ?_
  rw [present.accounts holding inside]
  exact Bool.false_ne_true

end Present

end Seed

/-! ### Runs -/

variable {past : List Exchange} {ledger after : Ledger}

section Again

variable (sound : ledger.books.Sound) (typed : ledger.rows.Typed)

include sound typed

/-- Once the seeding has succeeded, nothing is missing. -/
theorem Ledger.present_of_seed {count : Nat} (succeeds : ledger.seed.1 = .ok count) :
    Seed.Present Seed.demos ledger.seed.2.rows := by
  rcases Ledger.seed_cases (Ledger.laid_of_seed succeeds) sound typed with
    ⟨_, _, _, fails, _⟩ | ⟨_, ⟨_, fails, _⟩, _⟩ | ⟨_, _, books⟩
  · rw [fails] at succeeds
    cases succeeds
  · rw [fails] at succeeds
    cases succeeds
  · rw [show ledger.seed.2.rows = _ from congrArg Books.rows books]
    exact Seed.present_seeded Seed.demos ledger.books

/-- **Where nothing is missing** a seeding opens nothing and changes nothing. -/
theorem Ledger.seed_of_present (laid : ledger.tables.isSome = true)
    (present : Seed.Present Seed.demos ledger.books.rows) :
    (ledger.seed.1 = .ok 0 ∧ ledger.seed.2.books = ledger.books) ∨
      ∃ error trouble, ledger.Trouble trouble ∧ ledger.seed.1 = .error error ∧
        error.origin = .database trouble ∧ ledger.seed.2.rows = ledger.rows := by
  rcases Ledger.seed_cases laid sound typed with
    ⟨error, trouble, met, fails, origin, rows⟩ | ⟨blocked, _⟩ | ⟨_, gives, books⟩
  · exact .inr ⟨error, trouble, met, fails, origin, rows⟩
  · exact absurd blocked present.not_blocked
  · refine .inl ⟨gives.trans ?_, books.trans ?_⟩
    · rw [show Seed.missingAccounts Seed.demos ledger.rows = [] from present.missingAccounts]
      rfl
    · rw [Books.seeded, present.missingUsers, present.missingAccounts, Books.joined_nil,
        Books.opening_nil]

end Again

open Seed in
/-- **What the seeding does**, in every state that a run leads to. Trouble, or tables that are not
laid out, make it fail and leave the rows. It is blocked exactly when someone has the email of a
demonstration user who is not there; then it fails as a violation of a unique key, and leaves the
rows. Otherwise it answers the number of demonstration accounts that were missing, and stores the
missing users and these accounts after the rows that were there, which all stay as they were.

Once it has succeeded, a seeding at any later point of the run answers that it opened none, and
changes nothing. -/
theorem seeding_exact {outcome : Except StoreError Nat}
    (reachable : Reachable Call.Typed past ledger) (seeds : ledger.seed = (outcome, after)) :
    ((∃ error, outcome = .error error ∧ (ledger.tables = none ∨
          ∃ trouble, ledger.Trouble trouble ∧ error.origin = .database trouble) ∧
        after.rows = ledger.rows) ∨
      (Blocked demos ledger.rows ∧
        (∃ error, outcome = .error error ∧ error.isUniqueViolation = true) ∧
        after.rows = ledger.rows) ∨
      (¬ Blocked demos ledger.rows ∧
        outcome = .ok (missingAccounts demos ledger.rows).length ∧
        after.rows = { ledger.rows with
          users := ledger.rows.users ++
            (missingUsers demos ledger.rows).map (·.stored ledger.clock)
          accounts := ledger.rows.accounts ++
            opened ledger.clock ledger.serials.accounts (missingAccounts demos ledger.rows) })) ∧
    ∀ count, outcome = .ok count →
      ∀ between later, Leads Call.Typed after between later →
        (later.seed.1 = .ok 0 ∧ later.seed.2.books = later.books) ∨
        ∃ error trouble, later.Trouble trouble ∧ later.seed.1 = .error error ∧
          error.origin = .database trouble ∧ later.seed.2.rows = later.rows := by
  obtain rfl : ledger.seed.1 = outcome := congrArg Prod.fst seeds
  obtain rfl : ledger.seed.2 = after := congrArg Prod.snd seeds
  clear seeds
  have sound := reachable.sound
  have typed : ledger.rows.Typed := (Tables.typed.of_reachable reachable).holds
  constructor
  · cases absent : ledger.tables with
    | none =>
      cases ended : ledger.seed.1 with
      | ok count =>
        have laid := Ledger.laid_of_seed ended
        rw [absent] at laid
        cases laid
      | error error =>
        exact .inl ⟨error, rfl, .inl rfl, Ledger.rows_of_transact_error ended⟩
    | some tables =>
      have laid : ledger.tables.isSome = true := by rw [absent]; rfl
      rcases Ledger.seed_cases laid sound typed with
        ⟨error, trouble, met, fails, origin, rows⟩ | blocked | ⟨free, succeeds, books⟩
      · exact .inl ⟨error, fails, .inr ⟨trouble, met, origin⟩, rows⟩
      · exact .inr (.inl blocked)
      · exact .inr (.inr ⟨free, succeeds, congrArg Books.rows books⟩)
  · intro count succeeds between later leads
    have began : Reachable Call.Typed _ ledger.seed.2 := .step .seed reachable trivial
    have reached := began.leads leads
    have laid := leads.laid (Operation.run_laid (Ledger.laid_of_seed succeeds) .seed)
    -- what the seeding stored is still there, since the books were only extended
    have start : (Books.extended Call.Typed ledger.seed.2.books).Kept [] ledger.seed.2.books :=
      ⟨began.sound, .refl _⟩
    have still : Present demos later.books.rows :=
      (Ledger.present_of_seed sound typed succeeds).extends (start.leads leads).holds
    exact Ledger.seed_of_present reached.sound (Tables.typed.of_reachable reached).holds laid still

/-- Someone has the email of a demonstration user who is not there. -/
def squatted : Ledger :=
  (Operation.register ⟨"boat", "Boat", "gondola@example.com"⟩).run .fresh

/-- A demonstration user takes another email after the seeding. -/
def readdressed : Ledger :=
  (Operation.changeProfile ⟨"gondola", ⟨none, some "boat@example.com"⟩⟩).run demonstration

/-- The seeding is refused where one of its emails is taken, though the user who comes before could
be stored. Where it was carried out it opens no account again, under another email either. -/
theorem seeding_exact_squatted :
    (∃ error, squatted.seed.1 = .error error ∧ error.isUniqueViolation = true) ∧
    squatted.seed.2.rows = squatted.rows ∧ readdressed.seed.1 = .ok 0 := by
  have reachable : Reachable Call.Typed _ squatted :=
    .step (.register _) .fresh trivial
  have calm : squatted.Calm := ⟨by decide, by decide, by decide⟩
  have calmAfter : readdressed.Calm := ⟨by decide, by decide, by decide⟩
  have leads : Leads Call.Typed demonstration _ readdressed :=
    .step (.changeProfile _) .here trivial
  have blocked : Seed.Blocked Seed.demos squatted.rows := by
    refine ⟨_, List.mem_cons_of_mem _ List.mem_cons_self, ?_, ?_⟩
    · rw [← Ledger.Tables.user?_isNone]
      decide
    · exact ⟨⟨"boat", "Boat", "gondola@example.com", .newYear2024⟩, by decide, rfl⟩
  have seeded : Ledger.fresh.seed.1 = .ok 6 := eq_ok_of_toOption (by decide +kernel)
  have again := (seeding_exact .fresh rfl).2 6 seeded _ _ leads
  rcases (seeding_exact reachable rfl).1 with
    ⟨_, _, absent | ⟨_, trouble, _⟩, _⟩ | ⟨_, refused, rows⟩ | ⟨free, _⟩
  · exact absurd absent (by decide)
  · exact absurd trouble calm.not_trouble
  · refine ⟨refused, rows, ?_⟩
    rcases again with ⟨gives, _⟩ | ⟨_, _, trouble, _⟩
    · exact gives
    · exact absurd trouble calmAfter.not_trouble
  · exact absurd blocked free

end Passbook
