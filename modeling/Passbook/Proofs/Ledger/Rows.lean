/-
**What each statement does to the rows.**

* `find?_snoc` and `find?_put` — a row that is stored under a new key, and one that takes the place
  of the row of its key, is what the key finds afterwards; every other key finds what it found
  before.
* `Tables.sum_append`, `Tables.sum_map_add`, `Tables.sum_map_eq_zero` — sums of columns.
* `Tables.insertUser_eq_ok`, `Tables.updateUser_eq_ok`, … — for each statement that stores or
  changes a row, when it is executed, with which answer and which rows after it;
  `Tables.insertUser_eq_error`, … — when a user or an account is refused, and why.
* `Tables.apply_of_isRead` — a statement that only reads leaves the rows as they are.
-/

import Passbook.Ledger.Tables

namespace Passbook

namespace Ledger

open Time (Instant)

/-! ### Rows with a key -/

section Keyed

variable {ρ κ ν : Type} [DecidableEq κ] {key : ρ → κ} {row : ρ} {rows : List ρ}

/-- Puts a row in the place of each row with its key. -/
def put (key : ρ → κ) (row : ρ) (rows : List ρ) : List ρ :=
  rows.map fun other => if key other = key row then row else other

theorem find?_snoc (new : ∀ other ∈ rows, key other ≠ key row) (k : κ) :
    (rows ++ [row]).find? (key · == k) =
      if key row = k then some row else rows.find? (key · == k) := by
  rw [List.find?_append]
  by_cases here : key row = k
  · have absent : rows.find? (key · == k) = none := by
      rw [List.find?_eq_none]
      intro other member
      rw [← here]
      simpa using new other member
    rw [absent, if_pos here]
    simp [here]
  · rw [if_neg here]
    simp [here]

theorem find?_put (stored : ∃ other ∈ rows, key other = key row) (k : κ) :
    (put key row rows).find? (key · == k) =
      if key row = k then some row else rows.find? (key · == k) := by
  have same : ((key · == k) ∘ fun other => if key other = key row then row else other)
      = (key · == k) := by
    funext other
    by_cases replaced : key other = key row <;> simp [replaced]
  rw [put, List.find?_map, same]
  by_cases here : key row = k
  · rw [if_pos here]
    cases found : rows.find? (key · == k) with
    | none =>
      obtain ⟨other, member, its⟩ := stored
      exact absurd (its.trans here) (by simpa using List.find?_eq_none.mp found other member)
    | some other =>
      have its : key other = k := by simpa using List.find?_some found
      rw [Option.map_some, if_pos (its.trans here.symm)]
  · rw [if_neg here]
    cases found : rows.find? (key · == k) with
    | none => rfl
    | some other =>
      have its : key other = k := by simpa using List.find?_some found
      rw [Option.map_some, if_neg fun replaced => here (replaced.symm.trans its)]

theorem mem_put {other : ρ} (member : other ∈ put key row rows) :
    other = row ∨ (other ∈ rows ∧ key other ≠ key row) := by
  obtain ⟨before, inside, became⟩ := List.mem_map.mp member
  by_cases replaced : key before = key row
  · rw [if_pos replaced] at became
    exact .inl became.symm
  · rw [if_neg replaced] at became
    subst became
    exact .inr ⟨inside, replaced⟩

/-- What the replaced row and the new one agree on stays. -/
theorem map_put (column : ρ → ν)
    (same : ∀ other ∈ rows, key other = key row → column other = column row) :
    (put key row rows).map column = rows.map column := by
  rw [put, List.map_map]
  refine List.map_congr_left fun other member => ?_
  show column (if key other = key row then row else other) = column other
  by_cases replaced : key other = key row
  · rw [if_pos replaced, same other member replaced]
  · rw [if_neg replaced]

theorem find?_eq_some (key : ρ → κ) {k : κ} (found : rows.find? (key · == k) = some row) :
    row ∈ rows ∧ key row = k :=
  ⟨List.mem_of_find?_eq_some found, by simpa using List.find?_some found⟩

theorem not_isNone_find? (key : ρ → κ) {k : κ} :
    ¬ (rows.find? (key · == k)).isNone = true ↔ ∃ other ∈ rows, key other = k := by
  simp

end Keyed

namespace Tables

variable {tables next : Tables} {now : Instant}

/-! ### Sums -/

section Sums

variable {ρ : Type}

theorem sum_append (first second : List Int) : sum (first ++ second) = sum first + sum second := by
  induction first with
  | nil => exact (Int.zero_add _).symm
  | cons amount rest ih =>
    show amount + sum (rest ++ second) = amount + sum rest + sum second
    rw [ih, Int.add_assoc]

theorem sum_map_add (first second : ρ → Int) (rows : List ρ) :
    sum (rows.map fun row => first row + second row) =
      sum (rows.map first) + sum (rows.map second) := by
  induction rows with
  | nil => rfl
  | cons row rest ih =>
    simp only [List.map_cons, sum, ih]
    omega

theorem sum_map_eq_zero {column : ρ → Int} {rows : List ρ}
    (nothing : ∀ row ∈ rows, column row = 0) : sum (rows.map column) = 0 := by
  induction rows with
  | nil => rfl
  | cons row rest ih =>
    rw [List.map_cons, sum, nothing row List.mem_cons_self,
      ih fun other member => nothing other (List.mem_cons_of_mem _ member), Int.zero_add]

theorem sum_nonneg {amounts : List Int} (nonneg : ∀ amount ∈ amounts, 0 ≤ amount) :
    0 ≤ sum amounts := by
  induction amounts with
  | nil => exact Int.le_refl 0
  | cons head rest ih =>
    have first := nonneg head List.mem_cons_self
    have later := ih fun amount member => nonneg amount (List.mem_cons_of_mem _ member)
    rw [sum]
    omega

/-- Of amounts that are not negative, none is more than the sum. -/
theorem le_sum_of_mem {amounts : List Int} (nonneg : ∀ amount ∈ amounts, 0 ≤ amount) {amount : Int}
    (member : amount ∈ amounts) : amount ≤ sum amounts := by
  induction amounts with
  | nil => cases member
  | cons head rest ih =>
    have first := nonneg head List.mem_cons_self
    have others : ∀ amount ∈ rest, 0 ≤ amount :=
      fun amount inside => nonneg amount (List.mem_cons_of_mem _ inside)
    rw [sum]
    rcases List.mem_cons.mp member with rfl | inside
    · have := sum_nonneg others
      omega
    · have := ih others inside
      omega

theorem sum_perm {first second : List Int} (same : first.Perm second) : sum first = sum second := by
  induction same with
  | nil => rfl
  | cons amount _ ih => rw [sum, sum, ih]
  | swap first second rest =>
    simp only [sum]
    omega
  | trans _ _ before after => exact before.trans after

end Sums

/-! ### Rows that are there -/

def HasUser (tables : Tables) (username : String) : Prop :=
  ∃ user ∈ tables.users, user.username = username

def HasAccount (tables : Tables) (id : Int) : Prop :=
  ∃ account ∈ tables.accounts, account.id = id

def HasTransfer (tables : Tables) (id : Int) : Prop :=
  ∃ transfer ∈ tables.transfers, transfer.id = id

/-- An account is there and is held in the currency of the code. -/
def Holds (tables : Tables) (id : Int) (code : String) : Prop :=
  ∃ account ∈ tables.accounts, account.id = id ∧ account.currency = code

theorem Holds.hasAccount {tables : Tables} {id : Int} {code : String}
    (holds : tables.Holds id code) : tables.HasAccount id := by
  obtain ⟨account, member, its, _⟩ := holds
  exact ⟨account, member, its⟩

theorem HasUser.ne_empty {username : String} (there : tables.HasUser username) :
    tables ≠ .empty := by
  rintro rfl
  obtain ⟨_, stored, _⟩ := there
  cases stored

theorem user?_eq_some {username : String} {user : User}
    (found : tables.user? username = some user) :
    user ∈ tables.users ∧ user.username = username :=
  find?_eq_some User.username found

theorem account?_eq_some {id : Int} {account : AccountRow}
    (found : tables.account? id = some account) : account ∈ tables.accounts ∧ account.id = id :=
  find?_eq_some AccountRow.id found

theorem user?_isNone {username : String} :
    ¬ (tables.user? username).isNone = true ↔ tables.HasUser username :=
  not_isNone_find? User.username

theorem account?_isNone {id : Int} : ¬ (tables.account? id).isNone = true ↔ tables.HasAccount id :=
  not_isNone_find? AccountRow.id

theorem transfer?_isNone {id : Int} :
    ¬ (tables.transfer? id).isNone = true ↔ tables.HasTransfer id :=
  not_isNone_find? Transfer.id

/-! ### Statements that store or change a row -/

/-- Where a check stands before the rest, both must pass. -/
theorem check_eq_ok {α : Type} {fails : Prop} [Decidable fails] {refusal : Refusal}
    {rest : Except Refusal α} {value : α} :
    (if fails then .error refusal else rest) = .ok value ↔ ¬ fails ∧ rest = .ok value := by
  by_cases failed : fails
  · simp [failed]
  · simp [failed]

theorem answer_eq_ok {ρ : Type} (after : ρ → Tables) {row answer : ρ} :
    (.ok (row, after row) : Except Refusal (ρ × Tables)) = .ok (answer, next) ↔
      answer = row ∧ next = after answer := by
  rw [Except.ok.injEq, Prod.mk.injEq]
  constructor
  · rintro ⟨rfl, rfl⟩
    exact ⟨rfl, rfl⟩
  · rintro ⟨rfl, rfl⟩
    exact ⟨rfl, rfl⟩

theorem insertUser_eq_ok {new : NewUser} {user : User} :
    tables.insertUser new now = .ok (user, next) ↔
      (∀ other ∈ tables.users, other.username ≠ new.username) ∧
      (∀ other ∈ tables.users, other.email ≠ new.email) ∧
      user = ⟨new.username, new.fullName, new.email, now⟩ ∧
      next = { tables with users := tables.users ++ [user] } := by
  rw [insertUser, check_eq_ok, check_eq_ok]
  simp only [List.any_eq_true, beq_iff_eq, not_exists, not_and]
  refine and_congr_right fun _ => and_congr_right fun _ => ?_
  exact answer_eq_ok fun user => { tables with users := tables.users ++ [user] }

/-- A user's row under a patch, in the place of the row before. -/
def patching (tables : Tables) (user : User) (patch : ProfilePatch) : Tables :=
  { tables with users := put User.username (patched user patch) tables.users }

theorem updateUser_eq_ok {change : ProfileChange} {answer : Option User} :
    tables.updateUser change = .ok (answer, next) ↔
      (tables.user? change.username = none ∧ answer = none ∧ next = tables) ∨
      (∃ user, tables.user? change.username = some user ∧
        (∀ other ∈ tables.users, other.username ≠ user.username →
          other.email ≠ (patched user change.patch).email) ∧
        answer = some (patched user change.patch) ∧ next = tables.patching user change.patch) := by
  unfold updateUser
  cases found : tables.user? change.username with
  | none =>
    simp only [reduceCtorEq, false_and, exists_false, or_false, true_and]
    exact answer_eq_ok fun _ => tables
  | some user =>
    have its : user.username = change.username := (user?_eq_some found).2
    simp only [check_eq_ok, ← its, reduceCtorEq, false_and, false_or, Option.some.injEq,
      exists_eq_left', List.any_eq_true, Bool.and_eq_true, bne_iff_ne, beq_iff_eq, not_exists,
      not_and]
    refine and_congr_right fun _ => ?_
    exact answer_eq_ok fun _ => tables.patching user change.patch

theorem insertAccount_eq_ok {id balance : Int} {owner currency : String} {account : AccountRow} :
    tables.insertAccount id owner balance currency now = .ok (account, next) ↔
      (∀ other ∈ tables.accounts, other.owner = owner → other.currency ≠ currency) ∧
      tables.HasUser owner ∧ account = ⟨id, owner, balance, currency, now⟩ ∧
      next = { tables with accounts := tables.accounts ++ [account] } := by
  rw [insertAccount, check_eq_ok, check_eq_ok, user?_isNone]
  simp only [List.any_eq_true, Bool.and_eq_true, beq_iff_eq, not_exists, not_and]
  refine and_congr_right fun _ => and_congr_right fun _ => ?_
  exact answer_eq_ok fun account => { tables with accounts := tables.accounts ++ [account] }

/-- An account's row after an amount is added to it. -/
def added (account : AccountRow) (amount : Int) : AccountRow :=
  { account with balance := account.balance + amount }

/-- An account's row with an amount added to it, in the place of the row before. -/
def adding (tables : Tables) (account : AccountRow) (amount : Int) : Tables :=
  { tables with accounts := put AccountRow.id (added account amount) tables.accounts }

theorem addBalance_eq_ok {change : BalanceChange} {answer : Option AccountRow} :
    tables.addBalance change = .ok (answer, next) ↔
      (tables.account? change.account = none ∧ answer = none ∧ next = tables) ∨
      (∃ account, tables.account? change.account = some account ∧
        Text.IntegerRange.int64.contains (account.balance + change.amount) ∧
        answer = some (added account change.amount) ∧
        next = tables.adding account change.amount) := by
  unfold addBalance
  cases found : tables.account? change.account with
  | none =>
    simp only [reduceCtorEq, false_and, exists_false, or_false, true_and]
    exact answer_eq_ok fun _ => tables
  | some account =>
    have its : account.id = change.account := (account?_eq_some found).2
    simp only [← its, reduceCtorEq, false_and, false_or, Option.some.injEq, exists_eq_left']
    by_cases inside : Text.IntegerRange.int64.contains (account.balance + change.amount)
    · rw [if_pos inside]
      refine Iff.trans ?_ (and_iff_right inside).symm
      exact answer_eq_ok fun _ => tables.adding account change.amount
    · rw [if_neg inside]
      simp [inside]

theorem insertTransfer_eq_ok {id : Int} {movement : Movement} {transfer : Transfer} :
    tables.insertTransfer id movement now = .ok (transfer, next) ↔
      0 < movement.amount ∧ tables.HasAccount movement.source ∧
      tables.HasAccount movement.target ∧
      transfer = ⟨id, movement.source, movement.target, movement.amount, now⟩ ∧
      next = { tables with transfers := tables.transfers ++ [transfer] } := by
  rw [insertTransfer, check_eq_ok, check_eq_ok, check_eq_ok, account?_isNone, account?_isNone,
    Int.not_le]
  refine and_congr_right fun _ => and_congr_right fun _ => and_congr_right fun _ => ?_
  exact answer_eq_ok fun transfer => { tables with transfers := tables.transfers ++ [transfer] }

theorem insertEntry_eq_ok {id : Int} {posting : Posting} {entry : Entry} :
    tables.insertEntry id posting now = .ok (entry, next) ↔
      posting.amount ≠ 0 ∧ tables.HasTransfer posting.transfer ∧
      tables.HasAccount posting.account ∧
      entry = ⟨id, posting.transfer, posting.account, posting.amount, now⟩ ∧
      next = { tables with entries := tables.entries ++ [entry] } := by
  rw [insertEntry, check_eq_ok, check_eq_ok, check_eq_ok, transfer?_isNone, account?_isNone]
  refine and_congr_right fun _ => and_congr_right fun _ => and_congr_right fun _ => ?_
  exact answer_eq_ok fun entry => { tables with entries := tables.entries ++ [entry] }

/-! ### Statements that are refused -/

section Refused

variable {refusal : Refusal}

/-- Where a check stands before the rest, it refuses or the rest does. -/
theorem check_eq_error {α : Type} {fails : Prop} [Decidable fails] {rest : Except Refusal α}
    {given : Refusal} : (if fails then .error refusal else rest) = .error given ↔
      (fails ∧ given = refusal) ∨ (¬ fails ∧ rest = .error given) := by
  by_cases failed : fails
  · simp [failed, eq_comm]
  · simp [failed]

theorem insertUser_eq_error {new : NewUser} : tables.insertUser new now = .error refusal ↔
    ((∃ other ∈ tables.users, other.username = new.username) ∧
      refusal = .duplicate "users_pkey") ∨
    ((∀ other ∈ tables.users, other.username ≠ new.username) ∧
      (∃ other ∈ tables.users, other.email = new.email) ∧
      refusal = .duplicate "users_email_key") := by
  rw [insertUser, check_eq_error, check_eq_error]
  simp only [List.any_eq_true, beq_iff_eq, not_exists, not_and, reduceCtorEq, and_false, or_false]

theorem updateUser_eq_error {change : ProfileChange} :
    tables.updateUser change = .error refusal ↔
      ∃ user, tables.user? change.username = some user ∧
        (∃ other ∈ tables.users, other.username ≠ user.username ∧
          other.email = (patched user change.patch).email) ∧
        refusal = .duplicate "users_email_key" := by
  unfold updateUser
  cases found : tables.user? change.username with
  | none => simp
  | some user =>
    have its : user.username = change.username := (user?_eq_some found).2
    simp only [check_eq_error, ← its, List.any_eq_true, Bool.and_eq_true, bne_iff_ne, beq_iff_eq,
      reduceCtorEq, and_false, or_false, Option.some.injEq, exists_eq_left']

theorem insertAccount_eq_error {id balance : Int} {owner currency : String} :
    tables.insertAccount id owner balance currency now = .error refusal ↔
      ((∃ other ∈ tables.accounts, other.owner = owner ∧ other.currency = currency) ∧
        refusal = .duplicate "accounts_owner_currency_key") ∨
      ((∀ other ∈ tables.accounts, other.owner = owner → other.currency ≠ currency) ∧
        ¬ tables.HasUser owner ∧
        refusal = .missingReference .accounts "accounts_owner_fkey") := by
  rw [insertAccount, check_eq_error, check_eq_error, ← user?_isNone, Classical.not_not]
  simp only [List.any_eq_true, Bool.and_eq_true, beq_iff_eq, not_exists, not_and, reduceCtorEq,
    and_false, or_false]

end Refused

/-! ### Statements that only read -/

theorem reading_eq_ok {α : Type} {answer : Except Refusal α} {value : α} :
    tables.reading answer = .ok (value, next) ↔ answer = .ok value ∧ next = tables := by
  unfold reading
  cases answer with
  | error refusal => simp [Except.map]
  | ok given => simp [Except.map, eq_comm]

theorem apply_of_isRead {id : Int} {query : Query} {answer : query.Answer}
    (reads : query.isRead = true) (applied : tables.apply id now query = .ok (answer, next)) :
    next = tables := by
  cases query with
  | insertUser _ | updateUser _ | insertAccount _ _ _ | addBalance _ | insertTransfer _
  | insertEntry _ => cases reads
  | findUser _ | findAccount _ | findTransfer _ | findEntry _ =>
    exact ((answer_eq_ok fun _ => tables).mp applied).2
  | listAccounts _ | listTransfers _ | listEntries _ => exact (reading_eq_ok.mp applied).2
  | sumEntries account =>
    have summed : (if Text.IntegerRange.int64.contains (tables.entrySum account) then
        .ok (tables.entrySum account, tables) else .error .outOfRange :
        Except Refusal (Int × Tables)) = .ok (answer, next) := applied
    by_cases inside : Text.IntegerRange.int64.contains (tables.entrySum account)
    · rw [if_pos inside] at summed
      exact ((answer_eq_ok fun _ => tables).mp summed).2
    · rw [if_neg inside] at summed
      cases summed

end Tables

end Ledger

end Passbook
