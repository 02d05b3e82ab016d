/-
**Sound books.**

Books are sound when their rows carry the numbers that were handed out, in order, when no two rows
share a key, and when every row that a row names is there.

* `Numbered` — numbers in the order in which they were handed out, none of them later than the last.
* `Books.Sound` — the keys, numbers and references of all four tables.
* **`Books.Sound.execute`** — an executed statement keeps books sound.
* `Books.Sound.later` — so does a number that is handed out in vain.
-/

import Passbook.Proofs.Ledger.Effect

namespace Passbook.Ledger

open Time (Instant)

/-! ### Numbers handed out -/

/-- Numbers in the order in which they were handed out, none of them later than the last. -/
structure Numbered (last : Int) (numbers : List Int) : Prop where
  ordered : numbers.Pairwise (· < ·)
  handed : ∀ number ∈ numbers, number ≤ last

theorem Numbered.nil (last : Int) : Numbered last [] :=
  ⟨.nil, fun _ member => by cases member⟩

theorem Numbered.mono {last later : Int} {numbers : List Int} (numbered : Numbered last numbers)
    (grown : last ≤ later) : Numbered later numbers :=
  ⟨numbered.ordered, fun number member => Int.le_trans (numbered.handed number member) grown⟩

theorem Numbered.snoc {last : Int} {numbers : List Int} (numbered : Numbered last numbers) :
    Numbered (last + 1) (numbers ++ [last + 1]) := by
  refine ⟨List.pairwise_append.mpr ⟨numbered.ordered, List.pairwise_singleton _ _, ?_⟩, ?_⟩
  · intro number member next here
    rw [List.mem_singleton.mp here]
    exact Int.lt_add_one_of_le (numbered.handed number member)
  · intro number member
    rcases List.mem_append.mp member with before | here
    · exact Int.le_trans (numbered.handed number before) (by omega)
    · exact Int.le_of_eq (List.mem_singleton.mp here)

theorem Numbered.nodup {last : Int} {numbers : List Int} (numbered : Numbered last numbers) :
    numbers.Nodup :=
  numbered.ordered.imp fun before => Int.ne_of_lt before

/-- The next number is new. -/
theorem Numbered.ne_next {last number : Int} {numbers : List Int} (numbered : Numbered last numbers)
    (member : number ∈ numbers) : number ≠ last + 1 := by
  have := numbered.handed number member
  omega

/-- No number handed out is later afterwards than before. -/
structure Serials.Le (before after : Serials) : Prop where
  accounts : before.accounts ≤ after.accounts
  transfers : before.transfers ≤ after.transfers
  entries : before.entries ≤ after.entries

theorem Serials.Le.refl (serials : Serials) : serials.Le serials :=
  ⟨Int.le_refl _, Int.le_refl _, Int.le_refl _⟩

theorem Serials.le_take (serials : Serials) (query : Query) :
    serials.Le (serials.take query).2 := by
  cases query <;> constructor <;> simp only [Serials.take] <;> omega

theorem Serials.Hands.le {before after : Serials} {exchange : Exchange}
    (hands : before.Hands exchange after) : before.Le after := by
  cases hands with
  | kept error => exact .refl before
  | wasted error => exact before.le_take _
  | answered applied => exact before.le_take _

/-! ### Columns of rows -/

section Columns

variable {ρ κ ν : Type} {key : ρ → κ} {row : ρ} {rows : List ρ}

theorem nodup_map_snoc {column : ρ → ν} (nodup : (rows.map column).Nodup)
    (new : ∀ other ∈ rows, column other ≠ column row) : ((rows ++ [row]).map column).Nodup := by
  rw [List.map_append, List.nodup_append]
  refine ⟨nodup, List.pairwise_singleton _ _, ?_⟩
  intro value member last here
  obtain ⟨other, inside, rfl⟩ := List.mem_map.mp member
  rw [List.mem_singleton.mp here]
  exact new other inside

theorem nodup_map_put [DecidableEq κ] {column : ρ → ν} (keys : (rows.map key).Nodup)
    (nodup : (rows.map column).Nodup)
    (new : ∀ other ∈ rows, key other ≠ key row → column other ≠ column row) :
    ((put key row rows).map column).Nodup := by
  unfold List.Nodup at keys nodup ⊢
  rw [List.pairwise_map] at keys nodup
  rw [put, List.map_map, List.pairwise_map]
  refine (keys.and nodup).imp_of_mem fun {first second} firstIn secondIn apart => ?_
  show column (if key first = key row then row else first) ≠
    column (if key second = key row then row else second)
  by_cases firstHere : key first = key row
  · have secondNot : key second ≠ key row := fun secondHere =>
      apart.1 (firstHere.trans secondHere.symm)
    rw [if_pos firstHere, if_neg secondNot]
    exact (new second secondIn secondNot).symm
  · rw [if_neg firstHere]
    by_cases secondHere : key second = key row
    · rw [if_pos secondHere]
      exact new first firstIn firstHere
    · rw [if_neg secondHere]
      exact apart.2

theorem eq_of_nodup_map (nodup : (rows.map key).Nodup) {first second : ρ} (firstIn : first ∈ rows)
    (secondIn : second ∈ rows) (same : key first = key second) : first = second := by
  induction rows with
  | nil => cases firstIn
  | cons head rest ih =>
    rw [List.map_cons, List.nodup_cons] at nodup
    rcases List.mem_cons.mp firstIn with rfl | firstLater
    · rcases List.mem_cons.mp secondIn with rfl | secondLater
      · rfl
      · exact absurd (List.mem_map.mpr ⟨second, secondLater, same.symm⟩) nodup.1
    · rcases List.mem_cons.mp secondIn with rfl | secondLater
      · exact absurd (List.mem_map.mpr ⟨first, firstLater, same⟩) nodup.1
      · exact ih nodup.2 firstLater secondLater

theorem find?_of_mem [DecidableEq κ] (nodup : (rows.map key).Nodup) (member : row ∈ rows) :
    rows.find? (key · == key row) = some row := by
  cases found : rows.find? (key · == key row) with
  | none => exact absurd (beq_self_eq_true (key row)) (List.find?_eq_none.mp found row member)
  | some other =>
    obtain ⟨inside, its⟩ := find?_eq_some key found
    rw [eq_of_nodup_map nodup inside member its]

/-- Only one row has the key of a row. -/
theorem filter_eq_singleton [DecidableEq κ] (nodup : (rows.map key).Nodup) (member : row ∈ rows) :
    (rows.filter fun other => key other == key row) = [row] := by
  induction rows with
  | nil => cases member
  | cons head rest ih =>
    rw [List.map_cons, List.nodup_cons] at nodup
    rcases List.mem_cons.mp member with rfl | later
    · have none_later : (rest.filter fun other => key other == key row) = [] := by
        rw [List.filter_eq_nil_iff]
        intro other inside same
        exact nodup.1 (List.mem_map.mpr ⟨other, inside, by simpa using same⟩)
      rw [List.filter_cons_of_pos (by simp), none_later]
    · have apart : key head ≠ key row := fun same =>
        nodup.1 (List.mem_map.mpr ⟨row, later, same.symm⟩)
      rw [List.filter_cons_of_neg (by simpa using apart), ih nodup.2 later]

theorem forall_mem_snoc {holds : ρ → Prop} (before : ∀ other ∈ rows, holds other)
    (last : holds row) : ∀ other ∈ rows ++ [row], holds other := by
  intro other member
  rcases List.mem_append.mp member with inside | here
  · exact before other inside
  · rw [List.mem_singleton.mp here]
    exact last

theorem forall_mem_put [DecidableEq κ] {holds : ρ → Prop} (before : ∀ other ∈ rows, holds other)
    (last : holds row) : ∀ other ∈ put key row rows, holds other := by
  intro other member
  rcases mem_put member with rfl | ⟨inside, _⟩
  · exact last
  · exact before other inside

end Columns

/-! ### Sound books -/

namespace Tables

variable {before after : Tables}

theorem HasUser.of_map_eq {username : String} (there : before.HasUser username)
    (same : after.users.map (·.username) = before.users.map (·.username)) :
    after.HasUser username := by
  have member : username ∈ before.users.map (·.username) := List.mem_map.mpr there
  rw [← same] at member
  exact List.mem_map.mp member

/-- An account stays when another row is stored after it. -/
theorem HasAccount.snoc {id : Int} (there : before.HasAccount id) (row : AccountRow) :
    ({ before with accounts := before.accounts ++ [row] } : Tables).HasAccount id := by
  obtain ⟨account, inside, its⟩ := there
  exact ⟨account, List.mem_append_left _ inside, its⟩

theorem HasAccount.of_map_eq {id : Int} (there : before.HasAccount id)
    (same : after.accounts.map (·.id) = before.accounts.map (·.id)) : after.HasAccount id := by
  have member : id ∈ before.accounts.map (·.id) := List.mem_map.mpr there
  rw [← same] at member
  exact List.mem_map.mp member

theorem account?_of_mem {tables : Tables} (numbers : (tables.accounts.map (·.id)).Nodup)
    {account : AccountRow} (member : account ∈ tables.accounts) :
    tables.account? account.id = some account :=
  find?_of_mem numbers member

end Tables

/-- **Sound books**: numbers in order, no key twice, and every row that is named is there. This is
what the sequences, keys, checks and references of the tables promise of any books; every run keeps
it. -/
structure Books.Sound (books : Books) : Prop where
  usernames : (books.rows.users.map (·.username)).Nodup
  emails : (books.rows.users.map (·.email)).Nodup
  accounts : Numbered books.serials.accounts (books.rows.accounts.map (·.id))
  holdings : (books.rows.accounts.map fun account => (account.owner, account.currency)).Nodup
  owners : ∀ account ∈ books.rows.accounts, books.rows.HasUser account.owner
  transfers : Numbered books.serials.transfers (books.rows.transfers.map (·.id))
  ends : ∀ transfer ∈ books.rows.transfers, 0 < transfer.amount ∧
    books.rows.HasAccount transfer.source ∧ books.rows.HasAccount transfer.target
  entries : Numbered books.serials.entries (books.rows.entries.map (·.id))
  postings : ∀ entry ∈ books.rows.entries, entry.amount ≠ 0 ∧
    books.rows.HasTransfer entry.transfer ∧ books.rows.HasAccount entry.account

namespace Books

open Tables (patched patching added adding)

theorem sound_empty (serials : Serials) : (⟨serials, .empty⟩ : Books).Sound where
  usernames := .nil
  emails := .nil
  accounts := .nil _
  holdings := .nil
  owners := fun _ member => by cases member
  transfers := .nil _
  ends := fun _ member => by cases member
  entries := .nil _
  postings := fun _ member => by cases member

variable {now : Instant} {before after : Books}

namespace Sound

/-- Numbers that are handed out in vain do no harm. -/
theorem later {serials : Serials} (sound : before.Sound) (later : before.serials.Le serials) :
    (⟨serials, before.rows⟩ : Books).Sound :=
  { sound with
    accounts := sound.accounts.mono later.accounts
    transfers := sound.transfers.mono later.transfers
    entries := sound.entries.mono later.entries }

theorem map_username_patching (rows : Tables) (user : User) (patch : ProfilePatch) :
    (rows.patching user patch).users.map (·.username) = rows.users.map (·.username) :=
  map_put _ fun _ _ same => same

theorem map_id_adding (rows : Tables) (account : AccountRow) (amount : Int) :
    (rows.adding account amount).accounts.map (·.id) = rows.accounts.map (·.id) :=
  map_put _ fun _ _ same => same

theorem patching (sound : before.Sound) {user : User} {patch : ProfilePatch}
    (emailNew : ∀ other ∈ before.rows.users, other.username ≠ user.username →
      other.email ≠ (patched user patch).email) :
    ({ before with rows := before.rows.patching user patch } : Books).Sound := by
  have same := map_username_patching before.rows user patch
  exact { sound with
    usernames := same ▸ sound.usernames
    emails := nodup_map_put sound.usernames sound.emails emailNew
    owners := fun account member => (sound.owners account member).of_map_eq same }

theorem adding (sound : before.Sound) {account : AccountRow} (amount : Int)
    (stored : account ∈ before.rows.accounts) :
    ({ before with rows := before.rows.adding account amount } : Books).Sound := by
  have same := map_id_adding before.rows account amount
  have one : ∀ other ∈ before.rows.accounts, other.id = account.id → other = account :=
    fun other inside its => eq_of_nodup_map sound.accounts.nodup inside stored its
  have holdings : ((before.rows.adding account amount).accounts.map fun account =>
      (account.owner, account.currency)) =
      before.rows.accounts.map fun account => (account.owner, account.currency) :=
    map_put _ fun other inside its => by rw [one other inside its]; rfl
  exact { sound with
    accounts := same ▸ sound.accounts
    holdings := holdings ▸ sound.holdings
    owners := forall_mem_put sound.owners (sound.owners account stored)
    ends := fun transfer member => by
      obtain ⟨positive, source, target⟩ := sound.ends transfer member
      exact ⟨positive, source.of_map_eq same, target.of_map_eq same⟩
    postings := fun entry member => by
      obtain ⟨nonzero, transfer, there⟩ := sound.postings entry member
      exact ⟨nonzero, transfer, there.of_map_eq same⟩ }

/-- **An executed statement keeps books sound.** -/
theorem execute (sound : before.Sound) {query : Query} {answer : query.Answer}
    (executed : before.execute now query = .ok (answer, after)) : after.Sound := by
  cases effect_of_execute executed with
  | read reads => exact sound
  | userStored usernameNew emailNew =>
    exact { sound with
      usernames := nodup_map_snoc sound.usernames usernameNew
      emails := nodup_map_snoc sound.emails emailNew
      owners := fun account member => by
        obtain ⟨user, inside, its⟩ := sound.owners account member
        exact ⟨user, List.mem_append_left _ inside, its⟩ }
  | userMissed missing => exact sound
  | userChanged found emailNew => exact sound.patching emailNew
  | accountOpened holdingNew owned =>
    refine { sound with accounts := ?_, holdings := ?_, owners := ?_, ends := ?_, postings := ?_ }
    · rw [List.map_append]
      exact sound.accounts.snoc
    · refine nodup_map_snoc sound.holdings fun other inside same => ?_
      exact holdingNew other inside (congrArg Prod.fst same) (congrArg Prod.snd same)
    · exact forall_mem_snoc sound.owners owned
    · intro transfer member
      obtain ⟨positive, source, target⟩ := sound.ends transfer member
      exact ⟨positive, source.snoc _, target.snoc _⟩
    · intro entry member
      obtain ⟨nonzero, transfer, there⟩ := sound.postings entry member
      exact ⟨nonzero, transfer, there.snoc _⟩
  | balanceMissed missing => exact sound
  | balanceChanged found inRange => exact sound.adding _ (Tables.account?_eq_some found).1
  | transferStored positive source target =>
    refine { sound with transfers := ?_, ends := ?_, postings := ?_ }
    · rw [List.map_append]
      exact sound.transfers.snoc
    · exact forall_mem_snoc sound.ends ⟨positive, source, target⟩
    · intro entry member
      obtain ⟨nonzero, ⟨transfer, inside, its⟩, there⟩ := sound.postings entry member
      exact ⟨nonzero, ⟨transfer, List.mem_append_left _ inside, its⟩, there⟩
  | entryStored nonzero transfer account =>
    refine { sound with entries := ?_, postings := ?_ }
    · rw [List.map_append]
      exact sound.entries.snoc
    · exact forall_mem_snoc sound.postings ⟨nonzero, transfer, account⟩

theorem executes (sound : before.Sound) {exchanges : List Exchange}
    (executes : Executes now exchanges before after) : after.Sound := by
  induction executes with
  | nil books => exact sound
  | cons step _ ih => exact ih (sound.execute step)

end Sound

end Books

end Passbook.Ledger
