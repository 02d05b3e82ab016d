/-
**What a change of a profile does.**

A change replaces the parts that it gives of one user, and nothing else. It is refused exactly when
it gives that user an email which another user has.

* `ProfileChange.revise`, `Tables.revised` — what a change makes of a user and of the rows;
  `revise_revise` — two changes of a user come to one that gives what either gives.
* `Tables.Contested` — the change gives an email that another user has; `contested_revised` — other
  changes of the user make no difference to that.
* **`Tables.updateUser_of_free`**, `updateUser_of_contested` — when the statement is refused, and
  what it does otherwise.
* `Ledger.update_cases`, `update_again`, `update_twice`, `update_in_parts` — an update that is made,
  made again, followed by another, and made in two parts.
* **`profile_update`** — the update in every state that a run leads to.
-/

import Passbook.Proofs.Money.AnyOrder
import Passbook.Proofs.Store.Single

namespace Passbook

open Ledger (Query Books Tables Exchange Answering Failing Hindrance)
open Ledger.Tables (patched)
open Time (Instant)

/-! ### Changes of one user -/

namespace ProfileChange

/-- What a change makes of a user: of its own user it replaces the parts that it gives. -/
def revise (change : ProfileChange) (user : User) : User :=
  if user.username = change.username then
    { user with
      fullName := change.patch.fullName.getD user.fullName
      email := change.patch.email.getD user.email }
  else user

variable (change : ProfileChange) (user : User)

theorem revise_of_eq {user : User} (its : user.username = change.username) :
    change.revise user = patched user change.patch :=
  if_pos its

theorem revise_of_ne {user : User} (other : user.username ≠ change.username) :
    change.revise user = user :=
  if_neg other

@[simp] theorem username_revise : (change.revise user).username = user.username := by
  unfold revise
  by_cases its : user.username = change.username
  · rw [if_pos its]
  · rw [if_neg its]

/-- **Two changes of a user** come to one, in which what the second gives comes first. -/
theorem revise_revise {first second : ProfileChange} (same : second.username = first.username)
    (user : User) : second.revise (first.revise user) =
      revise ⟨first.username, ⟨second.patch.fullName.or first.patch.fullName,
        second.patch.email.or first.patch.email⟩⟩ user := by
  by_cases its : user.username = first.username
  · have again : (first.revise user).username = second.username := by
      rw [username_revise, its, same]
    rw [second.revise_of_eq again, first.revise_of_eq its]
    refine Eq.trans ?_ (if_pos its).symm
    unfold patched
    cases second.patch.fullName <;> cases second.patch.email <;> rfl
  · have again : (first.revise user).username ≠ second.username := by
      rw [username_revise, same]
      exact its
    rw [second.revise_of_ne again, first.revise_of_ne its]
    exact (if_neg its).symm

/-- A change made again changes nothing more. -/
theorem revise_again : change.revise (change.revise user) = change.revise user := by
  rw [revise_revise rfl, Option.or_self, Option.or_self]

/-- A change of a part of what another gives has storable texts where the other has. -/
theorem clean_of_part {part : ProfilePatch}
    (names : ∀ name, part.fullName = some name → change.patch.fullName = some name)
    (emails : ∀ email, part.email = some email → change.patch.email = some email)
    (clean : (Query.updateUser change).Clean) :
    (Query.updateUser ⟨change.username, part⟩).Clean := by
  refine List.any_eq_false.mpr fun text given => List.any_eq_false.mp clean text ?_
  rcases List.mem_cons.mp given with rfl | given
  · exact List.mem_cons_self
  refine List.mem_cons_of_mem _ ?_
  rcases List.mem_append.mp given with name | email
  · exact List.mem_append_left _ (Option.mem_toList.mpr (names text (Option.mem_toList.mp name)))
  · exact List.mem_append_right _ (Option.mem_toList.mpr (emails text (Option.mem_toList.mp email)))

end ProfileChange

namespace Ledger.Tables

variable {rows : Tables} {change first second : ProfileChange}

/-- What a change makes of the rows. -/
def revised (rows : Tables) (change : ProfileChange) : Tables :=
  { rows with users := rows.users.map change.revise }

/-- The user is there, and the change gives an email that another user has. -/
def Contested (rows : Tables) (change : ProfileChange) : Prop :=
  rows.HasUser change.username ∧ ∃ email, change.patch.email = some email ∧
    ∃ other ∈ rows.users, other.username ≠ change.username ∧ other.email = email

theorem user?_revised (rows : Tables) (change : ProfileChange) (username : String) :
    (rows.revised change).user? username = (rows.user? username).map change.revise := by
  have same : ((·.username == username) ∘ change.revise) = (·.username == username) := by
    funext user
    simp
  show (rows.users.map change.revise).find? (·.username == username) = _
  rw [List.find?_map, same]
  rfl

theorem hasUser_revised {username : String} :
    (rows.revised change).HasUser username ↔ rows.HasUser username := by
  rw [← user?_isNone, ← user?_isNone, user?_revised, Option.isNone_map]

/-- A change of a user leaves the emails of the others. -/
theorem contested_revised (same : second.username = first.username) :
    (rows.revised first).Contested second ↔ rows.Contested second := by
  unfold Contested
  rw [hasUser_revised]
  refine and_congr_right fun _ => exists_congr fun email => and_congr_right fun _ => ?_
  constructor
  · rintro ⟨other, stored, apart, held⟩
    obtain ⟨user, inside, rfl⟩ := List.mem_map.mp stored
    rw [ProfileChange.username_revise] at apart
    rw [first.revise_of_ne (same ▸ apart)] at held
    exact ⟨user, inside, apart, held⟩
  · rintro ⟨other, stored, apart, held⟩
    have kept : first.revise other = other := first.revise_of_ne (same ▸ apart)
    exact ⟨other, List.mem_map.mpr ⟨other, stored, kept⟩, apart, held⟩

/-- What gives an email of another user in part gives it as a whole. -/
theorem Contested.whole {part : ProfilePatch}
    (emails : ∀ email, part.email = some email → change.patch.email = some email)
    (contested : rows.Contested ⟨change.username, part⟩) : rows.Contested change := by
  obtain ⟨there, email, given, taken⟩ := contested
  exact ⟨there, email, emails email given, taken⟩

/-- A change of a user who is not there changes nothing. -/
theorem revised_of_absent (absent : ¬ rows.HasUser change.username) :
    rows.revised change = rows := by
  have same : rows.users.map change.revise = rows.users := by
    refine (List.map_congr_left fun user stored => ?_).trans (List.map_id _)
    exact change.revise_of_ne fun its => absent ⟨user, stored, its⟩
  rw [revised, same]

theorem revised_revised (same : second.username = first.username) :
    (rows.revised first).revised second =
      rows.revised ⟨first.username, ⟨second.patch.fullName.or first.patch.fullName,
        second.patch.email.or first.patch.email⟩⟩ := by
  show ({ rows with users := (rows.users.map first.revise).map second.revise } : Tables) = _
  rw [List.map_map]
  exact congrArg (fun users => { rows with users })
    (List.map_congr_left fun user _ => ProfileChange.revise_revise same user)

theorem revised_again : (rows.revised change).revised change = rows.revised change := by
  rw [revised_revised rfl, Option.or_self, Option.or_self]

/-! ### The statement -/

/-- An email that another user has is refused. -/
theorem updateUser_of_contested (contested : rows.Contested change) :
    rows.updateUser change = .error (.duplicate "users_email_key") := by
  obtain ⟨there, email, given, other, stored, apart, held⟩ := contested
  unfold updateUser
  cases found : rows.user? change.username with
  | none => exact absurd (by rw [found]; rfl) (user?_isNone.mpr there)
  | some user =>
    refine if_pos (List.any_eq_true.mpr ⟨other, stored, ?_⟩)
    rw [Bool.and_eq_true, bne_iff_ne, beq_iff_eq, patched, given]
    exact ⟨apart, held⟩

/-- **Any other change is made**, and answered with the user as it stands then. -/
theorem updateUser_of_free (usernames : (rows.users.map (·.username)).Nodup)
    (emails : (rows.users.map (·.email)).Nodup) (free : ¬ rows.Contested change) :
    rows.updateUser change =
      .ok ((rows.user? change.username).map change.revise, rows.revised change) := by
  refine updateUser_eq_ok.mpr ?_
  cases found : rows.user? change.username with
  | none =>
    have absent : ¬ rows.HasUser change.username := fun there =>
      user?_isNone.mpr there (by rw [found]; rfl)
    exact .inl ⟨rfl, rfl, revised_of_absent absent⟩
  | some user =>
    obtain ⟨stored, its⟩ := user?_eq_some found
    refine .inr ⟨user, rfl, fun other inside apart held => ?_, ?_, ?_⟩
    · cases given : change.patch.email with
      | none =>
        rw [patched, given] at held
        exact apart (congrArg _ (eq_of_nodup_map emails inside stored held))
      | some email =>
        rw [patched, given] at held
        exact free ⟨⟨user, stored, its⟩, email, given, other, inside, its ▸ apart, held⟩
    · exact congrArg some (change.revise_of_eq its)
    · refine congrArg (fun users => { rows with users })
        (List.map_congr_left fun other inside => ?_)
      by_cases same : other.username = user.username
      · rw [eq_of_nodup_map usernames inside stored same]
        exact (change.revise_of_eq its).trans (if_pos rfl).symm
      · refine (change.revise_of_ne fun named => ?_).trans (if_neg same).symm
        exact same (named.trans its.symm)

end Ledger.Tables

theorem Ledger.Books.execute_updateUser {now : Instant} {books : Books} {change : ProfileChange}
    (sound : books.Sound) (free : ¬ books.rows.Contested change) :
    books.execute now (.updateUser change) =
      .ok ((books.rows.user? change.username).map change.revise,
        ⟨books.serials, books.rows.revised change⟩) :=
  Books.execute_eq_ok.mpr ⟨Tables.updateUser_of_free sound.usernames sound.emails free, rfl⟩

/-! ### Updates in a ledger -/

/-- Two changes of a user, one after the other. -/
def Work.updateTwice (username : String) (first second : ProfilePatch) : Work (Option User) := do
  let _ ← Work.updateUser ⟨username, first⟩
  Work.updateUser ⟨username, second⟩

namespace Ledger

variable {ledger : Ledger} {change : ProfileChange}

/-- An update is hindered, or its email is another's, or it is made. -/
theorem update_cases (sound : ledger.books.Sound) (change : ProfileChange) :
    (∃ error, Hindrance (.updateUser change) ledger error ∧
      (ledger.perform (Work.updateUser change)).1 = .error (.database error) ∧
      (ledger.perform (Work.updateUser change)).2.books = ledger.books) ∨
    (ledger.rows.Contested change ∧
      (ledger.perform (Work.updateUser change)).1 =
        .error (.database (.ofRefusal (.duplicate "users_email_key"))) ∧
      (ledger.perform (Work.updateUser change)).2.books = ledger.books) ∨
    (¬ ledger.rows.Contested change ∧
      (ledger.perform (Work.updateUser change)).1 =
        .ok ((ledger.rows.user? change.username).map change.revise) ∧
      Answering (.updateUser change) ((ledger.rows.user? change.username).map change.revise) ledger
        (ledger.perform (Work.updateUser change)).2 ∧
      (ledger.perform (Work.updateUser change)).2.books =
        ⟨ledger.serials, ledger.rows.revised change⟩) := by
  have stays : Failing (.updateUser change) ledger (ledger.query (.updateUser change)).2 →
      (ledger.perform (Work.updateUser change)).2.books = ledger.books := fun failing => by
    have serials : (ledger.query (.updateUser change)).2.serials = ledger.serials :=
      failing.serials.elim id id
    show Books.mk _ _ = Books.mk _ _
    exact congr (congrArg Books.mk serials) failing.rows
  have made : (ledger.perform (Work.updateUser change)).1 =
      (ledger.query (.updateUser change)).1.mapError .database := rfl
  rw [made]
  rcases ledger.query_outcome (.updateUser change) with
    ⟨error, fails, hindrance, failing⟩ | ⟨refusal, fails, refuses, failing⟩ |
    ⟨answer, answered, answering⟩
  · rw [fails]
    exact .inl ⟨error, hindrance, rfl, stays failing⟩
  · by_cases contested : ledger.rows.Contested change
    · have told := (execute_eq_error.mp refuses).symm.trans
        (Tables.updateUser_of_contested contested)
      cases told
      rw [fails]
      exact .inr (.inl ⟨contested, rfl, stays failing⟩)
    · rw [Books.execute_updateUser sound contested] at refuses
      cases refuses
  · by_cases contested : ledger.rows.Contested change
    · have refuses : ledger.books.execute ledger.clock (.updateUser change) = .error _ :=
        execute_eq_error.mpr (Tables.updateUser_of_contested contested)
      rw [answering.books] at refuses
      cases refuses
    · have executed := Except.ok.inj
        ((Books.execute_updateUser sound contested).symm.trans answering.books)
      obtain rfl : _ = answer := congrArg Prod.fst executed
      rw [answered]
      exact .inr (.inr ⟨contested, rfl, answering, (congrArg Prod.snd executed).symm⟩)

/-- A change that was made is answered as before when it is made again, and changes nothing more. -/
theorem update_again {after : Ledger} (sound : after.books.Sound)
    (laid : after.tables.isSome = true) (clean : (Query.updateUser change).Clean)
    (free : ¬ ledger.rows.Contested change) (rows : after.rows = ledger.rows.revised change) :
    after.Shows (Work.updateUser change)
        ((ledger.rows.user? change.username).map change.revise) ∧
      (after.perform (Work.updateUser change)).2.books = after.books := by
  rcases after.update_cases sound change with
    ⟨error, hindrance, fails, books⟩ | ⟨contested, _⟩ | ⟨_, made, _, books⟩
  · exact ⟨.inr ⟨error, fails, hindrance.trouble_of_clean clean laid⟩, books⟩
  · rw [rows, Tables.contested_revised rfl] at contested
    exact absurd contested free
  · refine ⟨.inl ?_, ?_⟩
    · rw [made, rows, Tables.user?_revised, Option.map_map]
      exact congrArg Except.ok (congrArg (Option.map · _) (funext change.revise_again))
    · rw [books, rows, Tables.revised_again, ← rows]
      rfl

/-- **Two changes of a user**, neither of which is contested, come to the one that gives what
either gives. -/
theorem update_twice (sound : ledger.books.Sound) (laid : ledger.tables.isSome = true)
    {username : String} {first second : ProfilePatch}
    (clean : (Query.updateUser ⟨username, first⟩).Clean)
    (clean' : (Query.updateUser ⟨username, second⟩).Clean)
    (free : ¬ ledger.rows.Contested ⟨username, first⟩)
    (free' : ¬ ledger.rows.Contested ⟨username, second⟩) {both : ProfilePatch}
    (merged : both = ⟨second.fullName.or first.fullName, second.email.or first.email⟩) :
    ledger.Shows (Work.updateTwice username first second)
        ((ledger.rows.user? username).map (ProfileChange.revise ⟨username, both⟩)) ∧
      ∀ found, (ledger.perform (Work.updateTwice username first second)).1 = .ok found →
        (ledger.perform (Work.updateTwice username first second)).2.books =
          ⟨ledger.serials, ledger.rows.revised ⟨username, both⟩⟩ := by
  subst merged
  unfold Shows Work.updateTwice
  rcases ledger.update_cases sound ⟨username, first⟩ with
    ⟨error, hindrance, fails, _⟩ | ⟨contested, _⟩ | ⟨_, made, answering, books⟩
  · rw [perform_bind_of_error _ fails]
    refine ⟨.inr ⟨error, rfl, hindrance.trouble_of_clean clean laid⟩, fun _ succeeds => ?_⟩
    cases succeeds
  · exact absurd contested free
  · rw [perform_bind_of_ok _ made]
    generalize (ledger.perform (Work.updateUser ⟨username, first⟩)).2 = after at answering books ⊢
    have rows : after.rows = ledger.rows.revised ⟨username, first⟩ := congrArg Books.rows books
    have serials : after.serials = ledger.serials := congrArg Books.serials books
    have same : (ProfileChange.mk username second).username =
      (ProfileChange.mk username first).username := rfl
    rcases after.update_cases (sound.execute answering.books) ⟨username, second⟩ with
      ⟨error, hindrance, fails, _⟩ | ⟨contested, _⟩ | ⟨_, made, _, booksAfter⟩
    · have trouble := hindrance.trouble_of_clean clean' answering.laid
      refine ⟨.inr ⟨error, fails, trouble.earlier answering.around⟩, fun _ succeeds => ?_⟩
      rw [fails] at succeeds
      cases succeeds
    · rw [rows, Tables.contested_revised same] at contested
      exact absurd contested free'
    · refine ⟨.inl ?_, fun _ _ => ?_⟩
      · rw [made, rows, Tables.user?_revised, Option.map_map]
        exact congrArg Except.ok
          (congrArg (Option.map · _) (funext (ProfileChange.revise_revise same)))
      · rw [booksAfter, serials, rows, Tables.revised_revised same]

/-- **A change that gives both parts** can be made in two, in either order. -/
theorem update_in_parts (sound : ledger.books.Sound) (laid : ledger.tables.isSome = true)
    (clean : (Query.updateUser change).Clean) (free : ¬ ledger.rows.Contested change)
    {fullName email : String} (patch : change.patch = ⟨some fullName, some email⟩)
    {parts : ProfilePatch × ProfilePatch}
    (member : parts ∈
      [((⟨some fullName, none⟩ : ProfilePatch), (⟨none, some email⟩ : ProfilePatch)),
        (⟨none, some email⟩, ⟨some fullName, none⟩)]) :
    ledger.Shows (Work.updateTwice change.username parts.1 parts.2)
        ((ledger.rows.user? change.username).map change.revise) ∧
      ∀ found, (ledger.perform (Work.updateTwice change.username parts.1 parts.2)).1 = .ok found →
        (ledger.perform (Work.updateTwice change.username parts.1 parts.2)).2.books =
          ⟨ledger.serials, ledger.rows.revised change⟩ := by
  have given : ∀ {part : ProfilePatch}, part = ⟨some fullName, none⟩ ∨ part = ⟨none, some email⟩ →
      (Query.updateUser ⟨change.username, part⟩).Clean ∧
        ¬ ledger.rows.Contested ⟨change.username, part⟩ := fun {part} either => by
    have names : ∀ name, part.fullName = some name → change.patch.fullName = some name := by
      rw [patch]
      rcases either with rfl | rfl <;> simp
    have emails : ∀ email, part.email = some email → change.patch.email = some email := by
      rw [patch]
      rcases either with rfl | rfl <;> simp
    exact ⟨change.clean_of_part names emails clean,
      fun contested => free (contested.whole emails)⟩
  rcases List.mem_cons.mp member with rfl | last
  · exact update_twice sound laid (given (.inl rfl)).1 (given (.inr rfl)).1
      (given (.inl rfl)).2 (given (.inr rfl)).2 patch
  · obtain rfl := List.mem_singleton.mp last
    exact update_twice sound laid (given (.inr rfl)).1 (given (.inl rfl)).1
      (given (.inr rfl)).2 (given (.inl rfl)).2 patch

/-- The user is found afterwards as the change leaves them. -/
theorem shows_revised {after : Ledger} {user : User} (clean : (Query.updateUser change).Clean)
    (laid : after.tables.isSome = true) (rows : after.rows = ledger.rows.revised change)
    (found : ledger.rows.user? change.username = some user) :
    after.Shows (Work.findUser change.username) (some (change.revise user)) := by
  have named : (Query.findUser change.username).Clean :=
    List.any_eq_false.mpr fun text given => List.any_eq_false.mp clean text <|
      List.mem_cons.mpr (.inl (List.mem_singleton.mp given))
  refine (Work.single_ask (.findUser change.username)).shows named laid rfl ?_
  show Except.ok (after.rows.user? change.username) = _
  rw [rows, Tables.user?_revised, found]
  rfl

end Ledger

/-! ### Runs -/

variable {may : Call → Prop} {past : List Exchange} {ledger after : Ledger} {change : ProfileChange}
  {outcome : Except StoreError (Option User)}

/-- **What an update of a profile does**, in every state that a run leads to. A user who is not
stored is not found, and nothing changes. An email that another user has is refused as a violation
of a unique key, and nothing changes. Any other change replaces what it gives of its user and
nothing else, and answers the user as found afterwards. Only trouble, or tables that are not laid
out, keep it from the rows.

An update that was answered can be made again: it changes nothing more. And one that gives both
parts can be made in two, in either order: they come to the same answer and the same state. -/
theorem profile_update (reachable : Reachable may past ledger)
    (clean : (Query.updateUser change).Clean)
    (updates : ledger.perform (Work.updateUser change) = (outcome, after)) :
    ((∃ error, Hindrance (.updateUser change) ledger error ∧
        outcome = .error (.database error) ∧ after.books = ledger.books) ∨
      (¬ ledger.rows.HasUser change.username ∧ outcome = .ok none ∧ after.books = ledger.books) ∨
      (ledger.rows.Contested change ∧
        (∃ error, outcome = .error error ∧ error.isUniqueViolation = true) ∧
        after.books = ledger.books) ∨
      ¬ ledger.rows.Contested change ∧ ∃ user ∈ ledger.rows.users,
        user.username = change.username ∧ outcome = .ok (some (change.revise user)) ∧
        after.books = ⟨ledger.serials, ledger.rows.revised change⟩ ∧
        after.Shows (Work.findUser change.username) (some (change.revise user))) ∧
    ∀ found, outcome = .ok found →
      (after.Shows (Work.updateUser change) found ∧
        (after.perform (Work.updateUser change)).2.books = after.books) ∧
      ∀ fullName email, change.patch = ⟨some fullName, some email⟩ →
        ∀ parts ∈ [((⟨some fullName, none⟩ : ProfilePatch), (⟨none, some email⟩ : ProfilePatch)),
            (⟨none, some email⟩, ⟨some fullName, none⟩)],
          ledger.Shows (Work.updateTwice change.username parts.1 parts.2) found ∧
          ∀ answer,
            (ledger.perform (Work.updateTwice change.username parts.1 parts.2)).1 = .ok answer →
            (ledger.perform (Work.updateTwice change.username parts.1 parts.2)).2.books =
              after.books := by
  have sound := reachable.sound
  obtain rfl : (ledger.perform (Work.updateUser change)).1 = outcome := congrArg Prod.fst updates
  obtain rfl : (ledger.perform (Work.updateUser change)).2 = after := congrArg Prod.snd updates
  clear updates
  constructor
  · rcases ledger.update_cases sound change with
      hindered | ⟨contested, refused, books⟩ | ⟨free, made, answering, books⟩
    · exact .inl hindered
    · exact .inr (.inr (.inl ⟨contested, ⟨_, refused, by decide⟩, books⟩))
    · cases found : ledger.rows.user? change.username with
      | none =>
        have absent : ¬ ledger.rows.HasUser change.username := fun there =>
          Tables.user?_isNone.mpr there (by rw [found]; rfl)
        rw [found] at made
        rw [Tables.revised_of_absent absent] at books
        exact .inr (.inl ⟨absent, made, books⟩)
      | some user =>
        obtain ⟨stored, its⟩ := Tables.user?_eq_some found
        rw [found] at made
        exact .inr (.inr (.inr ⟨free, user, stored, its, made, books,
          Ledger.shows_revised clean answering.laid (congrArg Books.rows books) found⟩))
  · intro found succeeds
    rcases ledger.update_cases sound change with
      ⟨_, _, fails, _⟩ | ⟨_, fails, _⟩ | ⟨free, made, answering, books⟩
    · rw [fails] at succeeds
      cases succeeds
    · rw [fails] at succeeds
      cases succeeds
    rw [made] at succeeds
    cases succeeds
    refine ⟨Ledger.update_again (sound.execute answering.books) answering.laid clean free
      (congrArg Books.rows books), fun fullName email patch parts member => ?_⟩
    have answered : (ledger.query (.updateUser change)).1 = .ok _ := mapError_eq_ok.mp made
    rw [books]
    exact Ledger.update_in_parts sound (Ledger.laid_of_answered answered) clean free patch member

/-- A demonstration user takes another name and another email, at once or in two steps. The email of
the other user is refused. -/
theorem profile_update_demonstration :
    (demonstration.perform (Work.updateTwice "gondola" ⟨none, some "boat@example.com"⟩
      ⟨some "Gondola", none⟩)).1 =
        .ok (some ⟨"gondola", "Gondola", "boat@example.com", .newYear2024⟩) ∧
    ∃ error, (demonstration.perform
      (Work.updateUser ⟨"gondola", ⟨none, some "apu@apustaja.com"⟩⟩)).1 = .error error ∧
        error.isUniqueViolation = true := by
  have reachable : Reachable Call.Typed _ demonstration := .step .seed .fresh trivial
  have calm : demonstration.Calm := ⟨by decide, by decide, by decide⟩
  have stored : demonstration.rows.HasUser "gondola" :=
    ⟨⟨"gondola", "Gondola Gondolier", "gondola@example.com", .newYear2024⟩, by decide, rfl⟩
  have unhindered : ∀ {query : Query} {error : DatabaseError}, query.Clean →
      ¬ Hindrance query demonstration error := fun clean hindrance =>
    calm.not_trouble (hindrance.trouble_of_clean clean calm.laid)
  constructor
  · have answered : (demonstration.perform
        (Work.updateUser ⟨"gondola", ⟨some "Gondola", some "boat@example.com"⟩⟩)).1 =
          .ok (some ⟨"gondola", "Gondola", "boat@example.com", .newYear2024⟩) :=
      eq_ok_of_toOption (by decide +kernel)
    have clean : (Query.updateUser
        ⟨"gondola", ⟨some "Gondola", some "boat@example.com"⟩⟩).hasNul = false := by decide
    obtain ⟨_, parts⟩ := profile_update reachable clean rfl
    exact calm.perform_of_shows
      ((parts _ answered).2 _ _ rfl _ (List.mem_cons_of_mem _ List.mem_cons_self)).1
  · have clean : (Query.updateUser
        ⟨"gondola", ⟨none, some "apu@apustaja.com"⟩⟩).hasNul = false := by decide
    obtain ⟨⟨_, hindrance, _⟩ | ⟨missing, _⟩ | ⟨_, refused, _⟩ | ⟨free, _⟩, _⟩ :=
      profile_update reachable clean rfl
    · exact absurd hindrance (unhindered clean)
    · exact absurd stored missing
    · exact refused
    · refine absurd ⟨stored, _, rfl, ?_⟩ free
      decide

end Passbook
