/-
**Stored profiles are valid.**

A user is registered with a valid profile only, and a patch puts only valid parts in the place of
those that it gives. So whatever patches follow one another, a stored profile is one that could
still be registered.

* `Profile.isUsername_iff`, `isFullName_iff`, `isEmail_iff` — what is asked of the parts, character
  by character; `NewUser.validate_eq_ok`, `ProfilePatch.validate_eq_ok` — what is asked of a
  registration and of a patch.
* `User.registration` — what a user could be registered with as the profile stands;
  `validate_patched` — a valid patch leaves it valid.
* **`profiles_valid`** — after every run in which users are written by the service and the seeding
  alone, every stored profile is valid.
-/

import Passbook.Proofs.Run.Invariant
import Passbook.Proofs.Text.Blank

namespace Passbook

open Ledger (Query Tables Exchange)
open Ledger.Tables (patched)

/-! ### What is asked of a profile -/

namespace Profile

/-- An ASCII letter, a digit or an underscore. -/
def IsWordChar (c : Char) : Prop :=
  ('A' ≤ c ∧ c ≤ 'Z') ∨ ('a' ≤ c ∧ c ≤ 'z') ∨ ('0' ≤ c ∧ c ≤ '9') ∨ c = '_'

theorem isWordChar_iff {c : Char} : (c.isAlphanum || c == '_') = true ↔ IsWordChar c := by
  unfold IsWordChar Char.isAlphanum Char.isAlpha Char.isUpper Char.isLower Char.isDigit
  simp only [Char.le_def, Bool.or_eq_true, decide_eq_true_eq, Bool.and_eq_true, beq_iff_eq,
    ge_iff_le, or_assoc]

theorem isUsername_iff {text : String} :
    isUsername text = true ↔ text ≠ "" ∧ ∀ c ∈ text.toList, IsWordChar c := by
  rw [isUsername, Bool.and_eq_true, List.all_eq_true]
  simp only [isWordChar_iff, Bool.not_eq_true', String.isEmpty_eq_false_iff, ne_eq]

theorem isFullName_iff {text : String} : isFullName text = true ↔ Text.trim text.toList ≠ [] := by
  rw [isFullName, ne_eq, Text.trim_eq_nil, Bool.not_eq_true', Bool.not_eq_true]

theorem isEmail_iff {text : String} : isEmail text = true ↔ '@' ∈ text.toList := by
  rw [isEmail, List.contains_iff_mem]

theorem checkFullName_eq_ok {text : String} :
    checkFullName text = .ok () ↔ isFullName text = true := by
  unfold checkFullName
  by_cases good : isFullName text = true <;> simp [good]

theorem checkEmail_eq_ok {text : String} : checkEmail text = .ok () ↔ isEmail text = true := by
  unfold checkEmail
  by_cases good : isEmail text = true <;> simp [good]

theorem checkGiven_eq_ok {check : String → Except ProfileError Unit} {given : Option String} :
    checkGiven check given = .ok () ↔ ∀ text, given = some text → check text = .ok () := by
  cases given with
  | none => simp [checkGiven]
  | some text => simp [checkGiven]

end Profile

open Profile

theorem NewUser.validate_eq_ok {user : NewUser} : user.validate = .ok () ↔
    isUsername user.username = true ∧ isFullName user.fullName = true ∧
      isEmail user.email = true := by
  rw [← checkFullName_eq_ok, ← checkEmail_eq_ok, validate]
  by_cases named : isUsername user.username = true
  · cases checkFullName user.fullName with
    | error problem => simp [named]
    | ok _ => simp [named]
  · simp [named]

theorem ProfilePatch.validate_eq_ok {patch : ProfilePatch} : patch.validate = .ok () ↔
    (patch.fullName.isSome = true ∨ patch.email.isSome = true) ∧
      (∀ text, patch.fullName = some text → isFullName text = true) ∧
      ∀ text, patch.email = some text → isEmail text = true := by
  simp only [← checkFullName_eq_ok, ← checkEmail_eq_ok, ← checkGiven_eq_ok]
  rw [validate]
  by_cases nothing : (patch.fullName.isNone && patch.email.isNone) = true
  · have absent : patch.fullName = none ∧ patch.email = none := by simpa using nothing
    simp [absent.1, absent.2]
  · have given : patch.fullName.isSome = true ∨ patch.email.isSome = true := by
      rw [Bool.and_eq_true, Classical.not_and_iff_not_or_not] at nothing
      simpa [Option.ne_none_iff_isSome] using nothing
    rw [if_neg nothing]
    cases checkGiven checkFullName patch.fullName with
    | error problem => simp
    | ok _ => simp [given]

/-- What the user could be registered with as the profile stands. -/
def User.registration (user : User) : NewUser :=
  ⟨user.username, user.fullName, user.email⟩

/-- **A valid patch** of a valid profile gives a valid profile. -/
theorem validate_patched {user : User} {patch : ProfilePatch}
    (valid : user.registration.validate = .ok ()) (fits : patch.validate = .ok ()) :
    (patched user patch).registration.validate = .ok () := by
  obtain ⟨username, fullName, email⟩ := NewUser.validate_eq_ok.mp valid
  obtain ⟨_, newName, newEmail⟩ := ProfilePatch.validate_eq_ok.mp fits
  refine NewUser.validate_eq_ok.mpr ⟨username, ?_, ?_⟩
  · show isFullName (patch.fullName.getD user.fullName) = true
    cases given : patch.fullName with
    | none => exact fullName
    | some text => exact newName text given
  · show isEmail (patch.email.getD user.email) = true
    cases given : patch.email with
    | none => exact email
    | some text => exact newEmail text given

/-! ### Runs -/

/-- A call that stores no user and changes none. -/
def Call.LeavesUsers : Call → Prop
  | .query (.insertUser _) | .query (.updateUser _) => False
  | _ => True

/-- The demonstration users are valid. -/
theorem Seed.validate_demo {demo : Demo} (member : demo ∈ demos) :
    demo.user.validate = .ok () := by
  have all : ∀ demo ∈ demos, demo.user.validate = .ok () := by decide
  exact all demo member

/-- Stored profiles stay valid while users are written by the service and the seeding alone. -/
def Ledger.Tables.profiled : Invariant Call.LeavesUsers where
  holds _ books := ∀ user ∈ books.rows.users, user.registration.validate = .ok ()
  empty := fun _ member => by cases member
  hear valid _ := valid
  apply permitted _ valid executed := by
    cases Books.effect_of_execute executed with
    | read _ | userMissed _ | accountOpened _ _ | balanceMissed _ | balanceChanged _ _
    | transferStored _ _ _ | entryStored _ _ _ => exact valid
    | userStored _ _ =>
      refine forall_mem_snoc valid ?_
      rcases permitted with written | served | ⟨demo, member, rfl⟩
      · exact written.elim
      · exact served
      · exact Seed.validate_demo member
    | userChanged found _ =>
      rcases permitted with written | served | seeded
      · exact written.elim
      · exact forall_mem_put valid (validate_patched (valid _ (user?_eq_some found).1) served)
      · exact seeded.elim
  move _ _ valid settles _ _ := by
    rw [settles.books]
    exact valid

/-- **Stored profiles are valid** after every run in which users are written by the service and the
seeding alone. The username is not empty and consists of ASCII letters, digits and underscores,
something is left of the full name when blanks are stripped from its ends, and the email address has
an at sign; so registration would not refuse the profile. -/
theorem profiles_valid {past : List Exchange} {ledger : Ledger}
    (reachable : Reachable Call.LeavesUsers past ledger) : ∀ user ∈ ledger.rows.users,
      user.registration.validate = .ok () ∧
      (user.username ≠ "" ∧ ∀ c ∈ user.username.toList, IsWordChar c) ∧
      Text.trim user.fullName.toList ≠ [] ∧ '@' ∈ user.email.toList := by
  intro user stored
  have valid : user.registration.validate = .ok () :=
    (Tables.profiled.of_reachable reachable).holds user stored
  obtain ⟨username, fullName, email⟩ := NewUser.validate_eq_ok.mp valid
  exact ⟨valid, isUsername_iff.mp username, isFullName_iff.mp fullName, isEmail_iff.mp email⟩

/-- A ledger in which a registered user has changed one part of the profile and then, with blanks
around it, the other, and has tried to do without an at sign. -/
def renamedTwice : Ledger :=
  (Operation.changeProfile ⟨"bob", ⟨none, some "nowhere"⟩⟩).run <|
    (Operation.changeProfile ⟨"bob", ⟨some " Bob ", none⟩⟩).run <|
      (Operation.changeProfile ⟨"bob", ⟨none, some "@"⟩⟩).run <|
        (Operation.register ⟨"bob", "Robert", "bob@example.com"⟩).run .fresh

theorem profiles_valid_renamedTwice :
    renamedTwice.rows.users = [⟨"bob", " Bob ", "@", .newYear2024⟩] ∧
      ∀ user ∈ renamedTwice.rows.users, user.registration.validate = .ok () := by
  have reachable : Reachable Call.LeavesUsers _ renamedTwice :=
    .step _ (.step _ (.step _ (.step _ .fresh trivial) trivial) trivial) trivial
  exact ⟨by decide, fun user stored => (profiles_valid reachable user stored).1⟩

end Passbook
