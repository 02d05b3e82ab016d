/-
**Errors below failed rollbacks.**

A rollback that fails wraps the error that it was to undo, and rollbacks may fail one upon another.
An error is therefore a first failure below a list of failures of rollbacks, in one way only; what
kind of refusal it is goes by the first failure, and its message tells all of them.

* `StoreError.rollbacks` — the failures of the rollbacks, from the first to the last.
* `StoreError.foldl_rollbacks`, `StoreError.eq_of_foldl` — an error is its first failure below them,
  and in one way only.
* `StoreError.kinds` — whether it is a conflict, a missing row or a taken key; `kinds_foldl`,
  `kinds_origin`.
* `StoreError.origin_code?_eq_some_iff`, `not_isRetryable_iff` — its SQLSTATE code is that of a
  rejection by the database.
* **`StoreError.count_kinds_le`** — it is one of the three at most.
* **`StoreError.message_foldl`** — its message tells the first failure and those of all rollbacks.
-/

import Mathlib.Data.List.Infix
import Passbook.Proofs.Store.Outcome

namespace Passbook

/-- A text that stands within another. -/
def Text.Within (part whole : String) : Prop :=
  part.toList <:+: whole.toList

namespace Text.Within

theorem refl (text : String) : Within text text :=
  List.infix_rfl

theorem trans {inner part whole : String} (first : Within inner part)
    (second : Within part whole) : Within inner whole :=
  List.IsInfix.trans first second

theorem append_left (before : String) {part whole : String} (within : Within part whole) :
    Within part (before ++ whole) := by
  rw [Within, String.toList_append]
  exact List.IsInfix.trans within (List.suffix_append _ _).isInfix

theorem append_right (after : String) {part whole : String} (within : Within part whole) :
    Within part (whole ++ after) := by
  rw [Within, String.toList_append]
  exact List.IsInfix.trans within (List.prefix_append _ _).isInfix

end Text.Within

namespace StoreError

open Text (Within)

/-! ### The first failure and the rollbacks -/

/-- The failures of the rollbacks above the first failure, from the first to the last. -/
def rollbacks : StoreError → List DatabaseError
  | rollback cause failure => cause.rollbacks ++ [failure]
  | _ => []

theorem origin_not_rollback (error : StoreError) : error.origin.isRollbackFailure = false := by
  induction error with
  | rollback cause failure ih => exact ih
  | database _ | commitInterrupted _ | accountNotFound _ | insufficientFunds _ _
  | invalidAmount _ => rfl

/-- Only a rejection by the database has an SQLSTATE code. -/
theorem origin_code?_eq_some_iff {error : StoreError} {code : String} :
    error.origin.code? = some code ↔
      ∃ text, error.origin = .database (.rejected (some code) text) := by
  have bare := error.origin_not_rollback
  generalize error.origin = origin at bare ⊢
  cases origin with
  | rollback _ _ => cases bare
  | database failure => cases failure <;> simp [code?, DatabaseError.code?]
  | commitInterrupted _ | accountNotFound _ | insufficientFunds _ _ | invalidAmount _ =>
    simp [code?]

/-- An error is its first failure below the failures of the rollbacks. -/
theorem foldl_rollbacks (error : StoreError) :
    error.rollbacks.foldl rollback error.origin = error := by
  induction error with
  | rollback cause failure ih =>
    show (cause.rollbacks ++ [failure]).foldl rollback cause.origin = _
    rw [List.foldl_append, ih]
    rfl
  | database _ | commitInterrupted _ | accountNotFound _ | insufficientFunds _ _
  | invalidAmount _ => rfl

theorem origin_foldl (error : StoreError) (failures : List DatabaseError) :
    (failures.foldl rollback error).origin = error.origin := by
  induction failures generalizing error with
  | nil => rfl
  | cons failure _ ih => exact ih (rollback error failure)

theorem rollbacks_foldl (error : StoreError) (failures : List DatabaseError) :
    (failures.foldl rollback error).rollbacks = error.rollbacks ++ failures := by
  induction failures generalizing error with
  | nil => exact (List.append_nil _).symm
  | cons failure rest ih =>
    rw [List.foldl_cons, ih, rollbacks, List.append_assoc, List.singleton_append]

/-- **In one way only** is it a first failure below failures of rollbacks. -/
theorem eq_of_foldl {error cause : StoreError} {failures : List DatabaseError}
    (first : cause.isRollbackFailure = false) (whole : failures.foldl rollback cause = error) :
    cause = error.origin ∧ failures = error.rollbacks := by
  subst whole
  rw [origin_foldl, rollbacks_foldl]
  cases cause with
  | rollback _ _ => cases first
  | database _ | commitInterrupted _ | accountNotFound _ | insufficientFunds _ _
  | invalidAmount _ => exact ⟨rfl, rfl⟩

/-! ### What kind of refusal it is -/

/-- Whether it is a conflict with another transaction, a missing row or a taken key. -/
def kinds (error : StoreError) : List Bool :=
  [error.isRetryable, error.isForeignKeyViolation, error.isUniqueViolation]

/-- The kind of refusal goes by the SQLSTATE code of the first failure. -/
theorem kinds_of_code {first second : StoreError} (code : first.code? = second.code?) :
    first.kinds = second.kinds := by
  simp only [kinds, isRetryable, isForeignKeyViolation, isUniqueViolation, code]

theorem kinds_origin (error : StoreError) : error.kinds = error.origin.kinds :=
  kinds_of_code error.code?_origin.symm

/-- Rollbacks that fail do not change what kind of refusal it is. -/
theorem kinds_foldl (error : StoreError) (failures : List DatabaseError) :
    (failures.foldl rollback error).kinds = error.kinds := by
  rw [kinds_origin, origin_foldl, ← kinds_origin]

theorem isRetryable_iff {error : StoreError} :
    error.isRetryable = true ↔
      error.origin.code? = some "40P01" ∨ error.origin.code? = some "40001" := by
  rw [code?_origin, isRetryable, Bool.or_eq_true, beq_iff_eq, beq_iff_eq]

/-- **A conflict** is a rejection by the database, below all rollbacks, for a deadlock or a failed
serialization. -/
theorem not_isRetryable_iff {error : StoreError} :
    error.isRetryable = false ↔ ∀ text,
      error.origin ≠ .database (.rejected (some "40P01") text) ∧
        error.origin ≠ .database (.rejected (some "40001") text) := by
  rw [← Bool.not_eq_true, isRetryable_iff, origin_code?_eq_some_iff, origin_code?_eq_some_iff,
    not_or, not_exists, not_exists, ← forall_and]

/-- **At most one kind** of refusal, since each has SQLSTATE codes of its own. -/
theorem count_kinds_le (error : StoreError) : error.kinds.count true ≤ 1 := by
  rw [kinds, isRetryable, isForeignKeyViolation, isUniqueViolation]
  cases error.code? with
  | none => decide
  | some code =>
    simp only [Option.some_beq_some]
    by_cases deadlock : code = "40P01"
    · subst deadlock
      decide
    by_cases serialization : code = "40001"
    · subst serialization
      decide
    by_cases reference : code = "23503"
    · subst reference
      decide
    rw [beq_false_of_ne deadlock, beq_false_of_ne serialization, beq_false_of_ne reference]
    cases code == "23505" <;> decide

/-! ### What its message tells -/

theorem cause_within (cause : StoreError) (failure : DatabaseError) :
    Within cause.message (rollback cause failure).message :=
  (((Within.refl _).append_left _).append_right _).append_right _

theorem failure_within (cause : StoreError) (failure : DatabaseError) :
    Within failure.message (rollback cause failure).message :=
  (Within.refl _).append_left _

/-- **The message** below rollbacks that failed tells the error and each of the failures. -/
theorem message_foldl (error : StoreError) (failures : List DatabaseError) :
    Within error.message (failures.foldl rollback error).message ∧
      ∀ failure ∈ failures, Within failure.message (failures.foldl rollback error).message := by
  induction failures generalizing error with
  | nil => exact ⟨.refl _, fun _ member => absurd member List.not_mem_nil⟩
  | cons first rest ih =>
    obtain ⟨below, above⟩ := ih (rollback error first)
    refine ⟨(cause_within error first).trans below, fun failure member => ?_⟩
    rcases List.mem_cons.mp member with rfl | later
    · exact (failure_within error failure).trans below
    · exact above failure later

end StoreError

end Passbook
