/-
**What a caller learns of a failure.**

The response to a request that was not served depends on the error alone. A failure that is not the
caller's is told in one way, whatever it was. What the database said is told in one case only: where
the first failure is a conflict with another transaction, after which the caller may try again.

* `StoreError.Domestic` — the failures of the store that are told to the caller as they are.
* `ServiceError.status_eq_500_iff` — which errors have status 500.
* `Response.internal`, `Response.conflict` — the responses to a failure and to a conflict.
* **`failures_classified`** — what a failure is goes by the first failure below the rollbacks that
  failed, its message tells them all, and the errors of status 500 have one response.
* `StoreError.Reworded`, `ServiceError.Reworded` — an error that the database and the connection
  tell in other words.
* **`response_of_reworded`** — the words are told only where the first failure is a conflict.
-/

import Passbook.Http.Api
import Passbook.Proofs.Store.Rollbacks

namespace Passbook

open Text (Within)

/-! ### Statuses -/

/-- A failure of the store that is told to the caller as it is. -/
def StoreError.Domestic (error : StoreError) : Prop :=
  (∃ id balance, error = insufficientFunds id balance) ∨ (∃ amount, error = invalidAmount amount) ∨
    ∃ id, error = accountNotFound id

namespace ServiceError

/-- The store failed, and the first failure is a conflict with another transaction. -/
def IsConflict (error : ServiceError) : Prop :=
  ∃ failure, error = store failure ∧
    (failure.origin.code? = some "40P01" ∨ failure.origin.code? = some "40001")

theorem isConflict_iff {failure : StoreError} :
    (store failure).IsConflict ↔ failure.isRetryable = true := by
  rw [StoreError.isRetryable_iff]
  constructor
  · rintro ⟨_, same, code⟩
    cases same
    exact code
  · intro code
    exact ⟨failure, rfl, code⟩

theorem isInternal_store (failure : StoreError) :
    (store failure).isInternal = decide (500 ≤ (storeStatus failure).1) :=
  rfl

theorem storeStatus_of_conflict {failure : StoreError} (conflict : failure.isRetryable = true) :
    storeStatus failure = (409, "transaction_conflict") := by
  cases failure with
  | insufficientFunds _ _ | invalidAmount _ | accountNotFound _ => cases conflict
  | database _ | rollback _ _ | commitInterrupted _ => simp [storeStatus, conflict]

/-- The status of a failure that is no conflict is 500, unless it is told as it is. -/
theorem storeStatus_of_other {failure : StoreError} (other : failure.isRetryable = false) :
    failure.Domestic ∧ (storeStatus failure).1 < 500 ∨
      ¬ failure.Domestic ∧ storeStatus failure = (500, "database_error") := by
  cases failure with
  | insufficientFunds _ _ | invalidAmount _ | accountNotFound _ =>
    exact .inl (by simp [StoreError.Domestic, storeStatus])
  | database _ | rollback _ _ | commitInterrupted _ =>
    exact .inr (by simp [StoreError.Domestic, storeStatus, other])

/-- **Status 500** is that of the failures of the store that are neither told as they are nor
conflicts. -/
theorem status_eq_500_iff {error : ServiceError} :
    error.status = 500 ↔
      ∃ failure, error = store failure ∧ ¬ failure.Domestic ∧ failure.isRetryable = false := by
  cases error with
  | invalidRequest _ | userNotFound _ | accountNotFound _ | transferNotFound _ | entryNotFound _
  | alreadyExists _ | rule _ => simp [status, statusAndCode]
  | store failure =>
    simp only [status, statusAndCode, store.injEq, exists_eq_left']
    cases kind : failure.isRetryable with
    | true => simp [storeStatus_of_conflict kind]
    | false =>
      rcases storeStatus_of_other kind with ⟨domestic, below⟩ | ⟨foreign, its⟩
      · simp [domestic, Nat.ne_of_lt below]
      · simp [foreign, its]

end ServiceError

/-! ### Responses -/

namespace Http

open ServiceError (storeStatus)

namespace Response

/-- The response to a failure that is not the caller's. -/
def internal : Response where
  status := 500
  content := .json (.object
    [("error", .string "Internal server error"), ("error_code", .string "database_error")])

/-- The response to a conflict with another transaction, told in its own words. -/
def conflict (text : String) : Response where
  status := 409
  content := .json (.object
    [("error", .string text), ("error_code", .string "transaction_conflict"),
      ("details", .string text)])

theorem conflict_inj {first second : String} :
    conflict first = conflict second ↔ first = second := by
  constructor
  · intro same
    simpa [conflict] using same
  · exact congrArg conflict

theorem ofOutcome_of_conflict {failure : StoreError} (retryable : failure.isRetryable = true) :
    ofOutcome (.error (.store failure)) = conflict failure.message := by
  have its := ServiceError.storeStatus_of_conflict retryable
  have told : (ServiceError.store failure).isInternal = false := by
    rw [ServiceError.isInternal_store, its]
    rfl
  simp only [ofOutcome, ServiceError.body, ServiceError.publicMessage, ServiceError.details, told]
  rw [ServiceError.status, ServiceError.code, ServiceError.statusAndCode, its]
  rfl

theorem ofOutcome_of_internal {failure : StoreError}
    (its : storeStatus failure = (500, "database_error")) :
    ofOutcome (.error (.store failure)) = internal := by
  have hidden : (ServiceError.store failure).isInternal = true := by
    rw [ServiceError.isInternal_store, its]
    rfl
  simp only [ofOutcome, ServiceError.body, ServiceError.publicMessage, ServiceError.details, hidden]
  rw [ServiceError.status, ServiceError.code, ServiceError.statusAndCode, its]
  rfl

/-- The errors of status 500, and no others, have one response. -/
theorem ofOutcome_eq_internal_iff {error : ServiceError} :
    ofOutcome (.error error) = internal ↔ error.status = 500 := by
  refine ⟨fun same => congrArg Response.status same, fun status => ?_⟩
  obtain ⟨failure, rfl, foreign, other⟩ := ServiceError.status_eq_500_iff.mp status
  rcases ServiceError.storeStatus_of_other other with ⟨domestic, _⟩ | ⟨_, its⟩
  · exact absurd domestic foreign
  · exact ofOutcome_of_internal its

end Response

/-- **What a failure is goes by the first failure** below the rollbacks that failed: a conflict, a
missing row, a taken key, or none of them. Its message tells the first failure and those of the
rollbacks. The response to an error has status 500 where the store failed, for a reason that is not
told as it is, and the first failure is no rejection by the database for a deadlock or a failed
serialization; and it is one response for all such errors. -/
theorem failures_classified :
    (∀ error : StoreError,
      (error.origin.isRollbackFailure = false ∧
        error.rollbacks.foldl .rollback error.origin = error) ∧
      (∀ failures : List DatabaseError,
        (failures.foldl .rollback error.origin).kinds = error.origin.kinds) ∧
      error.kinds = error.origin.kinds ∧ error.kinds.count true ≤ 1 ∧
      Within error.origin.message error.message ∧
      ∀ failure ∈ error.rollbacks, Within failure.message error.message) ∧
    ∀ error : ServiceError,
      ((Response.ofOutcome (.error error)).status = 500 ↔
        ∃ failure, error = .store failure ∧ ¬ failure.Domestic ∧ ∀ text,
          failure.origin ≠ .database (.rejected (some "40P01") text) ∧
            failure.origin ≠ .database (.rejected (some "40001") text)) ∧
      (Response.ofOutcome (.error error) = .internal ↔
        (Response.ofOutcome (.error error)).status = 500) := by
  refine ⟨fun error => ?_, fun error => ⟨?_, Response.ofOutcome_eq_internal_iff⟩⟩
  · have told := error.origin.message_foldl error.rollbacks
    rw [error.foldl_rollbacks] at told
    exact ⟨⟨error.origin_not_rollback, error.foldl_rollbacks⟩,
      error.origin.kinds_foldl, error.kinds_origin, error.count_kinds_le, told⟩
  · show error.status = 500 ↔ _
    simp only [ServiceError.status_eq_500_iff, StoreError.not_isRetryable_iff]

end Http

/-! ### Errors in other words -/

/-- An error that the database and the connection tell in other words: their SQLSTATE codes are the
same, and so is whatever the store says of itself. -/
inductive StoreError.Reworded : StoreError → StoreError → Prop
  | database {first second : DatabaseError} (code : first.code? = second.code?) :
    Reworded (.database first) (.database second)
  | rollback {first second : StoreError} (cause : Reworded first second)
      (failure other : DatabaseError) : Reworded (.rollback first failure) (.rollback second other)
  | same (error : StoreError) : Reworded error error

/-- An error of the service that they tell in other words. -/
inductive ServiceError.Reworded : ServiceError → ServiceError → Prop
  | store {first second : StoreError} (failure : StoreError.Reworded first second) :
    Reworded (.store first) (.store second)
  | same (error : ServiceError) : Reworded error error

namespace StoreError.Reworded

variable {first second : StoreError}

theorem code (reworded : Reworded first second) : first.code? = second.code? := by
  induction reworded with
  | database code => exact code
  | rollback _ _ _ ih => exact ih
  | same _ => rfl

theorem isRetryable (reworded : Reworded first second) :
    first.isRetryable = second.isRetryable := by
  rw [StoreError.isRetryable, StoreError.isRetryable, reworded.code]

theorem storeStatus (reworded : Reworded first second) :
    ServiceError.storeStatus first = ServiceError.storeStatus second := by
  have kind := reworded.isRetryable
  cases reworded with
  | database _ | rollback _ _ _ => simp only [ServiceError.storeStatus, kind]
  | same _ => rfl

/-- Told in other words, an error that the caller is told as it is stays the same. -/
theorem eq_of_domestic (reworded : Reworded first second) (domestic : first.Domestic) :
    first = second := by
  cases reworded with
  | same _ => rfl
  | database _ | rollback _ _ _ => simp [Domestic] at domestic

end StoreError.Reworded

namespace Http

theorem statusAndCode_of_reworded {first second : ServiceError}
    (reworded : first.Reworded second) : first.statusAndCode = second.statusAndCode := by
  cases reworded with
  | store failure => exact failure.storeStatus
  | same _ => rfl

/-- **Only of a conflict are the words told.** Told in other words, an error keeps its status and
its code. Its whole response is the same too, unless the first failure is a conflict: then the
response holds the message, and is the same only where the message is. -/
theorem response_of_reworded {first second : ServiceError} (reworded : first.Reworded second) :
    (Response.ofOutcome (.error first)).status = (Response.ofOutcome (.error second)).status ∧
    first.code = second.code ∧
    (first.IsConflict → Response.ofOutcome (.error first) = .conflict first.message) ∧
    (Response.ofOutcome (.error first) = Response.ofOutcome (.error second) ↔
      (first.IsConflict → first.message = second.message)) := by
  have same := statusAndCode_of_reworded reworded
  refine ⟨congrArg Prod.fst same, congrArg Prod.snd same, ?_, ?_⟩
  · intro isConflict
    obtain ⟨failure, rfl, _⟩ := id isConflict
    exact Response.ofOutcome_of_conflict (ServiceError.isConflict_iff.mp isConflict)
  cases reworded with
  | same error => exact iff_of_true rfl fun _ => rfl
  | @store first second failure =>
    rw [ServiceError.isConflict_iff]
    cases kind : first.isRetryable with
    | true =>
      rw [Response.ofOutcome_of_conflict kind,
        Response.ofOutcome_of_conflict (failure.isRetryable ▸ kind), Response.conflict_inj]
      exact ⟨fun told _ => told, fun told => told rfl⟩
    | false =>
      refine iff_of_true ?_ fun conflict => absurd conflict Bool.false_ne_true
      rcases ServiceError.storeStatus_of_other kind with ⟨domestic, _⟩ | ⟨_, its⟩
      · rw [failure.eq_of_domestic domestic]
      · rw [Response.ofOutcome_of_internal its,
          Response.ofOutcome_of_internal (failure.storeStatus ▸ its)]

/-- A taken key, below a rollback whose answer could not be read. -/
def takenKey (key : String) : ServiceError :=
  .store (.rollback (.database (.ofRefusal (.duplicate key))) (.protocol key))

theorem response_of_reworded_takenKey :
    (takenKey "users_pkey").Reworded (takenKey "users_email_key") ∧
      (takenKey "users_pkey").message ≠ (takenKey "users_email_key").message ∧
      Response.ofOutcome (.error (takenKey "users_pkey")) =
        Response.ofOutcome (.error (takenKey "users_email_key")) := by
  have code : (DatabaseError.ofRefusal (.duplicate "users_pkey")).code? =
      (DatabaseError.ofRefusal (.duplicate "users_email_key")).code? := rfl
  have reworded : (takenKey "users_pkey").Reworded (takenKey "users_email_key") :=
    .store (.rollback (.database code) _ _)
  obtain ⟨_, _, _, unchanged⟩ := response_of_reworded reworded
  refine ⟨reworded, by decide, unchanged.mpr fun conflict => ?_⟩
  exact absurd (ServiceError.isConflict_iff.mp conflict) (by decide)

/-- A failed serialization. -/
def unserialized (text : String) : ServiceError :=
  .store (.database (.rejected (some "40001") text))

/-- The words of a conflict are told. -/
theorem response_of_unserialized :
    (unserialized "first").Reworded (unserialized "second") ∧
      Response.ofOutcome (.error (unserialized "first")) ≠
        Response.ofOutcome (.error (unserialized "second")) := by
  refine ⟨.store (.database rfl), ?_⟩
  rw [unserialized, unserialized, Response.ofOutcome_of_conflict (by decide),
    Response.ofOutcome_of_conflict (by decide), ne_eq, Response.conflict_inj]
  decide

end Http

end Passbook
