/-
**Failures of the store.**

A `StoreError` is why an operation of the store failed. When a transaction failed and undoing it
failed too, the error keeps both failures; what kind of refusal it is goes by the cause, however
deep it lies. `sources` lists the failures below an error, from the nearest to the first.
-/

import Passbook.Ledger.Error

namespace Passbook

inductive StoreError where
  | database (error : DatabaseError)
  /-- The work failed with `cause`, and the rollback after it failed too. -/
  | rollback (cause : StoreError) (failure : DatabaseError)
  /-- A commit whose outcome was never learnt. -/
  | commitInterrupted (reason : String)
  | accountNotFound (id : Int)
  | insufficientFunds (id balance : Int)
  | invalidAmount (amount : Int)
  deriving DecidableEq, Repr

namespace StoreError

def message : StoreError → String
  | database error => s!"Database error: {error.message}"
  | rollback cause failure =>
    s!"Transaction error: {cause.message}, Rollback error: {failure.message}"
  | commitInterrupted reason => s!"Commit interrupted: {reason}"
  | accountNotFound id => s!"Account not found: {id}"
  | insufficientFunds id balance =>
    s!"Insufficient funds in account {id}: balance would be {balance}"
  | invalidAmount amount => s!"Invalid transfer amount: {amount}"

/-- The messages of the failures below this one. -/
def sources : StoreError → List String
  | database error => error.message :: error.sources
  | rollback cause _ => cause.message :: cause.sources
  | _ => []

/-- The SQLSTATE code of the first failure. -/
def code? : StoreError → Option String
  | database error => error.code?
  | rollback cause _ => cause.code?
  | _ => none

/-- A deadlock or a failed serialization: the same operation may succeed another time. -/
def isRetryable (error : StoreError) : Bool :=
  error.code? == some "40P01" || error.code? == some "40001"

def isForeignKeyViolation (error : StoreError) : Bool :=
  error.code? == some "23503"

def isUniqueViolation (error : StoreError) : Bool :=
  error.code? == some "23505"

def isRollbackFailure : StoreError → Bool
  | rollback _ _ => true
  | _ => false

end StoreError

end Passbook
