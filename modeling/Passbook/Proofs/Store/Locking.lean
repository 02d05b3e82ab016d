/-
**Transfers do not wait for each other in a circle.**

A statement that changes a balance locks the row of its account until its transaction ends, and a
transaction waits while another one holds the lock that it asks for. Every transfer changes the
account with the smaller number first.

* `Movement.locks` — the accounts whose rows a transfer locks, in order; `Ledger.locked_transfer`:
  these are what the statements of a transfer lock, whatever they are replied.
* `Locking.Step` — one step of several transactions side by side: one of them asks for its next
  lock, takes the lock that it asks for, or ends. `Locking.Reachable` — the states that any steps
  lead to, in any order.
* `Locking.Exclusive` — no lock has two holders; **`Exclusive.step`**.
* `Locking.rising` — of transactions that wait for each other, each asks for an account with a
  greater number than the one before.
* **`no_deadlock`** — no transaction waits for itself over any number of others, one of those that
  have not ended is not waiting, and all of them can come to hold all their locks and end.
-/

import Mathlib.Algebra.BigOperators.Fin
import Mathlib.Algebra.Order.BigOperators.Group.Finset
import Mathlib.Order.WellFounded
import Passbook.Proofs.Store.Settlement

namespace Passbook

open Ledger (Query Exchange Session)

variable {α β : Type}

/-! ### What a transfer locks -/

/-- The account whose row a statement locks. -/
def Ledger.Query.locked? : Query → Option Int
  | .addBalance change => some change.account
  | _ => none

/-- The accounts whose rows statements lock, in their order. -/
def lockedIn (exchanges : List Exchange) : List Int :=
  exchanges.filterMap fun exchange => exchange.query.locked?

/-- Whatever it is replied, the script locks these accounts in this order, and all of them before it
succeeds. -/
def Script.Locks : List Int → Script Query Query.Reply (Except StoreError α) → Prop
  | accounts, .done result => (∃ value, result = .ok value) → accounts = []
  | accounts, .ask query next =>
    ∃ rest, accounts = query.locked?.toList ++ rest ∧ ∀ reply, (next reply).Locks rest

theorem lockedIn_cons (exchange : Exchange) (rest : List Exchange) :
    lockedIn (exchange :: rest) = exchange.query.locked?.toList ++ lockedIn rest := by
  unfold lockedIn
  cases locks : exchange.query.locked? <;> simp [locks]

/-- A script in a session locks what it says, from the first on. -/
theorem Script.Locks.notes {script : Script Query Query.Reply (Except StoreError α)}
    {accounts : List Int} (locks : script.Locks accounts) (session : Session) :
    lockedIn (script.notes Session.query Session.heard session) <+: accounts ∧
      ((∃ value, (script.run Session.query session).1 = .ok value) →
        lockedIn (script.notes Session.query Session.heard session) = accounts) := by
  induction script generalizing accounts session with
  | done result => exact ⟨List.nil_prefix, fun succeeds => (locks succeeds).symm⟩
  | ask query next ih =>
    obtain ⟨rest, rfl, later⟩ := locks
    obtain ⟨ordered, all⟩ := ih _ (later (session.query query).1) _
    rw [Script.notes_ask, Script.run_ask, Session.heard, List.singleton_append, lockedIn_cons]
    exact ⟨(List.prefix_append_right_inj _).mpr ordered,
      fun succeeds => congrArg (_ ++ ·) (all succeeds)⟩

namespace Work

theorem locks_ask (query : Query) : (ask query).run.Locks query.locked?.toList :=
  ⟨[], (List.append_nil _).symm, fun _ _ => rfl⟩

theorem locks_bind {first : Work α} {rest : α → Work β} {now later : List Int}
    (locks : first.run.Locks now) (then_locks : ∀ value, (rest value).run.Locks later) :
    (first >>= rest).run.Locks (now ++ later) := by
  show Script.Locks (now ++ later) (Script.bind first.run (ExceptT.bindCont rest))
  generalize first.run = script at locks ⊢
  induction script generalizing now with
  | done result =>
    cases result with
    | ok value =>
      rw [locks ⟨value, rfl⟩]
      exact then_locks value
    | error problem =>
      rintro ⟨value, succeeds⟩
      cases succeeds
  | ask query next ih =>
    obtain ⟨rest, rfl, asks⟩ := locks
    exact ⟨rest ++ later, List.append_assoc _ _ _, fun reply => ih reply (asks reply)⟩

theorem locks_addBalance (change : BalanceChange) :
    (addBalance change).run.Locks [change.account] := by
  show Script.Locks ([change.account] ++ []) _
  refine locks_bind (locks_ask (.addBalance change)) fun answer => ?_
  cases answer with
  | some row => exact fun _ => rfl
  | none => exact fun _ => rfl

end Work

namespace Movement

/-- The accounts whose rows a transfer locks, in the order of its changes. -/
def locks (movement : Movement) : List Int :=
  [movement.orderedChanges.1.account, movement.orderedChanges.2.account]

/-- The account with the smaller number is locked first. -/
theorem locks_ordered (movement : Movement) : movement.locks.Pairwise (· ≤ ·) := by
  rw [locks, List.pairwise_pair]
  unfold orderedChanges
  by_cases first : movement.source < movement.target
  · rw [if_pos first]
    exact Int.le_of_lt first
  · rw [if_neg first]
    exact Int.not_lt.mp first

/-- The work of a transfer locks its two accounts in their order. -/
theorem locks_settle (movement : Movement) : movement.settle.run.Locks movement.locks := by
  refine Work.locks_bind (Work.locks_ask (.insertTransfer _)) fun transfer => ?_
  refine Work.locks_bind (Work.locks_ask (.insertEntry _)) fun debit => ?_
  refine Work.locks_bind (Work.locks_ask (.insertEntry _)) fun credit => ?_
  refine Work.locks_bind (Work.locks_addBalance _) fun first => ?_
  refine Work.locks_bind (Work.locks_addBalance _) fun second => ?_
  exact iteInduction (motive := Script.Locks []) (fun _ _ => rfl) (fun _ _ => rfl)

end Movement

/-- **What a transfer locks**: its two accounts, in order, as far as it comes. -/
theorem Ledger.locked_transfer (movement : Movement) (ledger : Ledger) :
    lockedIn (ledger.transferExchanges movement) <+: movement.locks ∧
      ∀ settlement, (ledger.transfer movement).1 = .ok settlement →
        lockedIn (ledger.transferExchanges movement) = movement.locks := by
  unfold transferExchanges transfer
  by_cases nothing : movement.amount ≤ 0
  · rw [if_pos nothing, if_pos nothing]
    exact ⟨List.nil_prefix, fun _ succeeds => by cases succeeds⟩
  rw [if_neg nothing, if_neg nothing]
  rcases ledger.transact_cases movement.settle with
    ⟨error, after, transacted, _, heard, _⟩ | ⟨start, _, _, heard, transacted⟩
  · rw [heard, transacted]
    exact ⟨List.nil_prefix, fun _ succeeds => by cases succeeds⟩
  · rw [heard, transacted]
    obtain ⟨ordered, all⟩ := movement.locks_settle.notes start
    refine ⟨ordered, fun settlement succeeds => all ⟨settlement, ?_⟩⟩
    exact (Session.conclude_eq_ok.mp succeeds).1

/-! ### Transactions side by side -/

namespace Locking

/-- How far a transaction has come, by the number of locks that it took. -/
inductive Stage where
  /-- It asks for no lock. -/
  | working (taken : Nat)
  /-- It asks for its next lock. -/
  | asking (taken : Nat)
  /-- It has been committed or rolled back, and holds no lock any more. -/
  | ended
  deriving DecidableEq

namespace Stage

/-- The locks that a transaction holds, of those that its transfer takes. -/
def held (locks : List Int) : Stage → List Int
  | working taken | asking taken => locks.take taken
  | ended => []

/-- The lock that a transaction asks for. -/
def wanted? (locks : List Int) : Stage → Option Int
  | asking taken => locks[taken]?
  | working _ | ended => none

/-- A transaction takes no more locks than its transfer does. -/
def Within (locks : List Int) : Stage → Prop
  | working taken => taken ≤ locks.length
  | asking taken => taken < locks.length
  | ended => True

/-- How many steps a transaction has before it. -/
def left (locks : List Int) : Stage → Nat
  | working taken => 2 * (locks.length - taken) + 1
  | asking taken => 2 * (locks.length - taken)
  | ended => 0

/-- Where locks come in order, what is asked for does not come before what is held. -/
theorem le_wanted {locks : List Int} (ordered : locks.Pairwise (· ≤ ·)) {stage : Stage}
    {account later : Int} (holds : account ∈ stage.held locks)
    (wants : stage.wanted? locks = some later) : account ≤ later := by
  cases stage with
  | working taken | ended => cases wants
  | asking taken =>
    obtain ⟨inside, rfl⟩ := List.getElem?_eq_some_iff.mp wants
    rw [← List.take_append_drop taken locks, List.pairwise_append] at ordered
    refine ordered.2.2 account holds _ ?_
    rw [List.drop_eq_getElem_cons inside]
    exact List.mem_cons_self

end Stage

/-- The stages of several transactions. -/
abbrev State (n : Nat) := Fin n → Stage

section Waiting

variable {n : Nat} (family : Fin n → Movement) (state : State n)

/-- A transaction holds the lock of an account. -/
def Holds (i : Fin n) (account : Int) : Prop :=
  account ∈ (state i).held (family i).locks

/-- A transaction asks for the lock of an account. -/
def Wants (i : Fin n) (account : Int) : Prop :=
  (state i).wanted? (family i).locks = some account

/-- A transaction asks for a lock that another one holds. -/
def WaitsFor (i j : Fin n) : Prop :=
  i ≠ j ∧ ∃ account, Holds family state j account ∧ Wants family state i account

instance (i j : Fin n) : Decidable (WaitsFor family state i j) :=
  inferInstanceAs (Decidable (i ≠ j ∧ ∃ account ∈ (state j).held (family j).locks,
    (state i).wanted? (family i).locks = some account))

def Waits (i : Fin n) : Prop :=
  ∃ j, WaitsFor family state i j

instance (i : Fin n) : Decidable (Waits family state i) :=
  inferInstanceAs (Decidable (∃ j, WaitsFor family state i j))

/-- A step by which a transaction comes to hold all its locks, and then to end. -/
inductive Advance : State n → Prop
  | ask {i : Fin n} {taken : Nat} (stands : state i = .working taken)
    (more : taken < (family i).locks.length) :
    Advance (Function.update state i (.asking taken))
  | take {i : Fin n} {taken : Nat} (stands : state i = .asking taken)
    (free : ¬ Waits family state i) :
    Advance (Function.update state i (.working (taken + 1)))
  | commit {i : Fin n} (stands : state i = .working (family i).locks.length) :
    Advance (Function.update state i .ended)

/-- A step of one transaction, which may end at any time at which it does not wait. -/
inductive Step : State n → Prop
  | advance {next : State n} (advances : Advance family state next) : Step next
  | finish {i : Fin n} (free : ¬ Waits family state i) :
    Step (Function.update state i .ended)

/-- The states that any steps of the transactions lead to, in any order. -/
def Reachable : Prop :=
  Relation.ReflTransGen (Step family) (fun _ => .working 0) state

/-- No lock has two holders. -/
structure Exclusive : Prop where
  one : ∀ i j account, Holds family state i account → Holds family state j account → i = j
  within : ∀ i, (state i).Within (family i).locks

end Waiting

/-! ### No lock has two holders -/

variable {n : Nat} {family : Fin n → Movement} {state next : State n} {i j : Fin n}

namespace Exclusive

theorem start : Exclusive family fun _ => .working 0 where
  one _ _ _ holds := by cases holds
  within _ := Nat.zero_le _

/-- A transaction that comes to a stage in which it holds nothing of others leaves locks
exclusive. -/
theorem update (exclusive : Exclusive family state) {stage : Stage}
    (own : ∀ account ∈ stage.held (family i).locks, ∀ j, Holds family state j account → i = j)
    (within : stage.Within (family i).locks) :
    Exclusive family (Function.update state i stage) := by
  constructor
  · intro a b account first second
    unfold Holds at first second
    by_cases here : a = i
    · subst here
      by_cases there : b = a
      · exact there.symm
      · rw [Function.update_self] at first
        rw [Function.update_of_ne there] at second
        exact own account first b second
    · rw [Function.update_of_ne here] at first
      by_cases there : b = i
      · subst there
        rw [Function.update_self] at second
        exact (own account second a first).symm
      · rw [Function.update_of_ne there] at second
        exact exclusive.one a b account first second
  · intro a
    by_cases here : a = i
    · subst here
      rw [Function.update_self]
      exact within
    · rw [Function.update_of_ne here]
      exact exclusive.within a

/-- A transaction that does not wait may take the lock that it asks for. -/
theorem own_of_free (exclusive : Exclusive family state) {taken : Nat}
    (stands : state i = .asking taken) (free : ¬ Waits family state i) :
    ∀ account ∈ (Stage.working (taken + 1)).held (family i).locks,
      ∀ j, Holds family state j account → i = j := by
  have inside : taken < (family i).locks.length := by
    have within := exclusive.within i
    rw [stands] at within
    exact within
  intro account member j holds
  rw [Stage.held, List.take_add_one, List.getElem?_eq_getElem inside] at member
  rcases List.mem_append.mp member with before | last
  · refine exclusive.one i j account ?_ holds
    rw [Holds, stands]
    exact before
  · by_contra apart
    refine free ⟨j, apart, account, holds, ?_⟩
    rw [Wants, stands, Stage.wanted?, List.getElem?_eq_getElem inside]
    rw [List.mem_singleton.mp last]

theorem advance (exclusive : Exclusive family state) (advances : Advance family state next) :
    Exclusive family next := by
  cases advances with
  | @ask i taken stands more =>
    refine exclusive.update (fun account member j holds => ?_) more
    refine exclusive.one i j account ?_ holds
    rw [Holds, stands]
    exact member
  | @take i taken stands free =>
    have within := exclusive.within i
    rw [stands] at within
    exact exclusive.update (exclusive.own_of_free stands free) within
  | commit stands => exact exclusive.update (fun _ member => by cases member) trivial

/-- **A step leaves no lock with two holders.** -/
theorem step (exclusive : Exclusive family state) (steps : Step family state next) :
    Exclusive family next := by
  cases steps with
  | advance advances => exact exclusive.advance advances
  | finish free => exact exclusive.update (fun _ member => by cases member) trivial

theorem of_reachable (reachable : Reachable family state) : Exclusive family state := by
  induction reachable with
  | refl => exact start
  | tail _ steps ih => exact ih.step steps

end Exclusive

/-! ### Waiting rises -/

section Rising

variable (exclusive : Exclusive family state) {account later : Int}

include exclusive

/-- A transaction that another one waits for asks for an account with a greater number. -/
theorem rising (waits : WaitsFor family state i j) (wants : Wants family state i account)
    (blocked : Waits family state j) (wants_later : Wants family state j later) :
    account < later := by
  obtain ⟨_, asked, holds, asks⟩ := waits
  have same : asked = account := Option.some.inj (asks.symm.trans wants)
  subst same
  have least := Stage.le_wanted (family j).locks_ordered holds wants_later
  refine lt_of_le_of_ne least fun again => ?_
  -- the lock that `j` waits for is not one of its own
  obtain ⟨k, apart, other, others, asks_other⟩ := blocked
  have known : other = later := Option.some.inj (asks_other.symm.trans wants_later)
  rw [known, ← again] at others
  exact apart (exclusive.one j k asked holds others)

theorem rising_transGen (waits : Relation.TransGen (WaitsFor family state) i j)
    (wants : Wants family state i account) (blocked : Waits family state j)
    (wants_later : Wants family state j later) : account < later := by
  induction waits generalizing later with
  | single waits => exact rising exclusive waits wants blocked wants_later
  | @tail j k _ waits ih =>
    obtain ⟨_, between, _, asks⟩ := id waits
    exact lt_trans (ih ⟨k, waits⟩ asks) (rising exclusive waits asks blocked wants_later)

/-- **No transaction waits for itself**, over any number of others. -/
theorem no_cycle (i : Fin n) : ¬ Relation.TransGen (WaitsFor family state) i i := by
  intro cycle
  obtain ⟨j, waits, _⟩ := Relation.TransGen.head'_iff.mp cycle
  obtain ⟨_, account, _, wants⟩ := id waits
  exact lt_irrefl account (rising_transGen exclusive cycle wants ⟨j, waits⟩ wants)

/-- One of the transactions that have not ended does not wait. -/
theorem exists_free (some_left : ∃ i, state i ≠ .ended) :
    ∃ i, state i ≠ .ended ∧ ¬ Waits family state i := by
  let after := fun j i : Fin n => Relation.TransGen (WaitsFor family state) i j
  have : IsTrans (Fin n) after := ⟨fun _ _ _ first second => second.trans first⟩
  have : Std.Irrefl after := ⟨no_cycle exclusive⟩
  have founded : WellFounded after := Finite.wellFounded_of_trans_of_irrefl after
  obtain ⟨i, stands, last⟩ := founded.has_min {i | state i ≠ .ended} some_left
  refine ⟨i, stands, fun ⟨j, waits⟩ => last j (fun finished => ?_) (.single waits)⟩
  obtain ⟨_, account, holds, _⟩ := waits
  rw [Holds, finished] at holds
  cases holds

end Rising

/-! ### All can end -/

/-- How many steps all transactions have before them. -/
def left (family : Fin n → Movement) (state : State n) : Nat :=
  ∑ i, (state i).left (family i).locks

theorem left_update {stage : Stage}
    (less : stage.left (family i).locks < (state i).left (family i).locks) :
    left family (Function.update state i stage) < left family state := by
  refine Finset.sum_lt_sum (fun j _ => ?_) ⟨i, Finset.mem_univ i, ?_⟩
  · by_cases here : j = i
    · subst here
      rw [Function.update_self]
      exact Nat.le_of_lt less
    · rw [Function.update_of_ne here]
  · rw [Function.update_self]
    exact less

/-- Unless all have ended, one transaction can advance. -/
theorem exists_advance (exclusive : Exclusive family state) (some_left : ∃ i, state i ≠ .ended) :
    ∃ next, Advance family state next ∧ left family next < left family state := by
  obtain ⟨i, stands, free⟩ := exists_free exclusive some_left
  have within := exclusive.within i
  cases stage : state i with
  | ended => exact absurd stage stands
  | asking taken =>
    rw [stage] at within
    refine ⟨_, .take stage free, left_update ?_⟩
    simp only [stage, Stage.left, Stage.Within] at within ⊢
    omega
  | working taken =>
    rw [stage] at within
    by_cases more : taken < (family i).locks.length
    · refine ⟨_, .ask stage more, left_update ?_⟩
      simp only [stage, Stage.left]
      omega
    · have all : taken = (family i).locks.length := Nat.le_antisymm within (Nat.le_of_not_lt more)
      refine ⟨_, .commit (all ▸ stage), left_update ?_⟩
      simp only [stage, Stage.left]
      omega

/-- **All transactions can end**, each with all its locks, and none is rolled back for another. -/
theorem exists_end (exclusive : Exclusive family state) :
    Relation.ReflTransGen (Advance family) state fun _ => .ended := by
  generalize steps : left family state = measure
  induction measure using Nat.strong_induction_on generalizing state with
  | _ measure ih =>
    by_cases some_left : ∃ i, state i ≠ .ended
    · obtain ⟨next, advances, less⟩ := exists_advance exclusive some_left
      exact .head advances (ih _ (steps ▸ less) (exclusive.advance advances) rfl)
    · have all : state = fun _ => .ended := by
        funext i
        by_contra stands
        exact some_left ⟨i, stands⟩
      rw [all]

end Locking

open Locking (Stage WaitsFor Waits Advance)

/-- **No deadlock.** Transfers that run side by side, each locking the accounts of its changes in
their order, never wait for each other in a circle: whatever order their steps come in, one of those
that have not ended does not wait, and all of them can go on to hold their locks and to end. The
locks are those that the statements of the transfers take in any ledger. -/
theorem no_deadlock {n : Nat} {family : Fin n → Movement} {state : Locking.State n}
    (reachable : Locking.Reachable family state) :
    (∀ i, ¬ Relation.TransGen (WaitsFor family state) i i) ∧
    ((∃ i, state i ≠ .ended) → ∃ i, state i ≠ .ended ∧ ¬ Waits family state i) ∧
    Relation.ReflTransGen (Advance family) state (fun _ => .ended) ∧
    ∀ i (ledger : Ledger), lockedIn (ledger.transferExchanges (family i)) <+: (family i).locks ∧
      ∀ settlement, (ledger.transfer (family i)).1 = .ok settlement →
        lockedIn (ledger.transferExchanges (family i)) = (family i).locks := by
  have exclusive := Locking.Exclusive.of_reachable reachable
  exact ⟨Locking.no_cycle exclusive, Locking.exists_free exclusive, Locking.exists_end exclusive,
    fun i ledger => Ledger.locked_transfer (family i) ledger⟩

/-- Three transfers around a ring of accounts. -/
def ring : Fin 3 → Movement :=
  ![⟨1, 2, 5⟩, ⟨2, 3, 5⟩, ⟨3, 1, 5⟩]

/-- The first two transfers take a lock each, and then the third and the first ask for one. -/
def crowded : Locking.State 3 :=
  [(0, .asking 0), (0, .working 1), (1, .asking 0), (1, .working 1), (2, .asking 0),
    (0, .asking 1)].foldl (fun state (i, stage) => Function.update state i stage)
    fun _ => .working 0

/-- The third transfer waits for the first, and the first for the second, which does not wait. -/
theorem no_deadlock_crowded : WaitsFor ring crowded 2 0 ∧ WaitsFor ring crowded 0 1 ∧
    ¬ Relation.TransGen (WaitsFor ring crowded) 2 2 ∧
    Relation.ReflTransGen (Advance ring) crowded (fun _ => .ended) := by
  have begun : Locking.Reachable ring fun _ => .working 0 := .refl
  have first := (begun.tail (.advance (.ask (i := 0) rfl (by decide)))).tail
    (.advance (.take (i := 0) rfl (by decide)))
  have second := (first.tail (.advance (.ask (i := 1) rfl (by decide)))).tail
    (.advance (.take (i := 1) rfl (by decide)))
  have reachable : Locking.Reachable ring crowded :=
    (second.tail (.advance (.ask (i := 2) rfl (by decide)))).tail
      (.advance (.ask (i := 0) rfl (by decide)))
  obtain ⟨circles, _, ends, _⟩ := no_deadlock reachable
  exact ⟨by decide, by decide, circles 2, ends⟩

end Passbook
