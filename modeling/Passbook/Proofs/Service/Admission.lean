/-
**Which transfer orders are carried out.**

An order meets seven checks: its amount, its currency, its two ends as a pair, and then of each end
whether the account is there and in which currency it is held. The first that fails decides what is
reported; when all pass, the transfer decides.

* `Check.Passes` — what each check asks; `Check.Tells` — the error for a check that fails.
* `TransferOrder.Rejected` — an order fails a check and passes all before it; what is told of it is
  determined (`Rejected.unique`).
* `validate_cases` — the first three checks need no lookup; `serve_accountIn_cases` — each lookup
  makes the two checks of its end.
* `TransferOrder.Unseen` — a lookup fails.
* **`pay_admission`** — the outcome of a payment, for every order, policy and state.
-/

import Passbook.Proofs.Money.Outcome
import Passbook.Proofs.Service.Payment
import Passbook.Proofs.Store.Alike

namespace Passbook

open Ledger (Query Tables AccountRow Around Exchange)
open Service (accountIn payFrom payTo vet)

/-! ### The checks -/

inductive Side where
  | source
  | target
  deriving DecidableEq, Repr

/-- The account on one side of an order. -/
def TransferOrder.account (order : TransferOrder) : Side → Int
  | .source => order.source
  | .target => order.target

inductive Check where
  | amount
  | currency
  /-- The two accounts may be one. -/
  | pair
  /-- The account is there. -/
  | account (side : Side)
  /-- The account is held in the currency of the order. -/
  | holding (side : Side)
  deriving DecidableEq, Repr

namespace Check

/-- How many checks are made before. -/
def rank : Check → Nat
  | amount => 0
  | currency => 1
  | pair => 2
  | account .source => 3
  | holding .source => 4
  | account .target => 5
  | holding .target => 6

theorem rank_lt (check : Check) : check.rank < 7 := by
  rcases check with _ | _ | _ | (_ | _) | (_ | _) <;> decide

theorem rank_injective {first second : Check} (same : first.rank = second.rank) :
    first = second := by
  rcases first with _ | _ | _ | (_ | _) | (_ | _) <;>
    rcases second with _ | _ | _ | (_ | _) | (_ | _) <;> first | rfl | cases same

section Meaning

variable (policy : SelfTransferPolicy) (rows : Tables) (order : TransferOrder)

/-- What each check asks. -/
def Passes : Check → Prop
  | amount => 1 ≤ order.amount ∧ order.amount ≤ 1000000000000000
  | currency => order.currency ∈ ["USD", "CAD", "EUR", "MXN", "GBP"]
  | pair => order.source ≠ order.target ∨ policy = .allow
  | account side => rows.HasAccount (order.account side)
  | holding side => rows.Holds (order.account side) order.currency

instance (check : Check) : Decidable (check.Passes policy rows order) :=
  match check with
  | amount => inferInstanceAs (Decidable (_ ∧ _))
  | currency => inferInstanceAs (Decidable (_ ∈ _))
  | pair => inferInstanceAs (Decidable (_ ∨ _))
  | account side => inferInstanceAs (Decidable (∃ row ∈ rows.accounts, row.id = order.account side))
  | holding side => inferInstanceAs (Decidable (∃ row ∈ rows.accounts,
      row.id = order.account side ∧ row.currency = order.currency))

/-- What is told of an order that fails the check. -/
inductive Tells : Check → ServiceError → Prop
  | notPositive (low : order.amount < 1) :
    Tells amount (.rule (.invalidAmount (.notPositive order.amount)))
  | tooLarge (high : 1000000000000000 < order.amount) :
    Tells amount (.rule (.invalidAmount .tooLarge))
  | unsupported : Tells currency (.rule (.unsupportedCurrency ⟨order.currency⟩))
  | sameAccount : Tells pair (.rule .sameAccount)
  | missing (side : Side) : Tells (account side) (.accountNotFound (order.account side))
  | mismatch (side : Side) {asked held : Currency} (row : AccountRow)
    (named : asked.code = order.currency) (stored : row ∈ rows.accounts)
    (its : row.id = order.account side) (code : held.code = row.currency) :
    Tells (holding side) (.rule (.currencyMismatch (order.account side) asked held))

/-- The checks of lower rank are passed. -/
def PassedTo (rank : Nat) : Prop :=
  ∀ check : Check, check.rank < rank → check.Passes policy rows order

end Meaning

variable {policy : SelfTransferPolicy} {rows : Tables} {order : TransferOrder}

/-- One more check is passed. -/
theorem PassedTo.next (check : Check) (before : PassedTo policy rows order check.rank)
    (passes : check.Passes policy rows order) : PassedTo policy rows order (check.rank + 1) := by
  intro earlier lower
  rcases Nat.lt_succ_iff_lt_or_eq.mp lower with less | same
  · exact before earlier less
  · rw [rank_injective same]
    exact passes

theorem passedTo_all :
    PassedTo policy rows order 7 ↔ ∀ check : Check, check.Passes policy rows order :=
  ⟨fun passed check => passed check check.rank_lt, fun passes check _ => passes check⟩

/-- What is told of a check is determined, where no two accounts share a number. -/
theorem Tells.unique (numbers : (rows.accounts.map (·.id)).Nodup) {check : Check}
    {first second : ServiceError} (one : check.Tells rows order first)
    (other : check.Tells rows order second) : first = second := by
  cases one with
  | notPositive low =>
    cases other with
    | notPositive _ => rfl
    | tooLarge high => omega
  | tooLarge high =>
    cases other with
    | notPositive low => omega
    | tooLarge _ => rfl
  | unsupported | sameAccount | missing side =>
    cases other
    rfl
  | mismatch side row named stored its code =>
    cases other with
    | mismatch _ row' named' stored' its' code' =>
      have one := Ledger.eq_of_nodup_map numbers stored stored' (its.trans its'.symm)
      rw [Currency.code_injective (named.trans named'.symm),
        Currency.code_injective (code.trans ((congrArg _ one).trans code'.symm))]

end Check

namespace TransferOrder

/-- The order fails a check, having passed those before it, and this is what is told of it. -/
def Rejected (policy : SelfTransferPolicy) (rows : Tables) (order : TransferOrder)
    (error : ServiceError) : Prop :=
  ∃ check : Check, Check.PassedTo policy rows order check.rank ∧
    ¬ check.Passes policy rows order ∧ check.Tells rows order error

variable {policy : SelfTransferPolicy} {rows : Tables} {order : TransferOrder}

theorem Rejected.not_passes {error : ServiceError} (rejected : Rejected policy rows order error) :
    ¬ ∀ check : Check, check.Passes policy rows order := by
  obtain ⟨check, _, fails, _⟩ := rejected
  exact fun passes => fails (passes check)

/-- **The first check that fails decides** what is told. -/
theorem Rejected.unique (numbers : (rows.accounts.map (·.id)).Nodup) {first second : ServiceError}
    (one : Rejected policy rows order first) (other : Rejected policy rows order second) :
    first = second := by
  obtain ⟨check, before, fails, tells⟩ := one
  obtain ⟨check', before', fails', tells'⟩ := other
  have same : check = check' := by
    refine Check.rank_injective (Nat.le_antisymm (Nat.le_of_not_lt fun lower => ?_)
      (Nat.le_of_not_lt fun lower => ?_))
    · exact fails' (before check' lower)
    · exact fails (before' check lower)
  subst same
  exact tells.unique numbers tells'

/-! ### Checks without a lookup -/

/-- **The first three checks** are made without a lookup. -/
theorem validate_cases (policy : SelfTransferPolicy) (rows : Tables) (order : TransferOrder) :
    (∃ problem, order.validate policy = .error problem ∧
      Rejected policy rows order (.rule problem)) ∨
    ∃ amount currency, order.validate policy = .ok (amount, currency) ∧
      Check.PassedTo policy rows order 3 := by
  have start : Check.PassedTo policy rows order Check.amount.rank := fun _ lower => by cases lower
  unfold validate
  cases sum : Amount.ofInt order.amount with
  | error problem =>
    refine .inl ⟨_, rfl, .amount, start, ?_, ?_⟩
    · rintro ⟨least, greatest⟩
      rcases Amount.ofInt_eq_error.mp sum with ⟨low, _⟩ | ⟨high, _⟩
      · omega
      · exact absurd high (Int.not_lt.mpr greatest)
    · rcases Amount.ofInt_eq_error.mp sum with ⟨low, rfl⟩ | ⟨high, rfl⟩
      · exact .notPositive low
      · exact .tooLarge high
  | ok amount =>
  have value := Amount.value_of_ofInt sum
  have one : Check.PassedTo policy rows order Check.currency.rank :=
    start.next .amount ⟨value ▸ amount.positive, value ▸ amount.le_greatest⟩
  cases known : Currency.ofCode order.currency with
  | error problem =>
    obtain ⟨unknown, rfl⟩ := Currency.ofCode_eq_error.mp known
    exact .inl ⟨_, rfl, .currency, one, unknown, .unsupported⟩
  | ok currency =>
  have code : order.currency ∈ Currency.all.map Currency.code :=
    List.mem_map.mpr ⟨currency, currency.mem_all, Currency.code_of_ofCode known⟩
  have two : Check.PassedTo policy rows order Check.pair.rank := one.next .currency code
  by_cases permitted : policy.permits order.source order.target = true
  · refine .inr ⟨amount, currency, if_pos permitted, two.next .pair ?_⟩
    show order.source ≠ order.target ∨ policy = .allow
    simpa [SelfTransferPolicy.permits] using permitted
  · refine .inl ⟨_, if_neg permitted, .pair, two, fun passes => permitted ?_, .sameAccount⟩
    rcases passes with apart | allows
    · simp [SelfTransferPolicy.permits, apart]
    · simp [SelfTransferPolicy.permits, allows]

/-! ### Checks of an end -/

/-- **A lookup makes the checks of its end**: it fails, or the account is not there, or it is held
in another currency, or the payment goes on. -/
theorem serve_accountIn_cases {ledger : Ledger} {currency : Currency}
    (numbers : (rows.accounts.map (·.id)).Nodup) (readable : ∀ row ∈ rows.accounts, row.Readable)
    (same : ledger.rows = rows) (named : currency.code = order.currency) (side : Side)
    (before : Check.PassedTo policy rows order (Check.account side).rank)
    (rest : Dialogue Settlement) :
    (∃ error, (ledger.query (.findAccount (order.account side))).1 = .error error ∧
      (ledger.serve (accountIn currency (order.account side) >>= fun _ => rest)).1 =
        .error (.store (.database error))) ∨
    (∃ error, Rejected policy rows order error ∧
      (ledger.serve (accountIn currency (order.account side) >>= fun _ => rest)).1 =
        .error error) ∨
    ∃ found, (ledger.query (.findAccount (order.account side))).1 = .ok found ∧
      ledger.serve (accountIn currency (order.account side) >>= fun _ => rest) =
        (ledger.query (.findAccount (order.account side))).2.serve rest ∧
      Check.PassedTo policy rows order ((Check.holding side).rank + 1) := by
  subst same
  have follows : (Check.holding side).rank = (Check.account side).rank + 1 := by
    cases side <;> rfl
  rw [Service.serve_accountIn_bind]
  cases replied : (ledger.query (.findAccount (order.account side))).1 with
  | error error => exact .inl ⟨error, rfl, rfl⟩
  | ok found =>
  right
  obtain rfl := Service.found_of_lookup replied
  cases stands : ledger.rows.account? (order.account side) with
  | none =>
    refine .inl ⟨_, ⟨.account side, before, fun there => ?_, .missing side⟩, rfl⟩
    exact Tables.account?_isNone.mpr there (by rw [stands]; rfl)
  | some row =>
    obtain ⟨stored, its⟩ := Tables.account?_eq_some stands
    have there := before.next (.account side) ⟨row, stored, its⟩
    rw [← follows] at there
    obtain ⟨account, loads⟩ := (readable row stored).load
    have held : account.currency.code = row.currency :=
      congrArg AccountRow.currency (AccountRow.load_eq_ok.mp loads)
    simp only [vet, loads]
    by_cases same : account.currency = currency
    · rw [if_pos same]
      refine .inr ⟨_, rfl, rfl, there.next (.holding side) ⟨row, stored, its, ?_⟩⟩
      rw [← held, same, named]
    · rw [if_neg same]
      refine .inl ⟨_, ⟨.holding side, there, ?_, .mismatch side row named stored its held⟩, rfl⟩
      rintro ⟨other, inside, number, code⟩
      have one := Ledger.eq_of_nodup_map numbers stored inside (its.trans number.symm)
      refine same (Currency.code_injective ?_)
      rw [held, one, code, named]

/-! ### Lookups that fail -/

/-- A lookup of a payment fails: that of the source, or that of the target after it. -/
inductive Unseen (order : TransferOrder) (ledger : Ledger) : DatabaseError → Prop
  | source {error : DatabaseError}
    (fails : (ledger.query (.findAccount order.source)).1 = .error error) :
    Unseen order ledger error
  | target {error : DatabaseError} {found : Option AccountRow}
    (finds : (ledger.query (.findAccount order.source)).1 = .ok found)
    (fails : ((ledger.query (.findAccount order.source)).2.query
      (.findAccount order.target)).1 = .error error) : Unseen order ledger error

/-- No lookup fails but in trouble, or where no tables are laid out. -/
theorem Unseen.reason {ledger : Ledger} {error : DatabaseError}
    (unseen : order.Unseen ledger error) : ledger.Trouble error ∨ ledger.tables = none := by
  have hindered : ∀ {ledger : Ledger} {id : Int},
      (ledger.query (.findAccount id)).1 = .error error →
        ledger.Trouble error ∨ ledger.tables = none := fun {ledger id} fails => by
    rcases Ledger.hindered_or_refused fails with hindrance | ⟨refusal, _, refuses⟩
    · exact hindrance.reason rfl
    · cases refuses
  cases unseen with
  | source fails => exact hindered fails
  | target finds fails =>
    have answering := Ledger.answering_of_query finds
    rcases hindered fails with trouble | absent
    · exact .inl (trouble.earlier answering.around)
    · have laid := answering.laid
      rw [absent] at laid
      cases laid

end TransferOrder

/-! ### Payments -/

variable {ledger : Ledger} {past : List Exchange}

/-- An order that fails one of the first three checks calls nothing. -/
theorem Service.pay_of_early {policy : SelfTransferPolicy} {order : TransferOrder} {check : Check}
    (early : check.rank < 3) (fails : ¬ check.Passes policy ledger.rows order) :
    ∃ error, TransferOrder.Rejected policy ledger.rows order error ∧
      (Service.pay policy order).run = .done (.error error) := by
  rcases TransferOrder.validate_cases policy ledger.rows order with
    ⟨problem, invalid, rejected⟩ | ⟨_, _, _, passed⟩
  · rcases Service.pay_run policy order with ⟨told, tells, ends⟩ | ⟨_, _, valid, _⟩
    · rw [invalid] at tells
      cases tells
      exact ⟨_, rejected, ends⟩
    · rw [invalid] at valid
      cases valid
  · exact absurd (passed check early) fails

/-- A payment fails to look up an account, or fails a check, or comes to what its transfer comes
to. -/
theorem Service.pay_cases (numbers : (ledger.rows.accounts.map (·.id)).Nodup)
    (readable : ∀ row ∈ ledger.rows.accounts, row.Readable) (policy : SelfTransferPolicy)
    (order : TransferOrder) :
    (∃ error, order.Unseen ledger error ∧
      (ledger.serve (Service.pay policy order)).1 = .error (.store (.database error))) ∨
    (∃ error, TransferOrder.Rejected policy ledger.rows order error ∧
      (ledger.serve (Service.pay policy order)).1 = .error error) ∨
    (∀ check : Check, check.Passes policy ledger.rows order) ∧
      (ledger.serve (Service.pay policy order)).1 =
        (ledger.transfer order.movement).1.mapError .store := by
  rcases Service.pay_run policy order with
    ⟨problem, invalid, ends⟩ | ⟨amount, currency, valid, goes⟩
  · rcases TransferOrder.validate_cases policy ledger.rows order with
      ⟨told, tells, rejected⟩ | ⟨_, _, valid, _⟩
    · rw [invalid] at tells
      cases tells
      exact .inr (.inl ⟨_, rejected, by rw [Ledger.serve, ends]; rfl⟩)
    · rw [invalid] at valid
      cases valid
  obtain ⟨value, named, _⟩ := TransferOrder.of_validate valid
  have passed : Check.PassedTo policy ledger.rows order 3 := by
    rcases TransferOrder.validate_cases policy ledger.rows order with
      ⟨_, invalid, _⟩ | ⟨_, _, _, passed⟩
    · rw [valid] at invalid
      cases invalid
    · exact passed
  rw [value] at goes
  have served : ledger.serve (Service.pay policy order) =
      ledger.serve (payFrom currency order.movement) := by
    rw [Ledger.serve, goes]
    rfl
  rcases TransferOrder.serve_accountIn_cases numbers readable rfl named .source passed
      (payTo currency order.movement) with
    ⟨error, fails, gives⟩ | ⟨error, rejected, gives⟩ | ⟨found, finds, goes, passed⟩
  · exact .inl ⟨error, .source fails, (congrArg Prod.fst served).trans gives⟩
  · exact .inr (.inl ⟨error, rejected, (congrArg Prod.fst served).trans gives⟩)
  have once := Ledger.alike_of_query (.findAccount order.source) rfl ledger
  have rows : (ledger.query (.findAccount order.source)).2.rows = ledger.rows := by
    rw [Ledger.rows, Ledger.rows, once.tables]
  have halfway := served.trans goes
  rcases TransferOrder.serve_accountIn_cases numbers readable rows named .target passed
      (Dialogue.transfer order.movement) with
    ⟨error, fails, gives⟩ | ⟨error, rejected, gives⟩ | ⟨_, _, goes, passed⟩
  · exact .inl ⟨error, .target finds fails, (congrArg Prod.fst halfway).trans gives⟩
  · exact .inr (.inl ⟨error, rejected, (congrArg Prod.fst halfway).trans gives⟩)
  -- the transfer meets a ledger that is like the one before the lookups
  have twice := once.trans (Ledger.alike_of_query (.findAccount order.target) rfl _)
  obtain ⟨outcome, before, after, met, met', _⟩ := twice.transfer order.movement
  refine .inr (.inr ⟨Check.passedTo_all.mp passed, ?_⟩)
  rw [met]
  refine (congrArg Prod.fst (halfway.trans goes)).trans ?_
  exact congrArg (fun ended => (ended.1 : Except StoreError Settlement).mapError _) met'

/-- **Which orders are carried out.** In every state that a run leads to, a payment succeeds just
when its order passes all checks and its transfer, made there, succeeds. Otherwise it tells of the
first check that fails, or else of the failure of the transfer. Only a lookup that fails comes
between, in trouble or where no tables are laid out. An order that fails one of the first three
checks calls nothing. -/
theorem pay_admission (reachable : Reachable Call.Typed past ledger) (policy : SelfTransferPolicy)
    (order : TransferOrder) :
    ((∃ error, order.Unseen ledger error ∧ (ledger.Trouble error ∨ ledger.tables = none) ∧
        (ledger.serve (Service.pay policy order)).1 = .error (.store (.database error))) ∨
      (∀ settlement, (ledger.serve (Service.pay policy order)).1 = .ok settlement ↔
          (∀ check : Check, check.Passes policy ledger.rows order) ∧
            (ledger.transfer order.movement).1 = .ok settlement) ∧
        ∀ error, (ledger.serve (Service.pay policy order)).1 = .error error ↔
          TransferOrder.Rejected policy ledger.rows order error ∨
            (∀ check : Check, check.Passes policy ledger.rows order) ∧
              ∃ cause, (ledger.transfer order.movement).1 = .error cause ∧ error = .store cause) ∧
    ∀ check : Check, check.rank < 3 → ¬ check.Passes policy ledger.rows order →
      ∃ error, TransferOrder.Rejected policy ledger.rows order error ∧
        (Service.pay policy order).run = .done (.error error) ∧
        ledger.serve (Service.pay policy order) = (.error error, ledger) := by
  have kept := Tables.loadable.of_reachable reachable
  have numbers := kept.sound.accounts.nodup
  constructor
  · rcases Service.pay_cases numbers (fun row stored => (kept.holds row stored).2) policy order with
      ⟨error, unseen, gives⟩ | ⟨told, rejected, gives⟩ | ⟨passes, gives⟩
    · exact .inl ⟨error, unseen, unseen.reason, gives⟩
    · refine .inr ⟨fun settlement => ?_, fun error => ?_⟩
      · rw [gives]
        exact ⟨fun succeeds => (by cases succeeds),
          fun succeeds => absurd succeeds.1 rejected.not_passes⟩
      · rw [gives, Except.error.injEq]
        constructor
        · rintro rfl
          exact .inl rejected
        · rintro (other | ⟨passes, _⟩)
          · exact rejected.unique numbers other
          · exact absurd passes rejected.not_passes
    · refine .inr ⟨fun settlement => ?_, fun error => ?_⟩
      · rw [gives, mapError_eq_ok]
        exact (and_iff_right passes).symm
      · rw [gives]
        constructor
        · intro fails
          refine .inr ⟨passes, ?_⟩
          cases outcome : (ledger.transfer order.movement).1 with
          | ok settlement =>
            rw [outcome] at fails
            cases fails
          | error cause =>
            rw [outcome] at fails
            cases fails
            exact ⟨cause, rfl, rfl⟩
        · rintro (rejected | ⟨_, cause, fails, rfl⟩)
          · exact absurd passes rejected.not_passes
          · rw [fails]
            rfl
  · intro check early fails
    obtain ⟨error, rejected, ends⟩ := Service.pay_of_early early fails
    exact ⟨error, rejected, ends, by rw [Ledger.serve, ends]; rfl⟩

/-- Of the demonstration accounts, the first and the fourth can pay each other, and the fifth is
held in another currency. An order that breaks most rules at once is told of its amount. -/
theorem pay_admission_demonstration :
    (∃ settlement,
      (demonstration.serve (Service.pay .reject ⟨1, 4, 30, "USD"⟩)).1 = .ok settlement) ∧
    (demonstration.serve (Service.pay .reject ⟨1, 5, 30, "USD"⟩)).1 =
      .error (.rule (.currencyMismatch 5 .usd .eur)) ∧
    demonstration.serve (Service.pay .reject ⟨9, 9, 0, "XYZ"⟩) =
      (.error (.rule (.invalidAmount (.notPositive 0))), demonstration) := by
  have reachable : Reachable Call.Typed _ demonstration := .step .seed .fresh trivial
  have numbers := reachable.sound.accounts.nodup
  have calm : demonstration.Calm := ⟨by decide, by decide, by decide⟩
  have seen : ∀ {order error}, ¬ (TransferOrder.Unseen order demonstration error ∧
      (demonstration.Trouble error ∨ demonstration.tables = none) ∧
      (demonstration.serve (Service.pay .reject order)).1 =
        .error (.store (.database error))) := by
    rintro order error ⟨_, trouble | absent, _⟩
    · exact calm.not_trouble trouble
    · exact absurd absent (by decide)
  refine ⟨?_, ?_, ?_⟩
  · obtain ⟨⟨_, unseen⟩ | ⟨succeeds, _⟩, _⟩ := pay_admission reachable .reject ⟨1, 4, 30, "USD"⟩
    · exact absurd unseen seen
    · have settled : ((demonstration.transfer ⟨1, 4, 30⟩).1.toOption).isSome = true := by
        decide +kernel
      obtain ⟨settlement, settles⟩ := Option.isSome_iff_exists.mp settled
      refine ⟨settlement, (succeeds settlement).mpr ⟨fun check => ?_, eq_ok_of_toOption settles⟩⟩
      rcases check with _ | _ | _ | (_ | _) | (_ | _) <;> decide
  · obtain ⟨⟨_, unseen⟩ | ⟨_, fails⟩, _⟩ := pay_admission reachable .reject ⟨1, 5, 30, "USD"⟩
    · exact absurd unseen seen
    · refine (fails _).mpr (.inl ⟨.holding .target, fun check lower => ?_, by decide, ?_⟩)
      · rcases check with _ | _ | _ | (_ | _) | (_ | _) <;>
          first | decide | exact absurd lower (by decide)
      · exact .mismatch .target ⟨5, "gondola", 100, "EUR", .newYear2024⟩ rfl (by decide) rfl rfl
  · obtain ⟨_, early⟩ := pay_admission reachable .reject ⟨9, 9, 0, "XYZ"⟩
    obtain ⟨error, rejected, _, serves⟩ := early .amount (by decide) (by decide)
    have told : TransferOrder.Rejected .reject demonstration.rows ⟨9, 9, 0, "XYZ"⟩ _ :=
      ⟨.amount, fun _ lower => (by cases lower), by decide, .notPositive (by decide)⟩
    rw [serves, rejected.unique numbers told]

end Passbook
