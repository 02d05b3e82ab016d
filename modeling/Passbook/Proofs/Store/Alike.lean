/-
**What a lookup leaves behind.**

A lookup changes no row. It stands in the journal, and a fault that waits for lookups may take note
of it. A work that only writes asks neither, so it ends as if nothing had been looked up.

* `Fault.lasting` — a fault that waits for no lookup; `meet_lasting`, `meet_of_select` — the faults
  of the two kinds do not get in each other's way.
* `Ledger.Alike` — two ledgers differ at most in the journal and in faults that wait for lookups;
  `alike_of_query` — a lookup leaves such a ledger.
* **`Alike.transact`**, **`Alike.transfer`** — works that only write, transfers among them, come to
  the same end in ledgers that are alike.
-/

import Passbook.Proofs.Ledger.Transaction
import Passbook.Proofs.Store.Settlement

namespace Passbook

open Ledger (Query Books Tables Session Event Failure Fault Verb)
open Script (Abreast)

variable {α : Type}

namespace Ledger

/-! ### Faults -/

/-- The fault waits for no lookup. -/
def Fault.lasting (fault : Fault) : Bool :=
  fault.verb != .select

theorem Fault.verb_of_concerns {fault : Fault} {event : Event}
    (concerned : fault.concerns event = true) : fault.verb = event.verb :=
  eq_of_beq (Bool.and_eq_true_iff.mp concerned).1

/-- What is no lookup meets the faults that wait for none, in their order. -/
theorem meet_lasting {event : Event} (writes : event.verb ≠ .select) (faults : List Fault) :
    Fault.meet event (faults.filter Fault.lasting) =
      ((Fault.meet event faults).1, (Fault.meet event faults).2.filter Fault.lasting) := by
  induction faults with
  | nil => rfl
  | cons head rest ih =>
    by_cases concerned : head.concerns event = true
    · have lasting : head.lasting = true := by
        rw [Fault.lasting, Fault.verb_of_concerns concerned]
        exact bne_iff_ne.mpr writes
      rw [List.filter_cons_of_pos lasting, Fault.meet, Fault.meet, if_pos concerned,
        if_pos concerned]
      by_cases strikes : head.skip = 0
      · rw [if_pos strikes, if_pos strikes]
      · have still : Fault.lasting { head with skip := head.skip - 1 } = true := lasting
        rw [if_neg strikes, if_neg strikes, List.filter_cons_of_pos still]
    · by_cases lasting : head.lasting = true
      · rw [List.filter_cons_of_pos lasting, Fault.meet, Fault.meet, if_neg concerned,
          if_neg concerned, ih]
        exact congrArg (Prod.mk _) (List.filter_cons_of_pos lasting).symm
      · rw [List.filter_cons_of_neg lasting, Fault.meet, if_neg concerned, ih]
        exact congrArg (Prod.mk _) (List.filter_cons_of_neg lasting).symm

/-- A lookup uses up no fault but those that wait for lookups. -/
theorem meet_of_select (event : Event) (reads : event.verb = .select) (faults : List Fault) :
    (Fault.meet event faults).2.filter Fault.lasting = faults.filter Fault.lasting := by
  induction faults with
  | nil => rfl
  | cons head rest ih =>
    unfold Fault.meet
    by_cases concerned : head.concerns event = true
    · have passing : ¬ head.lasting = true := by
        rw [Fault.lasting, Fault.verb_of_concerns concerned, reads]
        decide
      rw [if_pos concerned, List.filter_cons_of_neg passing]
      by_cases strikes : head.skip = 0
      · rw [if_pos strikes]
      · rw [if_neg strikes]
        exact List.filter_cons_of_neg passing
    · rw [if_neg concerned]
      show List.filter Fault.lasting (head :: (Fault.meet event rest).2) = _
      by_cases lasting : head.lasting = true
      · rw [List.filter_cons_of_pos lasting, List.filter_cons_of_pos lasting, ih]
      · rw [List.filter_cons_of_neg lasting, List.filter_cons_of_neg lasting, ih]

/-! ### Ledgers that are alike -/

/-- The ledgers differ at most in the journal and in faults that wait for lookups. -/
inductive Alike (ledger : Ledger) : Ledger → Prop
  | intro (faults : List Fault) (journal : List Event)
    (same : faults.filter Fault.lasting = ledger.faults.filter Fault.lasting) :
    Alike ledger { ledger with faults, journal }

namespace Alike

variable {first second third : Ledger}

theorem refl (ledger : Ledger) : ledger.Alike ledger :=
  .intro ledger.faults ledger.journal rfl

theorem trans (before : first.Alike second) (after : second.Alike third) : first.Alike third := by
  cases before with
  | intro faults journal same =>
  cases after with
  | intro faults' journal' same' => exact .intro faults' journal' (same'.trans same)

theorem tables (alike : first.Alike second) : second.tables = first.tables := by
  cases alike
  rfl

theorem restore (alike : first.Alike second) (tables : Option Tables) :
    Alike { first with tables } { second with tables } := by
  cases alike with
  | intro faults journal same => exact .intro faults journal same

/-- What is no lookup meets the same failure in ledgers that are alike. -/
theorem note (alike : first.Alike second) (event : Event) (writes : event.verb ≠ .select) :
    Abreast Alike (first.note event) (second.note event) := by
  cases alike with
  | intro faults journal same =>
    have met := (meet_lasting writes faults).symm.trans
      ((congrArg (Fault.meet event) same).trans (meet_lasting writes first.faults))
    rw [Prod.mk.injEq] at met
    refine ⟨(Fault.meet event first.faults).1, (first.note event).2,
      { first with faults := (Fault.meet event faults).2, journal := event :: journal }, rfl, ?_,
      .intro _ _ met.2⟩
    exact congrArg (Prod.mk · _) met.1

theorem carryOut (alike : first.Alike second) (query : Query) (tables : Tables) :
    Abreast Alike (first.carryOut query tables) (second.carryOut query tables) := by
  cases alike with
  | intro faults journal same =>
    unfold Ledger.carryOut
    dsimp only
    cases tables.apply (first.serials.take query).1 first.clock query with
    | error refusal => exact ⟨_, _, _, rfl, rfl, .intro faults journal same⟩
    | ok outcome => exact ⟨_, _, _, rfl, rfl, .intro faults journal same⟩

/-- A statement that writes comes to the same in ledgers that are alike. -/
theorem attempt (alike : first.Alike second) {query : Query} (writes : query.isRead = false) :
    Abreast Alike (first.attempt query) (second.attempt query) := by
  have verb : (Event.query query).verb ≠ .select := fun reads => by
    rw [Query.isRead, show query.verb = .select from reads] at writes
    cases writes
  unfold Ledger.attempt
  by_cases nul : query.hasNul = true
  · rw [if_pos nul, if_pos nul]
    exact ⟨_, first, second, rfl, rfl, alike⟩
  rw [if_neg nul, if_neg nul, alike.tables]
  cases first.tables with
  | none => exact ⟨_, first, second, rfl, rfl, alike⟩
  | some tables =>
    obtain ⟨met, before, after, noted, noted', later⟩ := alike.note (.query query) verb
    simp only [noted, noted']
    cases met with
    | some failure => exact ⟨_, before, after, rfl, rfl, later⟩
    | none => exact later.carryOut query tables

end Alike

/-- **A lookup leaves a ledger that is alike.** -/
theorem alike_of_query (query : Query) (reads : query.isRead = true) (ledger : Ledger) :
    ledger.Alike (ledger.query query).2 := by
  unfold Ledger.query
  cases ledger.access.check with
  | error error => exact .refl ledger
  | ok _ =>
    show ledger.Alike (ledger.attempt query).2
    unfold Ledger.attempt
    by_cases nul : query.hasNul = true
    · rw [if_pos nul]
      exact .refl ledger
    rw [if_neg nul]
    cases laid : ledger.tables with
    | none => exact .refl ledger
    | some tables =>
      have faults := meet_of_select (.query query) (eq_of_beq reads) ledger.faults
      have noted : ledger.Alike (ledger.note (.query query)).2 := .intro _ _ faults
      obtain ⟨met, after, notes⟩ : ∃ met after, ledger.note (.query query) = (met, after) :=
        ⟨_, _, rfl⟩
      rw [notes] at noted
      simp only [notes]
      cases met with
      | some failure => exact noted
      | none =>
        -- it takes no number, and leaves the rows
        have serials : (after.serials.take query).2 = after.serials :=
          Books.take_of_isRead reads after.serials
        have kept : { after with tables := some tables } = after := by
          rw [← laid, ← noted.tables]
        unfold carryOut
        dsimp only
        rw [serials]
        cases applied : tables.apply (after.serials.take query).1 after.clock query with
        | error refusal => exact noted
        | ok outcome =>
          obtain ⟨answer, next⟩ := outcome
          have same : next = tables := Tables.apply_of_isRead reads applied
          show ledger.Alike { after with tables := some next }
          rw [same, kept]
          exact noted

/-! ### Transactions -/

/-- Two sessions of the same standing whose ledgers are alike. -/
structure Session.Alike (first second : Session) : Prop where
  ledger : first.ledger.Alike second.ledger
  saved : second.saved = first.saved
  standing : second.standing = first.standing

namespace Session.Alike

variable {first second : Session}

theorem undone (alike : first.Alike second) : first.undone.Alike second.undone := by
  rw [Session.undone, Session.undone, alike.saved]
  exact alike.ledger.restore _

theorem query (alike : first.Alike second) {query : Query} (writes : query.isRead = false) :
    Abreast Session.Alike (first.query query) (second.query query) := by
  unfold Session.query
  rw [alike.standing]
  cases first.standing with
  | lost | aborted => exact ⟨_, first, second, rfl, rfl, alike⟩
  | running =>
    obtain ⟨outcome, before, after, met, met', later⟩ := alike.ledger.attempt writes
    have noted : Session.Alike { first with ledger := before } { second with ledger := after } :=
      ⟨later, alike.saved, alike.standing⟩
    simp only [met, met']
    cases outcome with
    | ok answer => exact ⟨_, _, _, rfl, rfl, later, alike.saved, rfl⟩
    | error failure =>
      refine ⟨_, _, _, rfl, rfl, ?_⟩
      cases failure with
      | refused refusal => exact ⟨later, alike.saved, rfl⟩
      | disconnected => exact ⟨noted.undone, alike.saved, rfl⟩

theorem commit (alike : first.Alike second) :
    Abreast Ledger.Alike first.commit second.commit := by
  obtain ⟨met, before, after, noted, noted', later⟩ :=
    alike.ledger.note .commit Verb.noConfusion
  have ended : Session.Alike { first with ledger := before } { second with ledger := after } :=
    ⟨later, alike.saved, alike.standing⟩
  unfold Session.commit
  rw [alike.standing]
  cases first.standing with
  | lost => exact ⟨_, _, _, rfl, rfl, alike.undone⟩
  | running =>
    simp only [noted, noted']
    cases met with
    | some failure => exact ⟨_, _, _, rfl, rfl, ended.undone⟩
    | none => exact ⟨_, before, after, rfl, rfl, later⟩
  | aborted =>
    simp only [noted, noted']
    cases met with
    | some failure | none => exact ⟨_, _, _, rfl, rfl, ended.undone⟩

theorem rollback (alike : first.Alike second) :
    Abreast Ledger.Alike first.rollback second.rollback := by
  obtain ⟨met, before, after, noted, noted', later⟩ :=
    alike.ledger.note .rollback Verb.noConfusion
  have ended : Session.Alike { first with ledger := before } { second with ledger := after } :=
    ⟨later, alike.saved, alike.standing⟩
  unfold Session.rollback
  rw [alike.standing]
  cases first.standing with
  | lost => exact ⟨_, _, _, rfl, rfl, alike.undone⟩
  | running | aborted =>
    simp only [noted, noted']
    cases met with
    | some failure | none => exact ⟨_, _, _, rfl, rfl, ended.undone⟩

theorem conclude (alike : first.Alike second) (result : Except StoreError α) :
    Abreast Ledger.Alike (first.conclude result) (second.conclude result) := by
  cases result with
  | ok value =>
    obtain ⟨outcome, before, after, met, met', later⟩ := alike.commit
    simp only [Session.conclude, met, met']
    cases outcome <;> exact ⟨_, before, after, rfl, rfl, later⟩
  | error cause =>
    obtain ⟨outcome, before, after, met, met', later⟩ := alike.rollback
    simp only [Session.conclude, met, met']
    cases outcome <;> exact ⟨_, before, after, rfl, rfl, later⟩

end Session.Alike

namespace Alike

variable {first second : Ledger} (alike : first.Alike second)

include alike

/-- **A transaction of a work that only writes** comes to the same end in ledgers that are alike. -/
theorem transact {work : Work α} (writes : work.run.Asks fun query => query.isRead = false) :
    Abreast Alike (first.transact work) (second.transact work) := by
  have access : second.access = first.access := by
    cases alike
    rfl
  obtain ⟨met, before, after, noted, noted', later⟩ :=
    alike.note .begin Verb.noConfusion
  unfold Ledger.transact Ledger.begin
  rw [access]
  cases first.access.check with
  | error error => exact ⟨_, first, second, rfl, rfl, alike⟩
  | ok _ =>
    simp only [noted, noted']
    cases met with
    | some failure => exact ⟨_, before, after, rfl, rfl, later⟩
    | none =>
      have begun : Session.Alike ⟨before, before.tables, .running⟩
          ⟨after, after.tables, .running⟩ := ⟨later, later.tables, rfl⟩
      obtain ⟨result, start, finish, ran, ran', ends⟩ := Script.run_alike
        (fun (query : Query) _ _ (writes : query.isRead = false) alike => alike.query writes)
        writes begun
      simp only [ran, ran']
      exact ends.conclude result

/-- **A transfer comes to the same end** in ledgers that are alike. -/
theorem transfer (movement : Movement) :
    Abreast Alike (first.transfer movement) (second.transfer movement) := by
  unfold Ledger.transfer
  by_cases nothing : movement.amount ≤ 0
  · rw [if_pos nothing, if_pos nothing]
    exact ⟨_, first, second, rfl, rfl, alike⟩
  · rw [if_neg nothing, if_neg nothing]
    refine alike.transact (Script.asks_mono (fun query moves => ?_) movement.asks_settle)
    cases query with
    | addBalance _ | insertTransfer _ | insertEntry _ => rfl
    | insertUser _ | findUser _ | updateUser _ | insertAccount _ _ _ | findAccount _
    | listAccounts _ | findTransfer _ | listTransfers _ | findEntry _ | listEntries _
    | sumEntries _ => cases moves

end Alike

end Ledger

end Passbook
