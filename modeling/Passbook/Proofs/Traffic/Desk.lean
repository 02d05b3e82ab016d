/-
**Clients at a desk.**

Clients carry out commands call by call, and between any two calls anything else may happen to the
ledger. A `Desk` is a ledger with the callers it serves and with the visits they have paid it, each
with the ledger that it met.

* `Desk.step` — one move: a caller comes with a command, the next call of a caller is answered, or
  an operation of any kind is carried out.
* `Attended desk` — any moves, in any order, lead to the desk.
* `Desk.Orderly` — each caller has gone through its visits, and each visit leaves books that later
  ones extend.
* **`Attended.orderly`** — every desk is orderly.
* `Orderly.precedes` — of the visits of two callers, one found what the other had left.
-/

import Mathlib.Data.List.Pairwise
import Passbook.Proofs.Run.History
import Passbook.Proofs.Service.Serving

namespace Passbook

open Ledger (Books)

/-! ### Callers and their visits -/

/-- A client with a command, and with what is left of its dialogue. -/
structure Caller where
  {α : Type}
  command : Command α
  rest : Script Call Call.Reply (Except ServiceError α)

/-- A call of a client, with the ledger that it met. -/
structure Visit where
  caller : Nat
  call : Call
  ledger : Ledger

namespace Visit

def after (visit : Visit) : Ledger :=
  (visit.ledger.answer visit.call).2

/-- What one visit left behind, the other found, or what came of it since. -/
def Precedes (first second : Visit) : Prop :=
  first.after.books.Extends second.ledger.books

end Visit

/-- One script is left of another after visits, each of which heard the reply of its ledger. -/
inductive Plays {α : Type} : List Visit → Script Call Call.Reply α → Script Call Call.Reply α → Prop
  | here (script : Script Call Call.Reply α) : Plays [] script script
  | asked {caller : Nat} {call : Call} {ledger : Ledger} {visits : List Visit}
    {next : call.Reply → Script Call Call.Reply α} {rest : Script Call Call.Reply α} :
    Plays visits (next (ledger.answer call).1) rest →
    Plays (⟨caller, call, ledger⟩ :: visits) (.ask call next) rest

theorem Plays.snoc {α : Type} {visits : List Visit} {script : Script Call Call.Reply α}
    {call : Call} {next : call.Reply → Script Call Call.Reply α}
    (plays : Plays visits script (.ask call next)) (caller : Nat) (ledger : Ledger) :
    Plays (visits ++ [⟨caller, call, ledger⟩]) script (next (ledger.answer call).1) := by
  generalize left : Script.ask call next = rest at plays
  induction plays with
  | here script =>
    subst left
    exact .asked (.here _)
  | asked _ ih => exact .asked (ih left)

/-! ### Desks -/

/-- A ledger with its callers, and all their visits in the order in which they were paid. -/
structure Desk where
  callers : List Caller
  visits : List Visit
  ledger : Ledger

namespace Desk

inductive Move : Type 1 where
  | enter {α : Type} (command : Command α)
  /-- The next call of a caller is answered. -/
  | turn (number : Nat)
  /-- Something else happens to the ledger. -/
  | aside (operation : Operation)

/-- The visits of one caller. -/
def visitsOf (number : Nat) (desk : Desk) : List Visit :=
  desk.visits.filter fun visit => visit.caller == number

/-- The caller is done, with this result. -/
def Ended {α : Type} (number : Nat) (command : Command α) (result : Except ServiceError α)
    (desk : Desk) : Prop :=
  desk.callers[number]? = some ⟨command, .done result⟩

/-- What comes of a call of a caller. -/
def answered {α : Type} (number : Nat) (command : Command α) (call : Call)
    (next : call.Reply → Script Call Call.Reply (Except ServiceError α)) (desk : Desk) : Desk where
  callers := desk.callers.set number ⟨command, next (desk.ledger.answer call).1⟩
  visits := desk.visits ++ [⟨number, call, desk.ledger⟩]
  ledger := (desk.ledger.answer call).2

/-- The visits of one caller grow, and those of the others do not. -/
theorem visitsOf_answered {α : Type} (number other : Nat) (command : Command α) (call : Call)
    (next : call.Reply → Script Call Call.Reply (Except ServiceError α)) (desk : Desk) :
    (desk.answered number command call next).visitsOf other =
      desk.visitsOf other ++ if number = other then [⟨number, call, desk.ledger⟩] else [] := by
  unfold visitsOf answered
  rw [List.filter_append]
  by_cases its : number = other <;> simp [its]

/-- The next call of a caller is answered, if there is one. -/
def turn (number : Nat) (desk : Desk) : Desk :=
  match desk.callers[number]? with
  | some ⟨command, .ask call next⟩ => desk.answered number command call next
  | _ => desk

def step : Move → Desk → Desk
  | .enter command, desk =>
    { desk with callers := desk.callers ++ [⟨command, command.dialogue.run⟩] }
  | .turn number, desk => desk.turn number
  | .aside operation, desk => { desk with ledger := operation.run desk.ledger }

/-- Several moves, one after another. -/
def run (moves : List Move) (desk : Desk) : Desk :=
  moves.foldl (fun desk move => desk.step move) desk

/-- Nobody is there at the start. -/
def start (ledger : Ledger) : Desk :=
  ⟨[], [], ledger⟩

end Desk

/-- **A desk that any moves lead to**, in any order. -/
inductive Attended : Desk → Prop
  | blank : Attended (.start .blank)
  | fresh : Attended (.start .fresh)
  | step {desk : Desk} (move : Desk.Move) : Attended desk → Attended (desk.step move)

theorem Attended.run {desk : Desk} (attended : Attended desk) (moves : List Desk.Move) :
    Attended (desk.run moves) := by
  induction moves generalizing desk with
  | nil => exact attended
  | cons move rest ih => exact ih (attended.step move)

/-! ### Order at the desk -/

section Extended

variable {ledger : Ledger} (sound : ledger.books.Sound)

include sound

/-- Every call extends the books, and leaves them sound. -/
theorem Ledger.extends_answer (call : Call) :
    ledger.books.Extends (ledger.answer call).2.books ∧ (ledger.answer call).2.books.Sound := by
  let start : (Books.extended (fun _ => True) ledger.books).Kept [] ledger.books :=
    ⟨sound, .refl _⟩
  have permitted : call.Permitted fun _ => True := by
    cases call <;> exact .inl trivial
  have kept := start.call permitted
  exact ⟨kept.holds, kept.sound⟩

/-- Every operation extends the books, and leaves them sound. -/
theorem Ledger.extends_run (operation : Operation) :
    ledger.books.Extends (operation.run ledger).books ∧ (operation.run ledger).books.Sound := by
  let start : (Books.extended (fun _ => True) ledger.books).Kept [] ledger.books :=
    ⟨sound, .refl _⟩
  have within : operation.Within fun _ => True := by
    cases operation with
    | perform work | transact work => exact Script.asks_true work.run
    | transfer _ | seed | migrate | register _ | changeProfile _ | openAccount _ | pay _ _
    | request _ _ _ | surround _ _ _ => exact trivial
  have kept := start.operation (Operation.asks_of_within within)
  exact ⟨kept.holds, kept.sound⟩

end Extended

/-- The callers have gone through their visits, and each visit leaves books that later ones
extend. -/
structure Desk.Orderly (desk : Desk) : Prop where
  sound : desk.ledger.books.Sound
  known : ∀ visit ∈ desk.visits, visit.caller < desk.callers.length
  plays : ∀ number caller, desk.callers[number]? = some caller →
    Plays (desk.visitsOf number) caller.command.dialogue.run caller.rest
  met : ∀ visit ∈ desk.visits, visit.ledger.books.Sound
  left : ∀ visit ∈ desk.visits, visit.after.books.Extends desk.ledger.books
  ordered : desk.visits.Pairwise Visit.Precedes

namespace Desk.Orderly

variable {desk : Desk} (orderly : desk.Orderly)

include orderly

theorem enter {α : Type} (command : Command α) : (desk.step (.enter command)).Orderly := by
  refine { orderly with known := fun visit member => ?_, plays := fun number caller found => ?_ }
  · have earlier := orderly.known visit member
    show visit.caller < (desk.callers ++ [_]).length
    rw [List.length_append]
    omega
  · have found : (desk.callers ++ [⟨command, command.dialogue.run⟩])[number]? = some caller := found
    rcases Nat.lt_or_ge number desk.callers.length with before | beyond
    · rw [List.getElem?_append_left before] at found
      exact orderly.plays number caller found
    · -- nobody of this number was there, so it has paid no visit
      have nothing : desk.visitsOf number = [] := by
        refine List.filter_eq_nil_iff.mpr fun visit member its => ?_
        have earlier := orderly.known visit member
        have same : visit.caller = number := by simpa using its
        omega
      rw [List.getElem?_append_right beyond] at found
      rw [List.mem_singleton.mp (List.mem_of_getElem? found)]
      show Plays (desk.visitsOf number) _ _
      rw [nothing]
      exact .here _

theorem aside (operation : Operation) : (desk.step (.aside operation)).Orderly := by
  obtain ⟨extended, sound⟩ := Ledger.extends_run orderly.sound operation
  exact { orderly with
    sound := sound
    left := fun visit member => (orderly.left visit member).trans extended }

theorem answered {α : Type} {number : Nat} {command : Command α} {call : Call}
    {next : call.Reply → Script Call Call.Reply (Except ServiceError α)}
    (asks : desk.callers[number]? = some ⟨command, .ask call next⟩) :
    (desk.answered number command call next).Orderly := by
  obtain ⟨extended, sound⟩ := Ledger.extends_answer orderly.sound call
  have there : number < desk.callers.length := (List.getElem?_eq_some_iff.mp asks).1
  refine ⟨sound, ?_, fun other caller found => ?_, ?_, ?_, ?_⟩
  · show ∀ visit ∈ desk.visits ++ [_], visit.caller < (desk.callers.set number _).length
    rw [List.length_set]
    exact Ledger.forall_mem_snoc orderly.known there
  · have found : (desk.callers.set number
        ⟨command, next (desk.ledger.answer call).1⟩)[other]? = some caller := found
    rw [visitsOf_answered]
    by_cases its : number = other
    · subst its
      rw [List.getElem?_set_self there, Option.some.injEq] at found
      subst found
      rw [if_pos rfl]
      exact (orderly.plays number _ asks).snoc number desk.ledger
    · rw [List.getElem?_set_ne its] at found
      rw [if_neg its, List.append_nil]
      exact orderly.plays other caller found
  · exact Ledger.forall_mem_snoc orderly.met orderly.sound
  · exact Ledger.forall_mem_snoc (fun visit member => (orderly.left visit member).trans extended)
      (.refl _)
  · refine List.pairwise_append.mpr ⟨orderly.ordered, List.pairwise_singleton _ _, ?_⟩
    intro visit member last here
    rw [List.mem_singleton.mp here]
    exact orderly.left visit member

theorem turn (number : Nat) : (desk.turn number).Orderly := by
  unfold Desk.turn
  cases found : desk.callers[number]? with
  | none => exact orderly
  | some caller =>
    obtain ⟨command, rest⟩ := caller
    cases rest with
    | done result => exact orderly
    | ask call next => exact orderly.answered found

end Desk.Orderly

/-- **Every desk is orderly.** -/
theorem Attended.orderly {desk : Desk} (attended : Attended desk) : desk.Orderly := by
  have start : ∀ ledger : Ledger, ledger.books.Sound → (Desk.start ledger).Orderly :=
    fun ledger sound =>
      { sound := sound
        known := fun _ member => by cases member
        plays := fun _ _ found => by cases found
        met := fun _ member => by cases member
        left := fun _ member => by cases member
        ordered := .nil }
  induction attended with
  | blank => exact start _ (Books.sound_empty {})
  | fresh => exact start _ (Books.sound_empty {})
  | step move _ ih =>
    cases move with
    | enter command => exact ih.enter command
    | turn number => exact ih.turn number
    | aside operation => exact ih.aside operation

namespace Desk.Orderly

variable {desk : Desk} (orderly : desk.Orderly)

theorem of_mem_visitsOf {number : Nat} {visit : Visit} (member : visit ∈ desk.visitsOf number) :
    visit ∈ desk.visits ∧ visit.caller = number := by
  obtain ⟨paid, its⟩ := List.mem_filter.mp member
  exact ⟨paid, by simpa using its⟩

include orderly

/-- Of two visits of different callers, one precedes the other. -/
theorem precedes {first second : Visit} (firstIn : first ∈ desk.visits)
    (secondIn : second ∈ desk.visits) (different : first.caller ≠ second.caller) :
    first.Precedes second ∨ second.Precedes first := by
  let either := fun first second : Visit => first.Precedes second ∨ second.Precedes first
  have symm : Std.Symm either := ⟨fun _ _ => Or.symm⟩
  have ordered : desk.visits.Pairwise either := orderly.ordered.imp .inl
  exact ordered.forall firstIn secondIn fun same => different (congrArg Visit.caller same)

end Desk.Orderly

end Passbook
