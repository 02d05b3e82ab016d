/-
**Clients that take turns.**

A dialogue is several calls, and between two calls of one client those of others may be answered.
`Traffic` is a ledger with the clients that use it, each with what is left of its dialogue.

* `Client.payer` — a client that carries out a payment; any other client asks only calls that move
  no money.
* `Deal` — a transfer that a payment asked for, with the ledger that it met.
* `Traffic.step` — one move: a client enters, a client takes its turn, which is one call, or
  something else happens to the ledger that moves no money.
* `Interleaved` — the traffic that any moves lead to, in any order.
* **`Interleaved.reachable`** — what happens to the ledger then is a run of operations.
-/

import Passbook.Proofs.Money.Conservation
import Passbook.Proofs.Service.Payment

namespace Passbook

open Ledger (Query Books Tables AccountRow Exchange)

/-! ### Calls -/

/-- A call that is no transfer and moves no money. -/
def Call.Still : Call → Prop
  | .query asked => ¬ asked.MovesMoney
  | .transfer _ => False

theorem Call.Still.leavesMoney {call : Call} (still : call.Still) : call.LeavesMoney := by
  cases call with
  | query query => exact still
  | transfer movement => exact trivial

theorem Call.Queried.still {call : Call} (queried : call.Queried) : call.Still := by
  cases call with
  | query query => exact Query.Served.not_movesMoney queried
  | transfer movement => exact queried

theorem Call.Served.leavesMoney {call : Call} (served : call.Served) : call.LeavesMoney := by
  cases call with
  | query query => exact Query.Served.not_movesMoney served
  | transfer movement => exact trivial

/-- An operation of such calls is given such works, and no transfer. -/
theorem Operation.within_of_asks {kind : Call → Prop} {operation : Operation}
    (asks : operation.Asks kind) : operation.Within kind := by
  cases operation with
  | perform _ | transact _ | transfer _ => exact asks
  | seed | migrate | register _ | changeProfile _ | openAccount _ | pay _ _ | request _ _ _
  | surround _ _ _ => exact trivial

/-- Calls that move no money leave it to whole transfers. -/
theorem Operation.asks_leavesMoney {operation : Operation} (asks : operation.Asks Call.Still) :
    operation.Asks Call.LeavesMoney := by
  have leaves : ∀ call : Call, call.Still → call.LeavesMoney := fun _ => Call.Still.leavesMoney
  cases operation with
  | perform _ | transact _ | seed => exact asks
  | transfer movement => exact trivial
  | register _ | changeProfile _ | openAccount _ | pay _ _ | request _ _ _ =>
    exact Script.asks_mono leaves asks
  | migrate | surround _ _ _ => exact trivial

theorem Operation.asks_seed_still : Operation.seed.Asks Call.Still :=
  Script.asks_mono (fun _ => Query.Seeded.not_movesMoney)
    (Seed.asks_seedAll fun _ => Seed.Demo.asks_seeded)

/-! ### Clients -/

/-- A client with what is left of its dialogue. -/
inductive Client : Type 1 where
  | payer (policy : SelfTransferPolicy) (order : TransferOrder)
    (rest : Script Call Call.Reply (Except ServiceError Settlement))
  | other {α : Type} (rest : Script Call Call.Reply α)

/-- A transfer that a payment asked for, with the ledger that it met. -/
structure Deal extends Attempt where
  policy : SelfTransferPolicy
  order : TransferOrder

namespace Client

/-- A client comes with a payment that is not begun, or with a dialogue that moves no money. -/
def Enters : Client → Prop
  | payer policy order rest => rest = (Service.pay policy order).run
  | other rest => rest.Asks Call.Still

/-- Every call that the client can still come to make is of the kind. -/
def Asks (kind : Call → Prop) : Client → Prop
  | payer _ _ rest => rest.Asks kind
  | other rest => rest.Asks kind

/-- The next call of the client, if its dialogue is not over. -/
def call? : Client → Option Call
  | payer _ _ (.ask call _) => some call
  | other (.ask call _) => some call
  | payer _ _ (.done _) | other (.done _) => none

/-- The client when its next call is answered. -/
def resumed : Client → Ledger → Client
  | payer policy order (.ask call next), ledger => payer policy order (next (ledger.answer call).1)
  | other (.ask call next), ledger => other (next (ledger.answer call).1)
  | payer policy order (.done result), _ => payer policy order (.done result)
  | other (.done result), _ => other (.done result)

/-- The transfer that the next call of the client asks for, if it is a payment that comes to it. -/
def deals : Client → Ledger → List Deal
  | payer policy order (.ask (.transfer movement) _), ledger =>
    [⟨⟨movement, ledger⟩, policy, order⟩]
  | _, _ => []

/-- Every handler but that of payments may enter. -/
theorem enters_of_queried {α : Type} {rest : Script Call Call.Reply α}
    (queried : rest.Asks Call.Queried) : (other rest).Enters :=
  Script.asks_mono (fun _ => Call.Queried.still) queried

theorem Enters.asks {client : Client} (enters : client.Enters) : client.Asks Call.LeavesMoney := by
  cases client with
  | payer policy order rest =>
    rw [show rest = (Service.pay policy order).run from enters]
    exact Script.asks_mono (fun _ => Call.Served.leavesMoney) (Service.asks_pay policy order)
  | other rest => exact Script.asks_mono (fun _ => Call.Still.leavesMoney) enters

variable {kind : Call → Prop} {client : Client}

theorem Asks.call (asks : client.Asks kind) {call : Call} (next : client.call? = some call) :
    kind call := by
  cases client with
  | payer policy order rest | other rest =>
    cases rest with
    | done result => cases next
    | ask asked later =>
      cases next
      exact asks.1

theorem Asks.resumed (asks : client.Asks kind) (ledger : Ledger) :
    (client.resumed ledger).Asks kind := by
  cases client with
  | payer policy order rest | other rest =>
    cases rest with
    | done result => exact asks
    | ask asked later => exact asks.2 _

end Client

/-! ### Traffic -/

/-- A ledger with its clients, the statements that were executed, and the transfers that payments
asked for. -/
structure Traffic where
  past : List Exchange
  deals : List Deal
  clients : List Client
  ledger : Ledger

inductive Move : Type 1 where
  | enter (client : Client)
  /-- The next call of a client is answered. -/
  | turn (number : Nat)
  /-- Something else happens to the ledger. -/
  | aside (operation : Operation)

/-- Only payments move money. -/
def Move.Proper : Move → Prop
  | enter client => client.Enters
  | turn _ => True
  | aside operation => operation.Asks Call.Still

namespace Traffic

/-- What comes of a call of a client. -/
def answered (number : Nat) (client : Client) (call : Call) (traffic : Traffic) : Traffic where
  past := traffic.past ++ traffic.ledger.heardOf call
  deals := traffic.deals ++ client.deals traffic.ledger
  clients := traffic.clients.set number (client.resumed traffic.ledger)
  ledger := (traffic.ledger.answer call).2

/-- The next call of a client is answered, if there is one. -/
def turn (number : Nat) (traffic : Traffic) : Traffic :=
  match traffic.clients[number]? with
  | none => traffic
  | some client =>
    match client.call? with
    | none => traffic
    | some call => traffic.answered number client call

def step : Move → Traffic → Traffic
  | .enter client, traffic => { traffic with clients := traffic.clients ++ [client] }
  | .turn number, traffic => traffic.turn number
  | .aside operation, traffic =>
    { traffic with
      past := traffic.past ++ operation.exchanges traffic.ledger
      ledger := operation.run traffic.ledger }

/-- Several moves, one after another. -/
def run (moves : List Move) (traffic : Traffic) : Traffic :=
  moves.foldl (fun traffic move => traffic.step move) traffic

theorem turn_cases (number : Nat) (traffic : Traffic) : traffic.turn number = traffic ∨
    ∃ client call, client ∈ traffic.clients ∧ client.call? = some call ∧
      traffic.turn number = traffic.answered number client call := by
  unfold turn
  cases found : traffic.clients[number]? with
  | none => exact .inl rfl
  | some client =>
    cases next : client.call? with
    | none => exact .inl (by simp only [next])
    | some call =>
      refine .inr ⟨client, call, List.mem_of_getElem? found, next, by simp only [next]⟩

/-- Nobody is there at the start. -/
def start (ledger : Ledger) : Traffic :=
  ⟨[], [], [], ledger⟩

end Traffic

/-- **Traffic of clients that take turns**, in any order. -/
inductive Interleaved : Traffic → Prop
  | blank : Interleaved (.start .blank)
  | fresh : Interleaved (.start .fresh)
  | step {traffic : Traffic} (move : Move) : Interleaved traffic → move.Proper →
    Interleaved (traffic.step move)

namespace Interleaved

variable {traffic : Traffic}

theorem run (interleaved : Interleaved traffic) {moves : List Move}
    (proper : ∀ move ∈ moves, move.Proper) : Interleaved (traffic.run moves) := by
  induction moves generalizing traffic with
  | nil => exact interleaved
  | cons move rest ih =>
    exact ih (interleaved.step move (proper move List.mem_cons_self))
      fun other member => proper other (List.mem_cons_of_mem _ member)

/-- No client comes to a call that moves money by itself. -/
theorem asks (interleaved : Interleaved traffic) :
    ∀ client ∈ traffic.clients, client.Asks Call.LeavesMoney := by
  induction interleaved with
  | blank | fresh => exact fun _ member => by cases member
  | @step traffic move _ proper ih =>
    cases move with
    | enter client =>
      exact List.forall_mem_append.mpr
        ⟨ih, List.forall_mem_singleton.mpr (Client.Enters.asks proper)⟩
    | aside operation => exact ih
    | turn number =>
      show ∀ client ∈ (traffic.turn number).clients, client.Asks Call.LeavesMoney
      rcases traffic.turn_cases number with same | ⟨client, call, member, _, answered⟩
      · rw [same]
        exact ih
      · rw [answered]
        intro other inside
        rcases List.mem_or_eq_of_mem_set inside with before | rfl
        · exact ih other before
        · exact (ih client member).resumed traffic.ledger

/-- A call that is answered is an operation of its own. -/
theorem reachable_answer {past : List Exchange} {ledger : Ledger}
    (reachable : Reachable Call.LeavesMoney past ledger) {call : Call} (leaves : call.LeavesMoney) :
    Reachable Call.LeavesMoney (past ++ ledger.heardOf call) (ledger.answer call).2 := by
  cases call with
  | query query =>
    have within : (Operation.perform (Work.ask query)).Within Call.LeavesMoney :=
      ⟨leaves, fun _ => trivial⟩
    have asked := Reachable.step _ reachable within
    have heard : (Operation.perform (Work.ask query)).exchanges ledger = ledger.heard query :=
      List.append_nil _
    rw [heard] at asked
    exact asked
  | transfer movement => exact .step (.transfer movement) reachable trivial

/-- **What happens to the ledger is a run.** -/
theorem reachable (interleaved : Interleaved traffic) :
    Reachable Call.LeavesMoney traffic.past traffic.ledger := by
  induction interleaved with
  | blank => exact .blank
  | fresh => exact .fresh
  | @step traffic move interleaved proper ih =>
    cases move with
    | enter client => exact ih
    | aside operation =>
      exact .step operation ih (Operation.within_of_asks (Operation.asks_leavesMoney proper))
    | turn number =>
      show Reachable _ (traffic.turn number).past (traffic.turn number).ledger
      rcases traffic.turn_cases number with same | ⟨client, call, member, next, answered⟩
      · rw [same]
        exact ih
      · rw [answered]
        exact reachable_answer ih ((interleaved.asks client member).call next)

/-- What calls that leave the money keep is kept by every move. -/
theorem kept_step (interleaved : Interleaved traffic) {move : Move} (proper : move.Proper)
    {preserved : Preserved Call.LeavesMoney} {past : List Exchange}
    (kept : preserved.Kept past traffic.ledger.books) :
    ∃ later, preserved.Kept later (traffic.step move).ledger.books := by
  cases move with
  | enter client => exact ⟨past, kept⟩
  | aside operation =>
    exact ⟨_, kept.operation (Operation.asks_leavesMoney proper)⟩
  | turn number =>
    show ∃ later, preserved.Kept later (traffic.turn number).ledger.books
    rcases traffic.turn_cases number with same | ⟨client, call, member, next, answered⟩
    · rw [same]
      exact ⟨past, kept⟩
    · rw [answered]
      exact ⟨_, kept.call ((interleaved.asks client member).call next)⟩

end Interleaved

end Passbook
