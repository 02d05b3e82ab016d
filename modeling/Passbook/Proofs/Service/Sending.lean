/-
**Commands sent over HTTP.**

* `Command.Sends policy command request` — the request carries the command: its method, its path
  with the username in any percent encoding, and its arguments as JSON; `Http.sends_request`: the
  usual request of a command does.
* `NewUser.read_toJson`, `ProfilePatch.read_toJson`, `NewAccount.read_toJson`,
  `TransferOrder.read_toJson` — the arguments are read as they were written.
* `Http.ofPath?_user` and `Intake.pathText_of_spells` — the path of a user is found, and its
  username is the one that was encoded.
* **`serve_sent`** — a command that is sent leaves the ledger that it leaves when it is served
  directly, and is answered with its value or with the status and body of its error.
-/

import Passbook.Proofs.Json.Decoded
import Passbook.Proofs.Service.Serving
import Passbook.Proofs.Text.Percent

namespace Passbook

open Json (Value Reader)
open Text (IntegerRange)
open Text.Percent (Spells)

variable {α : Type}

/-! ### Arguments as JSON -/

theorem NewUser.read_toJson (title : String) (user : NewUser) :
    (NewUser.reader title).runFront user.toJson.write = .ok user := by
  refine (Reader.runFront_write _ ?_).trans rfl
  exact ⟨trivial, trivial, trivial, trivial⟩

/-- What is not given is left out, and read as not given. -/
theorem ProfilePatch.read_toJson (title : String) (patch : ProfilePatch) :
    (ProfilePatch.reader title).runFront patch.toJson.write = .ok patch := by
  obtain ⟨fullName, email⟩ := patch
  rcases fullName with _ | fullName <;> rcases email with _ | email
  · exact Reader.runFront_write (ProfilePatch.reader title) trivial
  all_goals
    refine (Reader.runFront_write _ ?_).trans rfl
    simp [ProfilePatch.toJson, Value.Fits, Value.MembersFit]

theorem NewAccount.read_toJson (title : String) (account : NewAccount) :
    (NewAccount.reader title).runFront account.toJson.write = .ok account := by
  refine (Reader.runFront_write _ ?_).trans rfl
  exact ⟨trivial, trivial, trivial⟩

/-- The integers of an order are those of 64 bits. -/
def TransferOrder.InRange (order : TransferOrder) : Prop :=
  IntegerRange.int64.contains order.source = true ∧
    IntegerRange.int64.contains order.target = true ∧
    IntegerRange.int64.contains order.amount = true

theorem TransferOrder.read_toJson (title : String) {order : TransferOrder}
    (inRange : order.InRange) :
    (TransferOrder.reader title).runFront order.toJson.write = .ok order := by
  obtain ⟨source, target, amount⟩ := inRange
  refine (Reader.runFront_write _ ?_).trans ?_
  · exact ⟨Value.fits_int source, Value.fits_int target, Value.fits_int amount, trivial, trivial⟩
  · refine Reader.struct_object (by decide) ?_
    simp [form, Reader.int64_document source, Reader.int64_document target,
      Reader.int64_document amount]

/-! ### Paths -/

namespace Http

/-- A target that is a path and nothing more. -/
theorem path_of_target {request : Request} {rest : List Char}
    (target : request.target.toList = '/' :: rest) (noQuery : '?' ∉ rest)
    (noFragment : '#' ∉ rest) : request.path = '/' :: rest := by
  have fragment : '#' ∉ '/' :: rest := by simpa using noFragment
  have query : '?' ∉ '/' :: rest := by simpa using noQuery
  rw [Request.path, target, Target.read, Target.ofPlace, Text.cut_of_not_mem fragment]
  simp only [Text.cut_of_not_mem query]

/-- The path of a user, however the username is written in it. -/
theorem ofPath?_user {segment : Segment} (whole : '/' ∉ segment) (written : segment ≠ []) :
    Resource.ofPath? ("/users/".toList ++ segment) = some (.user segment) := by
  have parts : Text.split '/' ("/users/".toList ++ segment) = [[], "users".toList, segment] := by
    show Text.split '/' ([] ++ '/' :: ("users".toList ++ '/' :: segment)) = _
    rw [Text.split_append List.not_mem_nil, Text.split_append (by decide),
      Text.split_of_not_mem whole]
  have some_key : segment.isEmpty = false := by simpa using written
  rw [Resource.ofPath?, parts]
  show (if segment.isEmpty then none
    else Resource.member? (String.ofList "users".toList) segment) = _
  rw [some_key, String.ofList_toList]
  rfl

/-- **The username is the one that was encoded.** -/
theorem Intake.pathText_of_spells {name username : String} {segment : Segment}
    (spells : Spells segment (Text.Utf8.encode username.toList)) :
    Intake.pathText name segment = .ok username := by
  simp only [Intake.pathText, spells.decode, Text.Utf8.decode?_encode, String.ofList_toList]

end Http

/-! ### Commands that are sent -/

namespace Command

/-- A command over HTTP goes by the policy of the service. -/
def Under (policy : SelfTransferPolicy) : Command α → Prop
  | pay own _ => own = policy
  | _ => True

def method : Command α → String
  | changeProfile _ => "PATCH"
  | _ => "POST"

/-- The target of the request that carries a command. -/
def Targets : Command α → String → Prop
  | register _, target => target = "/users"
  | changeProfile change, target => change.username ≠ "" ∧ ∃ segment : Http.Segment,
    Spells segment (Text.Utf8.encode change.username.toList) ∧
      target.toList = "/users/".toList ++ segment
  | openAccount _, target => target = "/accounts"
  | pay _ _, target => target = "/transfers"

/-- The arguments that the body carries. -/
def arguments : Command α → Value
  | register user => user.toJson
  | changeProfile change => change.patch.toJson
  | openAccount account => account.toJson
  | pay _ order => order.toJson

/-- The integers of the arguments are those of 64 bits. -/
def InRange : Command α → Prop
  | pay _ order => order.InRange
  | _ => True

/-- The status of the response to a command that succeeds. -/
def status : Command α → Nat
  | register _ | openAccount _ => 201
  | changeProfile _ | pay _ _ => 200

/-- The value of a command as it is answered. -/
def valueJson : Command α → α → Value
  | register _, user => User.toJson user
  | changeProfile _, user => User.toJson user
  | openAccount _, account => Account.toJson account
  | pay _ _, settlement => Settlement.toJson settlement

/-- **The request carries the command.** -/
structure Sends (policy : SelfTransferPolicy) (command : Command α) (request : Http.Request) :
    Prop where
  under : command.Under policy
  inRange : command.InRange
  method : request.method = command.method
  target : command.Targets request.target
  isJson : Http.Intake.isJson request = true
  body : request.body = command.arguments.write
  size : request.body.utf8ByteSize ≤ Http.Intake.greatestBody

/-- The usual target, in which every byte is escaped that might not stand for itself. -/
def target : Command α → String
  | register _ => "/users"
  | changeProfile change => "/users/" ++ Text.Percent.encode change.username
  | openAccount _ => "/accounts"
  | pay _ _ => "/transfers"

/-- The usual request that carries a command. -/
def request (command : Command α) : Http.Request :=
  ⟨command.method, command.target, [.ofText "content-type" "application/json"],
    command.arguments.write⟩

/-- Only a user has a path of its own, which takes a username. -/
def Named : Command α → Prop
  | changeProfile change => change.username ≠ ""
  | _ => True

theorem targets_target {command : Command α} (named : command.Named) :
    command.Targets command.target := by
  cases command with
  | register _ | openAccount _ | pay _ _ => exact rfl
  | changeProfile change =>
    refine ⟨named, _, Text.Percent.spells_encode change.username, ?_⟩
    rw [target, String.toList_append]

end Command

namespace Http

/-- The usual field for a body that is JSON. -/
theorem Intake.isJson_cons (method target : String) (headers : List Header) (body : String) :
    Intake.isJson ⟨method, target, .ofText "content-type" "application/json" :: headers, body⟩ =
      true := by
  have key : (Header.ofText "content-type" "application/json").key = "content-type" := by
    decide +kernel
  rw [Intake.isJson, Header.first?, List.find?_cons_of_pos (by simpa using key)]
  rfl

variable {policy : SelfTransferPolicy} {command : Command α} {request : Request}

/-- **The usual request of a command carries it**, unless it is too long. -/
theorem sends_request (under : command.Under policy) (inRange : command.InRange)
    (named : command.Named)
    (size : command.arguments.write.utf8ByteSize ≤ Intake.greatestBody) :
    command.Sends policy command.request where
  under := under
  inRange := inRange
  method := rfl
  target := Command.targets_target named
  isJson := Intake.isJson_cons _ _ _ _
  body := rfl
  size := size

/-- A body is read if it is JSON and not too large. -/
theorem Intake.body_eq_ok_iff {β : Type} {reader : Reader β} {value : β} :
    Intake.body reader request = .ok value ↔ Intake.isJson request = true ∧
      request.body.utf8ByteSize ≤ Intake.greatestBody ∧
        reader.runFront request.body = .ok value := by
  unfold Intake.body
  cases json : Intake.isJson request with
  | false => exact iff_of_false nofun nofun
  | true =>
    rw [if_neg (by decide), and_iff_right rfl]
    by_cases long : Intake.greatestBody < request.body.utf8ByteSize
    · rw [if_pos long]
      exact iff_of_false nofun fun read => absurd read.1 (by omega)
    · rw [if_neg long, mapError_eq_ok, and_iff_right (Nat.not_lt.mp long)]

/-- A body that carries arguments is read with their reader, and the rest goes by what was read. -/
theorem Intake.serve_body {β γ : Type} {reader : Reader β} {value : β}
    (sends : command.Sends policy request)
    (reads : reader.runFront command.arguments.write = .ok value) (rest : β → Dialogue γ)
    (ledger : Ledger) :
    ledger.serve (.ofExcept (Intake.body reader request) >>= rest) = ledger.serve (rest value) := by
  have read : Intake.body reader request = .ok value :=
    Intake.body_eq_ok_iff.mpr ⟨sends.isJson, sends.size, sends.body ▸ reads⟩
  rw [read, ledger.serve_ofExcept_bind]

/-- **The action of a request that carries a command** does what the command is for. -/
theorem action_of_sends (sends : command.Sends policy request) :
    ∃ action, request.action? = some action ∧ ∀ ledger : Ledger,
      ledger.serve (action.perform policy request) =
        ((ledger.serve command.dialogue).1.map fun value =>
            (command.status, command.valueJson value),
          (ledger.serve command.dialogue).2) := by
  have method := sends.method
  have target := sends.target
  cases command with
  | register user =>
    refine ⟨.register, ?_, fun ledger => ?_⟩
    · rw [Request.action?, Request.path, show request.target = "/users" from target, method]
      rfl
    · refine (Intake.serve_body sends (NewUser.read_toJson _ user) _ ledger).trans ?_
      exact ledger.serve_bind_pure _ _
  | changeProfile change =>
    obtain ⟨named, segment, spells, target⟩ := target
    have some_char : change.username.toList ≠ [] := fun nothing =>
      named (String.toList_eq_nil_iff.mp nothing)
    have written : segment ≠ [] := spells.ne_nil (Text.Utf8.encode_ne_nil some_char)
    have path : request.path = "/users/".toList ++ segment :=
      path_of_target target
        (List.not_mem_append (by decide) (spells.apart rfl (by decide) rfl))
        (List.not_mem_append (by decide) (spells.apart rfl (by decide) rfl))
    refine ⟨.changeProfile segment, ?_, fun ledger => ?_⟩
    · rw [Request.action?, path, ofPath?_user (spells.apart rfl (by decide) rfl) written, method]
      rfl
    · rw [Action.perform, Intake.pathText_of_spells spells, ledger.serve_ofExcept_bind]
      have read := ProfilePatch.read_toJson "UpdateUserRequest" change.patch
      refine (Intake.serve_body sends read _ ledger).trans ?_
      exact ledger.serve_bind_pure _ _
  | openAccount account =>
    refine ⟨.openAccount, ?_, fun ledger => ?_⟩
    · rw [Request.action?, Request.path, show request.target = "/accounts" from target, method]
      rfl
    · refine (Intake.serve_body sends (NewAccount.read_toJson _ account) _ ledger).trans ?_
      exact ledger.serve_bind_pure _ _
  | pay own order =>
    have same : own = policy := sends.under
    subst same
    refine ⟨.pay, ?_, fun ledger => ?_⟩
    · rw [Request.action?, Request.path, show request.target = "/transfers" from target, method]
      rfl
    · have read := TransferOrder.read_toJson "TransferRequest" sends.inRange
      refine (Intake.serve_body sends read _ ledger).trans ?_
      exact ledger.serve_bind_pure _ _

end Http

variable {policy : SelfTransferPolicy} {command : Command α} {request : Http.Request}

/-- **A command that is sent** is the command itself: it leaves the same ledger, and is answered
with the value, or with the status and body of the error, that the command comes to. -/
theorem serve_sent (sends : command.Sends policy request) (fresh : Http.Uuid) (ledger : Ledger) :
    (Http.serve policy fresh request ledger).2 = (ledger.serve command.dialogue).2 ∧
    (∀ value, (ledger.serve command.dialogue).1 = .ok value →
      (Http.serve policy fresh request ledger).1.status = command.status ∧
      (Http.serve policy fresh request ledger).1.content = .json (command.valueJson value)) ∧
    (∀ error, (ledger.serve command.dialogue).1 = .error error →
      (Http.serve policy fresh request ledger).1.status = error.status ∧
      (Http.serve policy fresh request ledger).1.content = .json error.body) := by
  obtain ⟨action, named, performs⟩ := Http.action_of_sends sends
  have noHead : ¬ (request.method == "HEAD") = true := by
    rw [sends.method]
    cases command with
    | changeProfile _ => exact (by decide : ¬ ("PATCH" == "HEAD") = true)
    | register _ | openAccount _ | pay _ _ => exact (by decide : ¬ ("POST" == "HEAD") = true)
  have answered := Http.serve_of_action policy fresh ledger named
  rw [performs ledger, Http.Api.trimmed, if_neg noHead] at answered
  rw [answered]
  refine ⟨rfl, fun value succeeds => ?_, fun error fails => ?_⟩
  · rw [succeeds]
    exact ⟨rfl, rfl⟩
  · rw [fails]
    exact ⟨rfl, rfl⟩

/-- A ledger with a user whose name is not ASCII. -/
def withUser : Ledger :=
  (Ledger.fresh.perform (Work.createUser ⟨"Zoë", "Zoë", "zoe@example.com"⟩)).2

def renameUser : Command User :=
  .changeProfile ⟨"Zoë", ⟨some "Zoë \"Z\" Ray", none⟩⟩

/-- The request that carries it, with the two bytes of one letter of the username escaped. -/
def renameRequest : Http.Request :=
  ⟨"PATCH", "/users/Zo%C3%ab", [.ofText "content-type" "application/json"],
    "\x7b\"full_name\":\"Zoë \\\"Z\\\" Ray\"\x7d"⟩

/-- The profile is changed as it would have been without a request, and the user is answered. -/
theorem serve_sent_rename :
    (Http.serve .reject .nil renameRequest withUser).2 =
      (withUser.serve renameUser.dialogue).2 ∧
    (Http.serve .reject .nil renameRequest withUser).1.status = 200 ∧
    (withUser.serve renameUser.dialogue).2.tables =
      some ⟨[⟨"Zoë", "Zoë \"Z\" Ray", "zoe@example.com", .newYear2024⟩], [], [], []⟩ := by
  have spells : Spells ['Z', 'o', '%', 'C', '3', '%', 'a', 'b'] [0x5A, 0x6F, 0xC3, 0xAB] :=
    .bare rfl (.bare rfl (.escaped (h := 0xC) (l := 3) rfl rfl
      (.escaped (h := 0xA) (l := 0xB) rfl rfl .nil)))
  have sends : renameUser.Sends .reject renameRequest :=
    { under := trivial
      inRange := trivial
      method := rfl
      target := ⟨by decide, _, spells, rfl⟩
      isJson := Http.Intake.isJson_cons _ _ _ _
      body := by decide
      size := by decide }
  obtain ⟨same, answers, _⟩ := serve_sent sends .nil withUser
  exact ⟨same, (answers ⟨"Zoë", "Zoë \"Z\" Ray", "zoe@example.com", .newYear2024⟩ rfl).1, rfl⟩

end Passbook
