/-
**What can be read of a request.**

An action reads a few parts of its request: a text or a number in the path, a form in the query, a
record in the body.

* `Part`, `Action.parts` — what an action reads.
* `Part.Legible` — what can be read there; `Part.WellFormed` — nothing follows it where it is a
  record in the body.
* `Part.wellFormed_body_iff` — the whole body is then read as the record.
* **`Intake.reported_text`**, `reported_number`, `reported_query`, `reported_body` — each part is
  read just when it is legible, and makes the request invalid otherwise.
-/

import Passbook.Proofs.Form.Filled
import Passbook.Proofs.Service.Sending
import Passbook.Proofs.Text.Numeral
import Passbook.Proofs.Text.Utf8

namespace Passbook

open Text (IntegerRange)

variable {α : Type}

/-! ### Parts of a request -/

namespace Http

/-- The bytes that a part of a path stands for are those of the text. -/
def Segment.StandsFor (segment : Segment) (text : List Char) : Prop :=
  Text.Utf8.encode text = Text.Percent.decode (Text.Utf8.encode segment)

/-- What an action reads of a request. -/
inductive Part : Type 1 where
  | text (segment : Segment)
  | number (segment : Segment)
  | query {α : Type} (form : Query.TextForm α)
  | body {α : Type} (form : Json.Reader.JsonForm α)

namespace Part

/-- What the request has there can be read. -/
def Legible (request : Request) : Part → Prop
  | text segment => ∃ text, segment.StandsFor text
  | number segment => ∃ text n,
    segment.StandsFor text ∧ Text.Numeral.Spells text n ∧ IntegerRange.int64.contains n = true
  | query form => form.Filled (Internet.Pairs.read request.query)
  | body form => Intake.isJson request = true ∧
    request.body.utf8ByteSize ≤ Intake.greatestBody ∧
      (Json.Document.read request.body).1.Fills form

/-- Nothing but blanks follows the record in the body. -/
def Ended (request : Request) : Part → Prop
  | body _ => (Json.Document.read request.body).2 = true
  | _ => True

/-- What the request has there is what should be there. -/
def WellFormed (request : Request) (part : Part) : Prop :=
  part.Legible request ∧ part.Ended request

end Part

namespace Action

/-- What the action reads. -/
def parts : Action → List Part
  | register => [.body NewUser.form]
  | showUser segment => [.text segment]
  | changeProfile segment => [.text segment, .body ProfilePatch.form]
  | openAccount => [.body NewAccount.form]
  | listAccounts => [.query (AccountListing.form Query.primitives)]
  | showAccount segment | showTransfer segment | showEntry segment => [.number segment]
  | listEntries segment => [.number segment, .query (Page.listingForm Query.primitives)]
  | pay => [.body TransferOrder.form]
  | listTransfers => [.query (TransferListing.form Query.primitives)]

/-- All that the action reads can be read. -/
def Legible (action : Action) (request : Request) : Prop :=
  ∀ part ∈ action.parts, part.Legible request

/-- All that the action reads is as it should be. -/
def WellFormed (action : Action) (request : Request) : Prop :=
  ∀ part ∈ action.parts, part.WellFormed request

/-- A profile in the body can be read, but is refused for what it holds. -/
def Refuses (request : Request) : Action → ProfileError → Prop
  | register, problem => ∃ user,
    (NewUser.reader "CreateUserRequest").runFront request.body = .ok user ∧
      user.validate = .error problem
  | changeProfile _, problem => ∃ patch,
    (ProfilePatch.reader "UpdateUserRequest").runFront request.body = .ok patch ∧
      patch.validate = .error problem
  | _, _ => False

end Action

/-! ### Reading the parts -/

/-- What was read is given, or what could not be read is reported. -/
inductive Reported (legible : Prop) : Except ServiceError α → Prop
  | read (value : α) : legible → Reported legible (.ok value)
  | invalid (reason : String) : ¬ legible → Reported legible (.error (.invalidRequest reason))

/-- A report is told to the caller. -/
theorem Reported.told {legible : Prop} {result : Except ServiceError α}
    (reported : Reported legible result) :
    ∀ error, result = .error error → error.isInternal = false := by
  rintro error rfl
  cases reported with
  | invalid reason _ => rfl

namespace Intake

variable {request : Request}

/-- The text that a part of a path stands for is the one that is read. -/
theorem pathText_eq_ok_iff {name : String} {segment : Segment} {text : String} :
    pathText name segment = .ok text ↔ segment.StandsFor text.toList := by
  rw [Segment.StandsFor, ← Text.Utf8.decode?_eq_some_iff, pathText]
  cases Text.Utf8.decode? (Text.Percent.decode (Text.Utf8.encode segment)) with
  | none => simp
  | some chars =>
    simp only [Except.ok.injEq, Option.some.injEq]
    exact ⟨fun same => same ▸ String.toList_ofList.symm, fun same => same ▸ String.ofList_toList⟩

theorem reported_text (name : String) (segment : Segment) :
    Reported ((Part.text segment).Legible request) (pathText name segment) := by
  cases read : pathText name segment with
  | ok text => exact .read text ⟨text.toList, pathText_eq_ok_iff.mp read⟩
  | error problem =>
    have illegible : ¬ (Part.text segment).Legible request := by
      rintro ⟨text, spelt⟩
      rw [← @String.toList_ofList text] at spelt
      have reads := (@pathText_eq_ok_iff name _ _).mpr spelt
      rw [read] at reads
      cases reads
    unfold pathText at read
    split at read
    · cases read
    · cases read
      exact .invalid _ illegible

theorem reported_number (name : String) (segment : Segment) :
    Reported ((Part.number segment).Legible request) (pathNumber name segment) := by
  unfold pathNumber
  cases read : pathText name segment with
  | error problem =>
    have told := @reported_text request name segment
    rw [read] at told
    cases told with
    | invalid reason illegible =>
      exact .invalid reason fun ⟨text, _, spelt, _⟩ => illegible ⟨text, spelt⟩
  | ok text =>
    have spelt := pathText_eq_ok_iff.mp read
    cases number : Text.Numeral.readInt64 text with
    | ok n =>
      simp only [bind, Except.bind, number]
      exact .read n ⟨text.toList, n, spelt, Text.Numeral.readInt64_eq_ok_iff.mp number⟩
    | error problem =>
      simp only [bind, Except.bind, number]
      refine .invalid _ ?_
      rintro ⟨text', n, spelt', spells⟩
      have same : text' = text.toList :=
        Option.some.inj ((Text.Utf8.decode?_eq_some_iff.mpr spelt').symm.trans
          (Text.Utf8.decode?_eq_some_iff.mpr spelt))
      rw [Text.Numeral.readInt64_eq_ok_iff.mpr (same ▸ spells)] at number
      cases number

theorem reported_query {form : Query.TextForm α} (names : form.names.Nodup) :
    Reported ((Part.query form).Legible request) (query form request) := by
  unfold query Query.read
  cases filled : Query.fillIn (Internet.Pairs.read request.query) form with
  | ok record => exact .read _ ((Query.fillIn_iff names).mp ⟨record, filled⟩)
  | error problem =>
    refine .invalid _ fun legible => ?_
    obtain ⟨record, fills⟩ := (Query.fillIn_iff names).mpr legible
    rw [filled] at fills
    cases fills

theorem reported_body (title : String) {form : Json.Reader.JsonForm α}
    (names : form.names.Nodup) :
    Reported ((Part.body form).Legible request) (body (Json.Reader.struct title form) request) := by
  unfold body
  by_cases json : Intake.isJson request = true
  · rw [if_neg (by simp [json])]
    by_cases long : greatestBody < request.body.utf8ByteSize
    · rw [if_pos long]
      exact .invalid _ fun legible => absurd legible.2.1 (Nat.not_le.mpr long)
    rw [if_neg long]
    cases reads : (Json.Reader.struct title form).runFront request.body with
    | ok record =>
      exact .read _ ⟨json, Nat.not_lt.mp long, (Json.Reader.struct_iff names).mp ⟨record, reads⟩⟩
    | error problem =>
      refine .invalid _ fun legible => ?_
      obtain ⟨record, fills⟩ := (@Json.Reader.struct_iff _ title _ names _).mpr legible.2.2
      rw [Json.Reader.runFront, fills] at reads
      cases reads
  · rw [if_pos (by simpa using json)]
    exact .invalid _ fun legible => json legible.1

end Intake

/-- **The record in a body** is what should be there just when the whole body is read as one. -/
theorem Part.wellFormed_body_iff {request : Request} (title : String)
    {form : Json.Reader.JsonForm α} (names : form.names.Nodup) :
    (Part.body form).WellFormed request ↔ Intake.isJson request = true ∧
      request.body.utf8ByteSize ≤ Intake.greatestBody ∧
        ∃ record, (Json.Reader.struct title form).run request.body = .ok record := by
  have fills := @Json.Reader.struct_iff _ title _ names (Json.Document.read request.body).1
  constructor
  · rintro ⟨⟨json, size, filled⟩, ended⟩
    obtain ⟨record, reads⟩ := fills.mpr filled
    exact ⟨json, size, record, Json.Reader.run_of_document reads ended⟩
  · rintro ⟨json, size, record, reads⟩
    obtain ⟨found, ended⟩ := Json.Reader.document_of_run reads
    exact ⟨⟨json, size, fills.mp ⟨record, found⟩⟩, ended⟩

end Http

end Passbook
