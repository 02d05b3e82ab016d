/-
**Records and requests come back as they were read.**

A text may spell a record in many ways: as an object or an array, with its members in any order and
others among them, with escapes in its strings, and with its instants at any offset. What is written
for the record has one spelling, and it is read as the same record.

* `Time.Instant.faithful`, `Amount.faithful`, `Currency.faithful`, `SelfTransferPolicy.faithful` —
  the values of their own types.
* `User.faithful`, `Account.faithful`, `Entry.faithful`, `Transfer.faithful`,
  `Settlement.faithful` — the stored records, from the values of their fields.
* `NewUser.faithful`, `ProfilePatch.faithful`, `NewAccount.faithful`, `TransferOrder.faithful` — the
  requests.
* `Amount.made_of_run`, `Currency.made_of_run` — no text gets an amount or a currency past its own
  type.
* **`decoded_round_trip`** — all of them over whole texts.
-/

import Passbook.Order.Json
import Passbook.Proofs.Json.Decoded
import Passbook.Proofs.Time.Rfc3339

namespace Passbook

open Json (Value Reader)
open Json.Reader (Faithful RoundTrips)
open Time (Instant)

/-! ### Values of their own types -/

namespace Time.Instant

theorem read_document {instant : Instant} (known : Rfc3339.knownYear instant.date.year = true) :
    Json.Reader.instant instant.toJson.document = .ok instant := by
  unfold toJson Value.document Json.Reader.instant
  simp only [Rfc3339.read_write known]

theorem faithful : Json.Reader.instant.Faithful toJson := by
  intro instant yields
  obtain ⟨document, _, reads⟩ := yields
  unfold Json.Reader.instant at reads
  split at reads
  · split at reads
    · rename_i told
      cases reads
      refine ⟨?_, read_document (Rfc3339.knownYear_of_read told)⟩
      unfold toJson
      trivial
    · cases reads
  · unfold Reader.wrongType at reads
    split at reads <;> cases reads

end Time.Instant

theorem Amount.faithful : Amount.reader.Faithful Amount.toJson := by
  refine Faithful.int64.checked fun n amount made => ?_
  rw [toJson, value_of_ofInt (mapError_eq_ok.mp made)]

theorem Currency.faithful : Currency.reader.Faithful Currency.toJson := by
  refine Faithful.text.checked fun text currency made => ?_
  rw [toJson, code_of_ofCode (mapError_eq_ok.mp made)]

theorem SelfTransferPolicy.faithful :
    SelfTransferPolicy.reader.Faithful SelfTransferPolicy.toJson := by
  intro policy _
  cases policy <;> exact ⟨trivial, rfl⟩

/-! ### Stored records -/

theorem User.faithful : User.reader.Faithful User.toJson := by
  refine Faithful.struct (by decide) ?_
  intro createdAt instant email _ fullName _ username _
  obtain ⟨fits, created⟩ := Time.Instant.faithful createdAt instant.was_read
  refine ⟨⟨trivial, trivial, trivial, fits, trivial⟩, ?_⟩
  simp [form, created]

theorem Account.faithful : Account.reader.Faithful Account.toJson := by
  refine Faithful.struct (by decide) ?_
  intro createdAt instant currency code balance sum owner _ id key
  obtain ⟨created_fits, created⟩ := Time.Instant.faithful createdAt instant.was_read
  obtain ⟨code_fits, held⟩ := Currency.faithful currency code.was_read
  obtain ⟨balance_fits, stands⟩ := Faithful.int64 balance sum.was_read
  obtain ⟨id_fits, named⟩ := Faithful.int64 id key.was_read
  refine ⟨⟨id_fits, trivial, balance_fits, code_fits, created_fits, trivial⟩, ?_⟩
  simp [form, created, held, stands, named]

theorem Transfer.faithful : Transfer.reader.Faithful Transfer.toJson := by
  refine Faithful.struct (by decide) ?_
  intro createdAt instant amount sum target receiver source sender id key
  obtain ⟨created_fits, created⟩ := Time.Instant.faithful createdAt instant.was_read
  obtain ⟨amount_fits, moved⟩ := Faithful.int64 amount sum.was_read
  obtain ⟨target_fits, reaches⟩ := Faithful.int64 target receiver.was_read
  obtain ⟨source_fits, leaves⟩ := Faithful.int64 source sender.was_read
  obtain ⟨id_fits, named⟩ := Faithful.int64 id key.was_read
  refine ⟨⟨id_fits, source_fits, target_fits, amount_fits, created_fits, trivial⟩, ?_⟩
  simp [form, created, moved, reaches, leaves, named]

theorem Entry.faithful : Entry.reader.Faithful Entry.toJson := by
  refine Faithful.struct (by decide) ?_
  intro createdAt instant amount sum account side transfer moved id key
  obtain ⟨created_fits, created⟩ := Time.Instant.faithful createdAt instant.was_read
  obtain ⟨amount_fits, adds⟩ := Faithful.int64 amount sum.was_read
  obtain ⟨account_fits, stands⟩ := Faithful.int64 account side.was_read
  obtain ⟨transfer_fits, belongs⟩ := Faithful.int64 transfer moved.was_read
  obtain ⟨id_fits, named⟩ := Faithful.int64 id key.was_read
  refine ⟨⟨id_fits, transfer_fits, account_fits, amount_fits, created_fits, trivial⟩, ?_⟩
  simp [form, created, adds, stands, belongs, named]

theorem Settlement.faithful : Settlement.reader.Faithful Settlement.toJson := by
  refine Faithful.struct (by decide) ?_
  intro target receiver source sender credit credited debit debited transfer moved
  obtain ⟨target_fits, reaches⟩ := Account.faithful target receiver.was_read
  obtain ⟨source_fits, leaves⟩ := Account.faithful source sender.was_read
  obtain ⟨credit_fits, credits⟩ := Entry.faithful credit credited.was_read
  obtain ⟨debit_fits, debits⟩ := Entry.faithful debit debited.was_read
  obtain ⟨transfer_fits, moves⟩ := Transfer.faithful transfer moved.was_read
  refine ⟨⟨transfer_fits, debit_fits, credit_fits, source_fits, target_fits, trivial⟩, ?_⟩
  simp [form, reaches, leaves, credits, debits, moves]

/-! ### Requests -/

theorem NewUser.faithful (title : String) : (NewUser.reader title).Faithful NewUser.toJson := by
  refine Faithful.struct (by decide) ?_
  intro email _ fullName _ username _
  exact ⟨⟨trivial, trivial, trivial, trivial⟩, by simp [form]⟩

/-- What is left out is read as not given, also where it was given as null. -/
theorem ProfilePatch.faithful (title : String) :
    (ProfilePatch.reader title).Faithful ProfilePatch.toJson := by
  refine Faithful.struct (by decide) ?_
  intro email _ fullName _
  rcases fullName with _ | fullName <;> rcases email with _ | email
  · exact ⟨trivial, rfl⟩
  · exact ⟨⟨trivial, trivial⟩, rfl⟩
  · exact ⟨⟨trivial, trivial⟩, rfl⟩
  · exact ⟨⟨trivial, trivial, trivial⟩, rfl⟩

theorem NewAccount.faithful (title : String) :
    (NewAccount.reader title).Faithful NewAccount.toJson := by
  refine Faithful.struct (by decide) ?_
  intro currency _ owner _
  exact ⟨⟨trivial, trivial, trivial⟩, by simp [form]⟩

theorem TransferOrder.faithful (title : String) :
    (TransferOrder.reader title).Faithful TransferOrder.toJson := by
  refine Faithful.struct (by decide) ?_
  intro currency _ amount sum target receiver source sender
  obtain ⟨amount_fits, moved⟩ := Faithful.int64 amount sum.was_read
  obtain ⟨target_fits, reaches⟩ := Faithful.int64 target receiver.was_read
  obtain ⟨source_fits, leaves⟩ := Faithful.int64 source sender.was_read
  refine ⟨⟨source_fits, target_fits, amount_fits, trivial, trivial⟩, ?_⟩
  simp [form, moved, reaches, leaves]

/-! ### Whole texts -/

/-- An amount in a text is an integer that its type accepts. -/
theorem Amount.made_of_run {text : String} {amount : Amount}
    (reads : Amount.reader.run text = .ok amount) :
    ∃ n, Json.Reader.int64.run text = .ok n ∧ ofInt n = .ok amount := by
  obtain ⟨n, found, made⟩ := Reader.run_checked reads
  exact ⟨n, found, mapError_eq_ok.mp made⟩

/-- A currency in a text is the text of a code. -/
theorem Currency.made_of_run {text : String} {currency : Currency}
    (reads : Currency.reader.run text = .ok currency) :
    ∃ code, Json.Reader.text.run text = .ok code ∧ ofCode code = .ok currency := by
  obtain ⟨code, found, made⟩ := Reader.run_checked reads
  exact ⟨code, found, mapError_eq_ok.mp made⟩

/-- **Whatever a text is decoded to is decoded again** from the text that is written for it, with
every field as it was; and an amount or a currency is one that its own type makes of what stands
in the text. The requests go by any title. -/
theorem decoded_round_trip (title : String) :
    (User.reader.RoundTrips User.toJson ∧ Account.reader.RoundTrips Account.toJson ∧
      Entry.reader.RoundTrips Entry.toJson ∧ Transfer.reader.RoundTrips Transfer.toJson ∧
      Settlement.reader.RoundTrips Settlement.toJson) ∧
    (Amount.reader.RoundTrips Amount.toJson ∧ Currency.reader.RoundTrips Currency.toJson ∧
      SelfTransferPolicy.reader.RoundTrips SelfTransferPolicy.toJson) ∧
    ((NewUser.reader title).RoundTrips NewUser.toJson ∧
      (ProfilePatch.reader title).RoundTrips ProfilePatch.toJson ∧
      (NewAccount.reader title).RoundTrips NewAccount.toJson ∧
      (TransferOrder.reader title).RoundTrips TransferOrder.toJson) ∧
    (∀ text amount, Amount.reader.run text = .ok amount →
      ∃ n, Json.Reader.int64.run text = .ok n ∧ Amount.ofInt n = .ok amount) ∧
    (∀ text currency, Currency.reader.run text = .ok currency →
      ∃ code, Json.Reader.text.run text = .ok code ∧ Currency.ofCode code = .ok currency) :=
  ⟨⟨User.faithful.roundTrips, Account.faithful.roundTrips, Entry.faithful.roundTrips,
      Transfer.faithful.roundTrips, Settlement.faithful.roundTrips⟩,
    ⟨Amount.faithful.roundTrips, Currency.faithful.roundTrips,
      SelfTransferPolicy.faithful.roundTrips⟩,
    ⟨(NewUser.faithful title).roundTrips, (ProfilePatch.faithful title).roundTrips,
      (NewAccount.faithful title).roundTrips, (TransferOrder.faithful title).roundTrips⟩,
    fun _ _ => Amount.made_of_run, fun _ _ => Currency.made_of_run⟩

/-- An account by position: an escape in its owner, and a leap second told two hours ahead. -/
def accountByPosition : String :=
  "[7, \"Zo\\u00eb\", -5, \"EUR\", \"2015-07-01 1:59:60.25+02:00\"]"

def leapAccount : Account where
  id := 7
  owner := "Zoë"
  balance := -5
  currency := .eur
  createdAt := ⟨⟨2015, 6, 30, by decide, by decide, by decide, by decide⟩, 86399, 1250000000,
    by decide, by decide, fun _ => rfl⟩

theorem run_accountByPosition : Account.reader.run accountByPosition = .ok leapAccount :=
  eq_ok_of_toOption (by decide +kernel)

/-- It is decoded, and so is the text that is written for it, to the same account. -/
theorem decoded_round_trip_leap :
    Account.reader.run accountByPosition = .ok leapAccount ∧
    leapAccount.toJson.write = "\x7b\"id\":7,\"owner\":\"Zoë\",\"balance\":-5," ++
      "\"currency\":\"EUR\",\"created_at\":\"2015-06-30T23:59:60.250Z\"\x7d" ∧
    Account.reader.run leapAccount.toJson.write = .ok leapAccount :=
  ⟨run_accountByPosition, by decide +kernel,
    (decoded_round_trip "").1.2.1 _ _ run_accountByPosition⟩

end Passbook
