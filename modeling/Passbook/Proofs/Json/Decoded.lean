/-
**Records are read as they were written, however they were first spelled.**

A reader takes many texts for one value, and the value has one written form. `Reader.Faithful` says
of the two that whatever a reader gives is read again from the document of its written form.

* `Document.inRange_read` — the negative integers in a text that is read are those of 64 bits.
* `Reader.Yields` — a value that a reader gives; `Faithful.int64`, `Faithful.text`,
  `Faithful.checked`, `Faithful.struct` — the readers that records are read with.
* **`Reader.struct_always`** — a record that is read is one that its form can be filled in to.
* **`Reader.Faithful.roundTrips`** — over whole texts.
-/

import Passbook.Proofs.Form
import Passbook.Proofs.Json.Written

namespace Passbook.Json

open Text (IntegerRange)

variable {α β : Type}

/-! ### Integers in a text -/

/-- A negative integer is one of 64 bits. -/
def Number.InRange : Number → Prop
  | negative n => IntegerRange.int64.contains n = true
  | unsigned _ | float _ | outOfRange => True

theorem Number.inRange_ofBinary (negative : Bool) (x : Option Decimal.Binary64) :
    (Number.ofBinary negative x).InRange := by
  cases x <;> trivial

theorem Number.inRange_ofWhole (negative : Bool) (n : Nat) :
    (Number.ofWhole negative n).InRange := by
  unfold Number.ofWhole
  split
  · trivial
  · split
    · rename_i size
      have signed : Nat.pow 2 63 = 9223372036854775808 := rfl
      exact IntegerRange.int64_contains.mpr ⟨by omega, by omega⟩
    · exact inRange_ofBinary _ _

theorem inRange_of_number? {negative : Bool} {text rest : List Char} {n : Number}
    (reads : number? negative text = some (n, rest)) : n.InRange := by
  have scaled : ∀ {x text}, (exponentPart x text).bind
      (fun read => some (Number.ofBinary negative read.1, read.2)) = some (n, rest) →
        n.InRange := by
    intro x text reads
    obtain ⟨⟨value, rest⟩, _, reads⟩ := Option.bind_eq_some_iff.mp reads
    cases reads
    exact Number.inRange_ofBinary _ _
  unfold number? at reads
  extract_lets after at reads
  -- whatever the digits before the point are, the number goes on after them
  have goes_on : ∀ {whole : Option (Scientific × List Char)},
      whole.bind after = some (n, rest) → n.InRange := by
    intro whole reads
    obtain ⟨⟨whole, rest⟩, _, reads⟩ := Option.bind_eq_some_iff.mp reads
    dsimp only [after] at reads
    split at reads
    · split at reads
      · cases reads
      · split at reads
        · cases reads
        · exact scaled reads
    · exact scaled reads
    · exact scaled reads
    · split at reads
      · cases reads
        exact Number.inRange_ofWhole _ _
      · cases reads
        exact Number.inRange_ofBinary _ _
  split at reads
  · split at reads
    · split at reads <;> exact goes_on reads
    · exact goes_on reads
  · split at reads <;> exact goes_on reads
  · exact goes_on reads

namespace Document

mutual

/-- The negative integers in the document are those of 64 bits. -/
def InRange : Document → Prop
  | number n => n.InRange
  | array items _ => AllInRange items
  | object members _ => MembersInRange members
  | null | bool _ | string _ | broken => True

def AllInRange : List Document → Prop
  | [] => True
  | item :: items => InRange item ∧ AllInRange items

def MembersInRange : List (Option String × Document) → Prop
  | [] => True
  | (_, value) :: members => InRange value ∧ MembersInRange members

end

theorem inRange_of_mem {items : List Document} (inRange : AllInRange items) :
    ∀ item ∈ items, item.InRange := by
  induction items with
  | nil => exact fun _ member => by cases member
  | cons first items ih => exact List.forall_mem_cons.mpr ⟨inRange.1, ih inRange.2⟩

theorem inRange_parts (fuel : Nat) :
    (∀ text, (value fuel text).1.InRange) ∧ (∀ text, AllInRange (items fuel text).1) ∧
      ∀ text, MembersInRange (members fuel text).1 := by
  induction fuel with
  | zero => exact ⟨fun _ => trivial, fun _ => trivial, fun _ => trivial⟩
  | succ fuel ih =>
    obtain ⟨value, items, members⟩ := ih
    refine ⟨fun text => ?_, fun text => ?_, fun text => ?_⟩
    · unfold Document.value
      split
      · trivial
      · trivial
      · trivial
      · split <;> trivial
      · split
        · trivial
        · exact items _
      · split
        · trivial
        · exact members _
      · split
        · rename_i reads
          exact inRange_of_number? reads
        · trivial
      · split
        · rename_i reads
          exact inRange_of_number? reads
        · trivial
    · unfold Document.items
      dsimp only
      split
      · exact ⟨value _, items _⟩
      · exact ⟨value _, trivial⟩
      · exact ⟨value _, trivial⟩
    · unfold Document.members
      split
      · split
        · trivial
        · split
          · dsimp only
            split
            · exact ⟨value _, members _⟩
            · exact ⟨value _, trivial⟩
            · exact ⟨value _, trivial⟩
          · exact ⟨trivial, trivial⟩
      · trivial

/-- **The negative integers in a text are those of 64 bits.** -/
theorem inRange_read (text : String) : (Document.read text).1.InRange := by
  unfold Document.read
  exact (inRange_parts _).1 _

end Document

namespace Reader

open Form (Always Holds)
open Value (MembersFit memberDocuments)

/-! ### Values that are read -/

/-- The reader gives the value for some document of a text. -/
def Yields (reader : Reader α) (value : α) : Prop :=
  ∃ document : Document, document.InRange ∧ reader document = .ok value

theorem document_of_run {reader : Reader α} {text : String} {value : α}
    (reads : reader.run text = .ok value) :
    reader (Document.read text).1 = .ok value ∧ (Document.read text).2 = true := by
  unfold run at reads
  dsimp only at reads
  split at reads
  · cases reads
  · rename_i found
    split at reads
    · rename_i finished
      cases reads
      exact ⟨found, finished⟩
    · cases reads

theorem run_of_document {reader : Reader α} {text : String} {value : α}
    (reads : reader (Document.read text).1 = .ok value)
    (finished : (Document.read text).2 = true) : reader.run text = .ok value := by
  unfold run
  simp only [reads, finished, if_true]

theorem yields_of_run {reader : Reader α} {text : String} {value : α}
    (reads : reader.run text = .ok value) : reader.Yields value :=
  ⟨_, Document.inRange_read text, (document_of_run reads).1⟩

/-- What is read of a value that its type may refuse. -/
theorem checked_eq_ok {reader : Reader α} {certify : α → Except String β} {document : Document}
    {certified : β} : reader.checked certify document = .ok certified ↔
      ∃ value, reader document = .ok value ∧ certify value = .ok certified := by
  unfold checked
  constructor
  · intro reads
    split at reads
    · cases reads
    · rename_i value found
      split at reads
      · rename_i certifies
        cases reads
        exact ⟨value, found, certifies⟩
      · cases reads
  · rintro ⟨value, found, certifies⟩
    simp only [found, certifies]

/-- A text is read as what its type makes of the value that stands in it. -/
theorem run_checked {reader : Reader α} {certify : α → Except String β} {text : String}
    {certified : β} (reads : (reader.checked certify).run text = .ok certified) :
    ∃ value, reader.run text = .ok value ∧ certify value = .ok certified := by
  obtain ⟨found, finished⟩ := document_of_run reads
  obtain ⟨value, found, certifies⟩ := checked_eq_ok.mp found
  exact ⟨value, run_of_document found finished, certifies⟩

/-- Whatever the reader gives is read from the document of its written form. -/
def Faithful (reader : Reader α) (toJson : α → Value) : Prop :=
  ∀ value, reader.Yields value →
    (toJson value).Fits ∧ reader (toJson value).document = .ok value

/-- Whatever the reader gives for a text is read again, from the text that is written for it. -/
def RoundTrips (reader : Reader α) (toJson : α → Value) : Prop :=
  ∀ text value, reader.run text = .ok value → reader.run (toJson value).write = .ok value

/-- What is written for a value is read as its document is. -/
theorem run_write (reader : Reader α) {v : Value} (fits : v.Fits) :
    reader.run v.write = reader v.document := by
  rw [run, Document.read_write fits]
  dsimp only
  cases reader v.document <;> rfl

/-- **What a faithful reader gives for a text** is read again. -/
theorem Faithful.roundTrips {reader : Reader α} {toJson : α → Value}
    (faithful : reader.Faithful toJson) : reader.RoundTrips toJson := by
  intro text value reads
  obtain ⟨fits, again⟩ := faithful value (yields_of_run reads)
  exact (run_write reader fits).trans again

theorem contains_of_int64 {n : Int} (yields : int64.Yields n) :
    IntegerRange.int64.contains n = true := by
  obtain ⟨document, inRange, reads⟩ := yields
  unfold int64 at reads
  split at reads
  · split at reads
    · rename_i small
      have signed : Nat.pow 2 63 = 9223372036854775808 := rfl
      cases reads
      exact IntegerRange.int64_contains.mpr ⟨by omega, by omega⟩
    · cases reads
  · cases reads
    exact inRange
  · unfold wrongType at reads
    split at reads <;> cases reads

theorem Faithful.int64 : Faithful int64 .int := by
  intro n yields
  have inRange := contains_of_int64 yields
  exact ⟨Value.fits_int inRange, int64_document inRange⟩

@[simp] theorem text_document (value : String) :
    Reader.text (Value.string value).document = .ok value := rfl

theorem Faithful.text : Faithful text .string :=
  fun value _ => ⟨trivial, text_document value⟩

/-- A value that its own type may refuse is written as what it was made from. -/
theorem Faithful.checked {reader : Reader α} {write : α → Value} {certify : α → Except String β}
    {toJson : β → Value} (faithful : reader.Faithful write)
    (made : ∀ value certified, certify value = .ok certified → toJson certified = write value) :
    (reader.checked certify).Faithful toJson := by
  intro certified yields
  obtain ⟨document, inRange, reads⟩ := yields
  obtain ⟨value, found, certifies⟩ := checked_eq_ok.mp reads
  obtain ⟨fits, again⟩ := faithful value ⟨document, inRange, found⟩
  rw [made value certified certifies]
  exact ⟨fits, checked_eq_ok.mpr ⟨value, again, certifies⟩⟩

/-! ### Records -/

section Records

variable {title : String} {form : JsonForm α} {good : α → Prop} {record : α}

theorem fillIn_always {members : List (Option String × Document)} {closed : Bool}
    (always : form.Always Document.InRange good) (inRange : Document.MembersInRange members)
    (fills : fillIn title members closed form = .ok record) : good record := by
  induction members generalizing form with
  | nil =>
    cases closed with
    | false => cases fills
    | true => exact always.finish (mapError_eq_ok.mp fills)
  | cons member rest ih =>
    obtain ⟨_ | key, value⟩ := member
    · cases fills
    · unfold fillIn at fills
      split at fills
      · split at fills
        · exact ih always inRange.2 fills
        · cases fills
      · cases fills
      · rename_i next accepted
        exact ih (always.accept inRange.1 accepted) inRange.2 fills

/-- **A record that is read** is one that its form can be filled in to. -/
theorem struct_always (always : form.Always Document.InRange good)
    (yields : (struct title form).Yields record) : good record := by
  obtain ⟨document, inRange, reads⟩ := yields
  unfold struct at reads
  split at reads
  · exact fillIn_always always inRange reads
  · unfold fillInOrder at reads
    split at reads
    · rename_i filled
      split at reads
      · cases reads
        exact always.fillInOrder (Document.inRange_of_mem inRange) filled
      · cases reads
    · split at reads <;> cases reads
    · cases reads
  · unfold wrongType at reads
    split at reads <;> cases reads

theorem fillIn_of_acceptAll {last : JsonForm α} {values : List (String × Document)}
    (accepts : form.acceptAll values = some last) (finishes : last.finish = .ok record) :
    fillIn title (values.map fun value => (some value.1, value.2)) true form = .ok record := by
  induction values generalizing form with
  | nil =>
    cases accepts
    exact mapError_eq_ok.mpr finishes
  | cons first values ih =>
    obtain ⟨name, value⟩ := first
    unfold Form.acceptAll at accepts
    split at accepts
    · rename_i next accepted
      rw [List.map_cons, fillIn, accepted]
      exact ih accepts
    · cases accepts

/-- The members of an object as values for a form. -/
def valuesOf (members : List (String × Value)) : List (String × Document) :=
  members.map fun member => (member.1, member.2.document)

@[simp] theorem valuesOf_nil : valuesOf [] = [] := rfl

@[simp] theorem valuesOf_cons (key : String) (v : Value) (members : List (String × Value)) :
    valuesOf ((key, v) :: members) = (key, v.document) :: valuesOf members := rfl

theorem memberDocuments_eq (members : List (String × Value)) :
    memberDocuments members = (valuesOf members).map fun value => (some value.1, value.2) := by
  induction members with
  | nil => rfl
  | cons member members ih =>
    rw [memberDocuments, ih]
    rfl

/-- Members that stand in the order of the fields are read as the record of them. -/
theorem struct_object {members : List (String × Value)} (names : form.names.Nodup)
    (fills : form.inOrder (valuesOf members) = some record) :
    struct title form (Value.object members).document = .ok record := by
  obtain ⟨last, accepts, finishes⟩ := Form.acceptAll_of_inOrder names fills
  show fillIn title (memberDocuments members) true form = _
  rw [memberDocuments_eq, fillIn_of_acceptAll accepts finishes]

/-- **A record is read faithfully** when its members, written in the order of its fields, fill in
its form again. -/
theorem Faithful.struct {members : α → List (String × Value)} (names : form.names.Nodup)
    (each : form.Always Document.InRange fun record =>
      MembersFit (members record) ∧ form.inOrder (valuesOf (members record)) = some record) :
    (struct title form).Faithful fun record => .object (members record) := by
  intro record yields
  obtain ⟨fits, fills⟩ := struct_always each yields
  exact ⟨fits, struct_object names fills⟩

end Records

end Reader

end Passbook.Json
