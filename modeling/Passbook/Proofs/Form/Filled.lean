/-
**What fills in a form.**

* `Form.Filled values form` — every field of the form is named by one value at most, which can be
  read, and by one if it must be given; values under other names do not count.
* `Form.accepts` — what becomes of this when a value is accepted; `Form.finish_iff` — the end.
* **`Http.Query.fillIn_iff`** — a form is filled in from the pairs of a query just when they fill
  it.
* **`Json.Reader.struct_iff`** — a record is read from a document just when the document fills its
  form: as an object in which these values are the members, or as an array of the fields in their
  order (`Form.FilledInOrder`).
-/

import Passbook.Http.Query
import Passbook.Proofs.Form

namespace Passbook

namespace Form

variable {Source ε α β : Type}

/-- The values under a name. -/
def under (name : String) (values : List (String × Source)) : List Source :=
  (values.filter fun value => value.1 = name).map (·.2)

/-- The values suffice for a field: there is one that can be read, or none where none is needed. -/
def Suffice (read : Source → Except ε β) (absent : Absent β) : Option β → List Source → Prop
  | none, [] => absent.value?.isSome
  | none, [value] => ∃ given, read value = .ok given
  | some _, [] => True
  | _, _ => False

/-- The values suffice for every field. -/
def Filled (values : List (String × Source)) : {α : Type} → Form Source ε α → Prop
  | _, .done _ => True
  | _, .field name read absent found rest =>
    Suffice read absent found (under name values) ∧ rest.Filled values

section Values

variable {name own : String} {value : Source} {values : List (String × Source)}
  {form : Form Source ε α}

theorem under_cons_own : under own ((own, value) :: values) = value :: under own values := by
  rw [under, List.filter_cons_of_pos (by simp)]
  rfl

theorem under_cons_other (other : own ≠ name) :
    under own ((name, value) :: values) = under own values := by
  rw [under, List.filter_cons_of_neg (by simpa using Ne.symm other)]
  rfl

/-- A value under another name does not count. -/
theorem filled_cons_other (other : name ∉ form.names) :
    form.Filled ((name, value) :: values) ↔ form.Filled values := by
  induction form with
  | done record => exact Iff.rfl
  | field own read absent found rest ih =>
    obtain ⟨apart, others⟩ := List.ne_and_not_mem_of_not_mem_cons other
    rw [Filled, Filled, under_cons_other apart.symm, ih others]

/-- What becomes of a form that is given a value: it is left out of account, or no other values make
up for it, or it fills its field and the others must fill the rest. -/
inductive Accepts (form : Form Source ε α) (name : String) (value : Source) : Prop
  | unknown : form.accept name value = none → name ∉ form.names → Accepts form name value
  | never (problem : FormError ε) : form.accept name value = some (.error problem) →
    name ∈ form.names → (∀ values, ¬ form.Filled ((name, value) :: values)) →
    Accepts form name value
  | filling (next : Form Source ε α) : form.accept name value = some (.ok next) →
    name ∈ form.names → next.names = form.names →
    (∀ values, form.Filled ((name, value) :: values) ↔ next.Filled values) →
    Accepts form name value

/-- A value for the first field. -/
theorem accepts_own {read : Source → Except ε β} {absent : Absent β} {found : Option β}
    {rest : Form Source ε (β → α)} (new : own ∉ rest.names) (value : Source) :
    Accepts (.field own read absent found rest) own value := by
  have filled : ∀ values, (Form.field own read absent found rest).Filled
      ((own, value) :: values) ↔ Suffice read absent found (value :: under own values) ∧
        rest.Filled values := fun values => by
    rw [Filled, under_cons_own, filled_cons_other new]
  cases found with
  | some given =>
    refine .never (.duplicate own) ?_ List.mem_cons_self fun values all => ?_
    · rw [accept, if_pos rfl]
    · exact ((filled values).mp all).1
  | none =>
    cases reads : read value with
    | error problem =>
      refine .never (.unreadable own problem) ?_ List.mem_cons_self fun values all => ?_
      · rw [accept, if_pos rfl, reads]
      · have enough := ((filled values).mp all).1
        cases others : under own values with
        | nil =>
          rw [others] at enough
          obtain ⟨given, succeeds⟩ := enough
          rw [reads] at succeeds
          cases succeeds
        | cons second more =>
          rw [others] at enough
          exact enough
    | ok given =>
      refine .filling (.field own read absent (some given) rest) (accept_own reads)
        List.mem_cons_self rfl fun values => ?_
      rw [filled, Filled]
      cases under own values with
      | nil => exact and_congr_left fun _ => iff_of_true ⟨given, reads⟩ trivial
      | cons second more => exact Iff.rfl

/-- **A value that comes first** fills its field if it has one, or spoils the form. -/
theorem accepts (names : form.names.Nodup) (name : String) (value : Source) :
    form.Accepts name value := by
  induction form with
  | done record => exact .unknown rfl List.not_mem_nil
  | field own read absent found rest ih =>
    obtain ⟨new, later⟩ := List.nodup_cons.mp names
    by_cases same : own = name
    · exact same ▸ accepts_own new value
    have kept : ∀ values, (Form.field own read absent found rest).Filled
        ((name, value) :: values) ↔
          Suffice read absent found (under own values) ∧ rest.Filled ((name, value) :: values) :=
      fun values => by rw [Filled, under_cons_other same]
    cases ih later with
    | unknown left other =>
      refine .unknown ?_ (List.not_mem_cons_of_ne_of_not_mem (Ne.symm same) other)
      unfold accept
      rw [if_neg same, left]
    | never problem refused among never =>
      refine .never problem ?_ (List.mem_cons_of_mem _ among) fun values all => ?_
      · unfold accept
        rw [if_neg same, refused]
      · exact never values ((kept values).mp all).2
    | filling next accepted among sameNames filled =>
      refine .filling (.field own read absent found next) (accept_other same accepted)
        (List.mem_cons_of_mem _ among) (congrArg (own :: ·) sameNames) fun values => ?_
      rw [kept, Filled, filled]

/-- A form is finished just when nothing more is needed. -/
theorem finish_iff : (∃ record, form.finish = .ok record) ↔ form.Filled [] := by
  induction form with
  | done record => exact iff_of_true ⟨record, rfl⟩ trivial
  | field name read absent found rest ih =>
    have given : ∀ standing, (∃ record, rest.finish.map (· standing) = .ok record) ↔
        rest.Filled [] := fun standing => by
      rw [← ih]
      constructor
      · rintro ⟨record, finishes⟩
        obtain ⟨function, finishes, -⟩ := map_eq_ok.mp finishes
        exact ⟨function, finishes⟩
      · rintro ⟨function, finishes⟩
        exact ⟨function standing, map_eq_ok.mpr ⟨function, finishes, rfl⟩⟩
    cases found with
    | some standing => exact (given standing).trans (and_iff_right trivial).symm
    | none =>
      cases absent with
      | missing =>
        exact iff_of_false nofun fun all => nomatch all.1
      | optional standing | standard standing =>
        exact (given standing).trans (and_iff_right rfl).symm

end Values

/-! ### Values by position -/

/-- The values are those of the fields in their order, as far as they go; fields that may be left
out even there are left. -/
def FilledInOrder : {α : Type} → Form Source ε α → List Source → Prop
  | _, .done _, values => values = []
  | _, .field _ read _ _ rest, value :: values =>
    (∃ given, read value = .ok given) ∧ rest.FilledInOrder values
  | _, .field _ _ absent _ rest, [] =>
    (∃ standing, absent = .standard standing) ∧ rest.FilledInOrder []

theorem fillInOrder_iff {form : Form Source ε α} {given : Nat} {values : List Source} :
    (∃ record, form.fillInOrder given values = .ok (record, [])) ↔ form.FilledInOrder values := by
  induction form generalizing given values with
  | done record =>
    constructor
    · rintro ⟨_, fills⟩
      cases fills
      rfl
    · rintro rfl
      exact ⟨record, rfl⟩
  | field name read absent found rest ih =>
    have filled : ∀ standing values, (∃ record, (rest.fillInOrder (given + 1) values).map
        (fun filled => (filled.1 standing, filled.2)) = .ok (record, [])) ↔
          rest.FilledInOrder values := fun standing values => by
      rw [← @ih (given + 1)]
      constructor
      · rintro ⟨record, filled⟩
        obtain ⟨⟨function, left⟩, fills, same⟩ := map_eq_ok.mp filled
        cases same
        exact ⟨function, fills⟩
      · rintro ⟨function, fills⟩
        exact ⟨function standing, map_eq_ok.mpr ⟨_, fills, rfl⟩⟩
    cases values with
    | cons value values =>
      rw [fillInOrder, FilledInOrder]
      cases reads : read value with
      | error problem =>
        exact iff_of_false nofun nofun
      | ok standing => exact (filled standing values).trans (and_iff_right ⟨standing, rfl⟩).symm
    | nil =>
      cases absent with
      | standard standing =>
        exact (filled standing []).trans (and_iff_right ⟨standing, rfl⟩).symm
      | missing | optional _ =>
        exact iff_of_false nofun nofun

end Form

/-! ### Queries -/

/-- **A form is filled in from pairs** just when they fill it. -/
theorem Http.Query.fillIn_iff {form : TextForm α} (names : form.names.Nodup)
    {values : List (String × String)} :
    (∃ record, fillIn values form = .ok record) ↔ form.Filled values := by
  induction values generalizing form with
  | nil => exact Form.finish_iff
  | cons first values ih =>
    obtain ⟨name, value⟩ := first
    rw [fillIn]
    cases form.accepts names name value with
    | unknown left other =>
      simp only [left]
      exact (ih names).trans (Form.filled_cons_other other).symm
    | never problem refused among never =>
      simp only [refused]
      exact iff_of_false nofun (never values)
    | filling next accepted among same filled =>
      simp only [accepted]
      exact (ih (same ▸ names)).trans (filled values).symm

/-! ### Documents -/

namespace Json

/-- The document has the fields of a form: it is an object of named members, in which those under
other names need only be sound, or an array of the fields in their order. -/
def Document.Fills (form : Reader.JsonForm α) : Document → Prop
  | .object members closed => closed = true ∧ ∃ values : List (String × Document),
    members = values.map (fun value => (some value.1, value.2)) ∧
      (∀ value ∈ values, value.1 ∉ form.names → value.2.isSound = true) ∧ form.Filled values
  | .array items closed => closed = true ∧ form.FilledInOrder items
  | _ => False

namespace Reader

/-- A document of another type gives no value. -/
theorem wrongType_iff {wanted : String} (document : Document) :
    (∃ value : α, wrongType wanted document = .ok value) ↔ False := by
  refine iff_false_intro fun ⟨value, reads⟩ => ?_
  unfold wrongType at reads
  split at reads
  · cases reads
  · cases reads

section Struct

variable {title : String} {form : JsonForm α} {members : List (Option String × Document)}
  {closed : Bool}

/-- An object with one more member at its front. -/
theorem fills_cons {name : String} {value : Document} :
    (Document.object ((some name, value) :: members) closed).Fills form ↔
      closed = true ∧ ∃ values : List (String × Document),
        members = values.map (fun value => (some value.1, value.2)) ∧
          ((name ∉ form.names → value.isSound = true) ∧
            ∀ value ∈ values, value.1 ∉ form.names → value.2.isSound = true) ∧
          form.Filled ((name, value) :: values) := by
  refine and_congr_right fun _ => ⟨?_, ?_⟩
  · rintro ⟨values, same, sound, filled⟩
    obtain ⟨first, others, rfl, isFirst, rfl⟩ := List.map_eq_cons_iff.mp same.symm
    cases isFirst
    exact ⟨others, rfl, List.forall_mem_cons.mp sound, filled⟩
  · rintro ⟨values, rfl, sound, filled⟩
    exact ⟨(name, value) :: values, rfl, List.forall_mem_cons.mpr sound, filled⟩

theorem fillIn_iff (names : form.names.Nodup) :
    (∃ record, fillIn title members closed form = .ok record) ↔
      (Document.object members closed).Fills form := by
  induction members generalizing form with
  | nil =>
    cases closed with
    | false => exact iff_of_false nofun nofun
    | true =>
      have finished : (∃ record, fillIn title [] true form = .ok record) ↔ form.Filled [] := by
        rw [← Form.finish_iff]
        exact exists_congr fun record => mapError_eq_ok
      refine finished.trans ⟨fun filled => ⟨rfl, [], rfl, List.forall_mem_nil _, filled⟩, ?_⟩
      rintro ⟨-, values, same, -, filled⟩
      rwa [List.map_eq_nil_iff.mp same.symm] at filled
  | cons first members ih =>
    obtain ⟨_ | name, value⟩ := first
    · refine iff_of_false nofun ?_
      rintro ⟨-, values, same, -⟩
      obtain ⟨_, _, _, isFirst, _⟩ := List.map_eq_cons_iff.mp same.symm
      cases isFirst
    rw [fills_cons, fillIn]
    cases form.accepts names name value with
    | unknown left other =>
      simp only [left]
      cases sound : value.isSound with
      | false =>
        refine iff_of_false nofun ?_
        rintro ⟨-, values, -, ⟨must, -⟩, -⟩
        cases must other
      | true =>
        refine (ih names).trans (and_congr_right fun _ => exists_congr fun values => ?_)
        rw [Form.filled_cons_other other, and_iff_right fun _ => rfl]
    | never problem refused among never =>
      simp only [refused]
      refine iff_of_false nofun ?_
      rintro ⟨-, values, -, -, filled⟩
      exact never values filled
    | filling next accepted among same filled =>
      simp only [accepted]
      refine (ih (same ▸ names)).trans (and_congr_right fun _ => exists_congr fun values => ?_)
      rw [filled, same, and_iff_right fun other => absurd among other]

/-- **A record is read from a document** just when the document fills its form. -/
theorem struct_iff (names : form.names.Nodup) {document : Document} :
    (∃ record, struct title form document = .ok record) ↔ document.Fills form := by
  have other := @wrongType_iff α s!"struct {title}"
  cases document with
  | object members closed => exact fillIn_iff names
  | array items closed =>
    show (∃ record, fillInOrder title items closed form = .ok record) ↔
      closed = true ∧ form.FilledInOrder items
    rw [← @Form.fillInOrder_iff _ _ _ form 0, fillInOrder]
    cases filled : form.fillInOrder 0 items with
    | ok record =>
      obtain ⟨value, left⟩ := record
      cases closed <;> cases left <;> simp
    | error problem =>
      refine iff_of_false ?_ nofun
      rintro ⟨record, reads⟩
      cases problem with
      | tooFew given => cases closed <;> cases reads
      | _ => cases reads
  | null => exact other .null
  | bool b => exact other (.bool b)
  | number n => exact other (.number n)
  | string text => exact other (.string text)
  | broken => exact other .broken

end Struct

end Reader

end Json

end Passbook
