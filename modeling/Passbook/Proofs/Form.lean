/-
**What forms are filled in to.**

A form may be filled in from values by name, in any order and with others among them, or by
position. Whatever the way, its record holds in each field a value that the reader of the field
gave, or the one that stands for its absence:

* `Form.Always` — every record that the form can be filled in to is good, field by field;
  `Always.accept` is the step, `Always.finish` and `Always.fillInOrder` the ends.
The other way round, values that stand in the order of the fields fill them in:

* `Form.inOrder` — the record of such values, a field being absent where its name does not come
  next.
* **`Form.acceptAll_of_inOrder`** — taken by their names, the same values give the same record.
-/

import Passbook.Form

namespace Passbook

variable {α : Type}

/-- A change of the error leaves the successes. -/
theorem mapError_eq_ok {ε ε' : Type} {f : ε → ε'} {result : Except ε α} {value : α} :
    result.mapError f = .ok value ↔ result = .ok value := by
  cases result with
  | error problem =>
    constructor
    · intro succeeds
      cases succeeds
    · intro succeeds
      cases succeeds
  | ok given =>
    constructor
    · intro same
      cases same
      rfl
    · intro same
      cases same
      rfl

/-- A success that was changed was one before. -/
theorem map_eq_ok {ε β : Type} {f : α → β} {result : Except ε α} {value : β} :
    result.map f = .ok value ↔ ∃ given, result = .ok given ∧ f given = value := by
  cases result with
  | error problem =>
    constructor
    · intro absurd
      cases absurd
    · rintro ⟨_, absurd, _⟩
      cases absurd
  | ok given =>
    constructor
    · intro same
      exact ⟨given, rfl, Except.ok.inj same⟩
    · rintro ⟨_, same, rfl⟩
      cases same
      rfl

/-- A success is known by its value, which can be compared where an outcome cannot. -/
theorem eq_ok_of_toOption {ε : Type} {result : Except ε α} {value : α}
    (found : result.toOption = some value) : result = .ok value := by
  cases result with
  | error problem => cases found
  | ok given => exact congrArg Except.ok (Option.some.inj found)

/-- What is taken where no value is given. -/
def Absent.value? {β : Type} : Absent β → Option β
  | missing => none
  | optional value | standard value => some value

namespace Form

variable {Source ε β : Type} {own name : String} {read : Source → Except ε β} {absent : Absent β}
  {found : Option β} {known : Source → Prop} {value : Source}

/-! ### What a form holds -/

/-- A value that a field may come to hold, from sources that are known. -/
inductive Holds (known : Source → Prop) (read : Source → Except ε β) :
    Absent β → Option β → β → Prop
  | found {absent : Absent β} (value : β) : Holds known read absent (some value) value
  | given {absent : Absent β} {found : Option β} {value : β} {source : Source}
    (trusted : known source) (reads : read source = .ok value) : Holds known read absent found value
  | absent {absent : Absent β} {found : Option β} {value : β}
    (taken : absent.value? = some value) : Holds known read absent found value

/-- A field that must be given holds a value that was read. -/
theorem Holds.was_read {value : β} (holds : Holds known read .missing none value) :
    ∃ source, known source ∧ read source = .ok value := by
  cases holds with
  | given trusted reads => exact ⟨_, trusted, reads⟩
  | absent taken => cases taken

/-- Every record that the form can be filled in to is good. -/
def Always (known : Source → Prop) : {α : Type} → Form Source ε α → (α → Prop) → Prop
  | _, .done value, good => good value
  | _, .field _ read absent found rest, good =>
    rest.Always known fun record => ∀ value, Holds known read absent found value →
      good (record value)

theorem Always.mono {form : Form Source ε α} {good better : α → Prop}
    (stronger : ∀ record, good record → better record) (always : form.Always known good) :
    form.Always known better := by
  induction form with
  | done value => exact stronger value always
  | field name read absent found rest ih =>
    exact ih (fun record each value holds => stronger _ (each value holds)) always

/-- A value that is accepted was read by the field of its name. -/
theorem Always.accept {form next : Form Source ε α} {good : α → Prop}
    (always : form.Always known good) (trusted : known value)
    (accepts : form.accept name value = some (.ok next)) : next.Always known good := by
  induction form with
  | done value => cases accepts
  | field own read absent found rest ih =>
    unfold Form.accept at accepts
    split at accepts
    · split at accepts
      · cases accepts
      · split at accepts
        · rename_i given reads
          cases accepts
          have fields : rest.Always known fun record =>
              ∀ value, Holds known read absent none value → good (record value) := always
          show rest.Always known fun record =>
            ∀ value, Holds known read absent (some given) value → good (record value)
          refine fields.mono fun record each value holds => each value ?_
          cases holds with
          | found => exact .given trusted reads
          | given others reads => exact .given others reads
          | absent taken => exact .absent taken
        · cases accepts
    · split at accepts
      · cases accepts
      · cases accepts
      · rename_i next accepted
        cases accepts
        exact ih always accepted

theorem Always.finish {form : Form Source ε α} {good : α → Prop} {record : α}
    (always : form.Always known good) (finishes : form.finish = .ok record) : good record := by
  induction form with
  | done value =>
    cases finishes
    exact always
  | field name read absent found rest ih =>
    have filled : ∀ {value}, Holds known read absent found value →
        rest.finish.map (· value) = .ok record → good record := by
      intro value holds finishes
      obtain ⟨function, others, rfl⟩ := map_eq_ok.mp finishes
      exact ih always others value holds
    unfold Form.finish at finishes
    split at finishes
    · exact filled (.found _) finishes
    · exact filled (.absent rfl) finishes
    · exact filled (.absent rfl) finishes
    · cases finishes

theorem Always.fillInOrder {form : Form Source ε α} {good : α → Prop} {record : α} {given : Nat}
    {values left : List Source} (always : form.Always known good)
    (trusted : ∀ value ∈ values, known value)
    (fills : form.fillInOrder given values = .ok (record, left)) : good record := by
  induction form generalizing given values with
  | done value =>
    cases fills
    exact always
  | field name read absent found rest ih =>
    have filled : ∀ {value} {values : List Source}, (∀ value ∈ values, known value) →
        Holds known read absent found value →
        (rest.fillInOrder (given + 1) values).map (fun filled => (filled.1 value, filled.2)) =
          .ok (record, left) → good record := by
      intro value values trusted holds fills
      obtain ⟨⟨function, left⟩, others, same⟩ := map_eq_ok.mp fills
      cases same
      exact ih always trusted others value holds
    cases values with
    | cons first values =>
      unfold Form.fillInOrder at fills
      split at fills
      · cases fills
      · rename_i reads
        exact filled (fun value member => trusted value (List.mem_cons_of_mem _ member))
          (.given (trusted _ List.mem_cons_self) reads) fills
    | nil =>
      cases absent with
      | standard value => exact filled (fun _ member => by cases member) (.absent rfl) fills
      | missing => cases fills
      | optional value => cases fills

/-! ### Values in the order of the fields -/

/-- A field that is not filled in takes a value under its name. -/
theorem accept_own {rest : Form Source ε (β → α)} {given : β} (reads : read value = .ok given) :
    (Form.field own read absent none rest).accept own value =
      some (.ok (.field own read absent (some given) rest)) := by
  unfold accept
  rw [if_pos rfl, reads]

/-- A value under another name is left to the other fields. -/
theorem accept_other {rest next : Form Source ε (β → α)} (other : own ≠ name)
    (accepts : rest.accept name value = some (.ok next)) :
    (Form.field own read absent found rest).accept name value =
      some (.ok (.field own read absent found next)) := by
  unfold accept
  rw [if_neg other, accepts]

def names : {α : Type} → Form Source ε α → List String
  | _, .done _ => []
  | _, .field name _ _ _ rest => name :: rest.names

/-- The record of a form that takes the values in the order of its fields. Where a value goes by
another name, it is left to later fields. -/
def inOrder : {α : Type} → Form Source ε α → List (String × Source) → Option α
  | _, .done value, [] => some value
  | _, .done _, _ :: _ => none
  | _, .field _ _ _ (some _) _, _ => none
  | _, .field _ _ absent none rest, [] => do
    let value ← absent.value?
    return (← rest.inOrder []) value
  | _, .field own read absent none rest, (name, source) :: values =>
    if own = name then
      match read source with
      | .ok value => (rest.inOrder values).map (· value)
      | .error _ => none
    else do
      let value ← absent.value?
      return (← rest.inOrder ((name, source) :: values)) value

/-- The form that has accepted values one after another. -/
def acceptAll (form : Form Source ε α) : List (String × Source) → Option (Form Source ε α)
  | [] => some form
  | (name, value) :: values =>
    match form.accept name value with
    | some (.ok next) => next.acceptAll values
    | _ => none

/-- Values under other names are left to the other fields. -/
theorem acceptAll_other {rest last : Form Source ε (β → α)} {values : List (String × Source)}
    (others : ∀ value ∈ values, own ≠ value.1) (accepts : rest.acceptAll values = some last) :
    (Form.field own read absent found rest).acceptAll values =
      some (.field own read absent found last) := by
  induction values generalizing rest with
  | nil =>
    cases accepts
    rfl
  | cons first values ih =>
    obtain ⟨name, value⟩ := first
    unfold acceptAll at accepts ⊢
    split at accepts
    · rename_i next accepted
      rw [accept_other (others _ List.mem_cons_self) accepted]
      exact ih (fun value member => others value (List.mem_cons_of_mem _ member)) accepts
    · cases accepts

@[simp] theorem inOrder_done (record : α) :
    (Form.done record : Form Source ε α).inOrder [] = some record := rfl

/-- A field takes the value that comes next, when it goes by its name. -/
@[simp] theorem inOrder_required {rest : Form Source ε (β → α)} {values : List (String × Source)} :
    (Form.required own read rest).inOrder ((own, value) :: values) =
      match read value with
      | .ok given => (rest.inOrder values).map (· given)
      | .error _ => none := by
  rw [required, inOrder, if_pos rfl]

@[simp] theorem inOrder_standard {rest : Form Source ε (β → α)} {standing : β}
    {values : List (String × Source)} :
    (Form.standard own read standing rest).inOrder ((own, value) :: values) =
      match read value with
      | .ok given => (rest.inOrder values).map (· given)
      | .error _ => none := by
  rw [standard, inOrder, if_pos rfl]

/-- A field is filled from the first of the values, or it is absent. -/
theorem inOrder_cases {rest : Form Source ε (β → α)} {values : List (String × Source)} {record : α}
    (fills : (Form.field own read absent found rest).inOrder values = some record) :
    found = none ∧ ∃ value function, record = function value ∧
      ((∃ source others, values = (own, source) :: others ∧ read source = .ok value ∧
        rest.inOrder others = some function) ∨
      (absent.value? = some value ∧ rest.inOrder values = some function)) := by
  have left_out : ∀ {values : List (String × Source)},
      (do let value ← absent.value?
          return (← rest.inOrder values) value) = some record →
        ∃ value function, record = function value ∧
          (absent.value? = some value ∧ rest.inOrder values = some function) := by
    intro values fills
    obtain ⟨value, taken, fills⟩ := Option.bind_eq_some_iff.mp fills
    obtain ⟨function, others, fills⟩ := Option.bind_eq_some_iff.mp fills
    cases fills
    exact ⟨value, function, rfl, taken, others⟩
  cases found with
  | some value => cases values <;> cases fills
  | none =>
    refine ⟨rfl, ?_⟩
    cases values with
    | nil =>
      obtain ⟨value, function, same, absent⟩ := left_out fills
      exact ⟨value, function, same, .inr absent⟩
    | cons first values =>
      obtain ⟨name, source⟩ := first
      unfold inOrder at fills
      split at fills
      · rename_i own_name
        subst own_name
        split at fills
        · rename_i value reads
          obtain ⟨function, others, same⟩ := Option.map_eq_some_iff.mp fills
          exact ⟨value, function, same.symm, .inl ⟨source, values, rfl, reads, others⟩⟩
        · cases fills
      · obtain ⟨value, function, same, absent⟩ := left_out fills
        exact ⟨value, function, same, .inr absent⟩

theorem mem_names_of_inOrder {form : Form Source ε α} {values : List (String × Source)}
    {record : α} (fills : form.inOrder values = some record) :
    ∀ value ∈ values, value.1 ∈ form.names := by
  induction form generalizing values with
  | done value =>
    cases values with
    | nil => exact fun _ member => by cases member
    | cons first values => cases fills
  | field own read absent found rest ih =>
    intro value member
    obtain ⟨_, _, function, _, ⟨source, others, rfl, _, later⟩ | ⟨_, later⟩⟩ := inOrder_cases fills
    · rcases List.mem_cons.mp member with rfl | member
      · exact List.mem_cons_self
      · exact List.mem_cons_of_mem _ (ih later value member)
    · exact List.mem_cons_of_mem _ (ih later value member)

/-- **Values in the order of the fields** are all accepted, and the form can be finished. -/
theorem acceptAll_of_inOrder {form : Form Source ε α} (names : form.names.Nodup)
    {values : List (String × Source)} {record : α} (fills : form.inOrder values = some record) :
    ∃ last, form.acceptAll values = some last ∧ last.finish = .ok record := by
  induction form generalizing values with
  | done value =>
    cases values with
    | nil =>
      cases fills
      exact ⟨.done value, rfl, rfl⟩
    | cons first values => cases fills
  | field own read absent found rest ih =>
    obtain ⟨new, later⟩ := List.nodup_cons.mp names
    have others : ∀ {values function}, rest.inOrder values = some function →
        ∀ value ∈ values, own ≠ value.1 := fun filled value member same =>
      new (same ▸ mem_names_of_inOrder filled value member)
    obtain ⟨rfl, value, function, rfl, ⟨source, values, rfl, reads, filled⟩ | ⟨taken, filled⟩⟩ :=
      inOrder_cases fills
    · obtain ⟨last, accepts, finishes⟩ := ih later filled
      refine ⟨.field own read absent (some value) last, ?_, ?_⟩
      · rw [acceptAll, accept_own reads]
        exact acceptAll_other (others filled) accepts
      · rw [Form.finish, finishes]
        rfl
    · obtain ⟨last, accepts, finishes⟩ := ih later filled
      refine ⟨.field own read absent none last, acceptAll_other (others filled) accepts, ?_⟩
      cases absent with
      | missing => cases taken
      | optional standing | standard standing =>
        cases taken
        rw [Form.finish, finishes]
        rfl

end Form

end Passbook
