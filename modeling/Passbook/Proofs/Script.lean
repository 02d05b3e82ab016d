/-
**What a script asks, and what is noted while it is played.**

* `Script.Asks kind script` — every question that the script can come to ask is of the kind,
  whatever it is replied. It passes through `bind`, through scripts that may fail
  (`asks_except_bind`), and through a rephrasing (`asks_rephrase`).
* `Script.Ends kind script` — every result that it can come to is of the kind; `run_ends`: so is
  that of a run.
* `Script.notes answer note script state` — what `note` has to say of each question of a run, in the
  order in which they are asked.
* **`run_keeps`** — a property of notes and state that every question of the kind keeps is kept by
  the run of a script that asks nothing else.
* **`run_alike`** — from states that no question of the kind can tell apart, a script that asks
  nothing else comes to the same result.
-/

import Passbook.Script

namespace Passbook.Script

variable {Ask : Type} {Reply : Ask → Type} {α β ε σ ν : Type}

/-! ### Questions of a kind -/

/-- Every question that can be asked is of the kind. -/
def Asks (kind : Ask → Prop) : Script Ask Reply α → Prop
  | done _ => True
  | ask question next => kind question ∧ ∀ reply, (next reply).Asks kind

theorem asks_true (script : Script Ask Reply α) : script.Asks fun _ => True := by
  induction script with
  | done result => exact trivial
  | ask question next ih => exact ⟨trivial, ih⟩

theorem asks_mono {kind kind' : Ask → Prop} (wider : ∀ question, kind question → kind' question)
    {script : Script Ask Reply α} (asks : script.Asks kind) : script.Asks kind' := by
  induction script with
  | done result => exact trivial
  | ask question next ih => exact ⟨wider question asks.1, fun reply => ih reply (asks.2 reply)⟩

theorem asks_bind {kind : Ask → Prop} {script : Script Ask Reply α}
    {f : α → Script Ask Reply β} (first : script.Asks kind)
    (rest : ∀ result, (f result).Asks kind) : (script.bind f).Asks kind := by
  induction script with
  | done result => exact rest result
  | ask question next ih => exact ⟨first.1, fun reply => ih reply (first.2 reply)⟩

/-- Of a script that may fail, the rest is asked only after a success. -/
theorem asks_except_bind {kind : Ask → Prop} {first : ExceptT ε (Script Ask Reply) α}
    {rest : α → ExceptT ε (Script Ask Reply) β} (asks : first.run.Asks kind)
    (later : ∀ value, (rest value).run.Asks kind) : (first >>= rest).run.Asks kind := by
  refine asks_bind asks fun outcome => ?_
  cases outcome with
  | ok value => exact later value
  | error problem => exact trivial

theorem asks_ite {kind : Ask → Prop} {condition : Prop} [Decidable condition]
    {first second : Script Ask Reply α} (yes : first.Asks kind) (no : second.Asks kind) :
    (if condition then first else second).Asks kind := by
  by_cases holds : condition
  · rw [if_pos holds]
    exact yes
  · rw [if_neg holds]
    exact no

theorem asks_except_map {kind : Ask → Prop} {f : α → β} {script : ExceptT ε (Script Ask Reply) α}
    (asks : script.run.Asks kind) : (f <$> script).run.Asks kind := by
  refine asks_bind asks fun outcome => ?_
  cases outcome with
  | ok value => exact trivial
  | error problem => exact trivial

theorem asks_rephrase {Ask' : Type} {Reply' : Ask' → Type} {kind : Ask → Prop}
    {kind' : Ask' → Prop} {question' : Ask → Ask'}
    {reply : (question : Ask) → Reply' (question' question) → Reply question}
    (same : ∀ question, kind question → kind' (question' question)) {script : Script Ask Reply α}
    (asks : script.Asks kind) : (script.rephrase question' reply).Asks kind' := by
  induction script with
  | done result => exact trivial
  | ask question next ih => exact ⟨same question asks.1, fun r => ih _ (asks.2 _)⟩

/-! ### Results of a kind -/

/-- Every result that the script can come to is of the kind. -/
def Ends (kind : α → Prop) : Script Ask Reply α → Prop
  | done result => kind result
  | ask _ next => ∀ reply, (next reply).Ends kind

theorem ends_true (script : Script Ask Reply α) : script.Ends fun _ => True := by
  induction script with
  | done result => exact trivial
  | ask question next ih => exact ih

theorem ends_bind {kind : α → Prop} {kind' : β → Prop} {script : Script Ask Reply α}
    {f : α → Script Ask Reply β} (ends : script.Ends kind)
    (later : ∀ result, kind result → (f result).Ends kind') : (script.bind f).Ends kind' := by
  induction script with
  | done result => exact later result ends
  | ask question next ih => exact fun reply => ih reply (ends reply)

/-- A run comes to a result that the script can come to. -/
theorem run_ends {kind : α → Prop} {script : Script Ask Reply α} (ends : script.Ends kind)
    (answer : (question : Ask) → σ → Reply question × σ) (state : σ) :
    kind (script.run answer state).1 := by
  induction script generalizing state with
  | done result => exact ends
  | ask question next ih => exact ih _ (ends _) _

/-! ### Notes of a run -/

/-- What is noted of the questions of a run, in their order. -/
def notes (answer : (question : Ask) → σ → Reply question × σ)
    (note : (question : Ask) → σ → List ν) : Script Ask Reply α → σ → List ν
  | done _, _ => []
  | ask question next, state =>
    note question state ++
      (next (answer question state).1).notes answer note (answer question state).2

variable {answer : (question : Ask) → σ → Reply question × σ}
  {note : (question : Ask) → σ → List ν}

@[simp] theorem notes_done (result : α) (state : σ) :
    (done result : Script Ask Reply α).notes answer note state = [] := rfl

@[simp] theorem notes_ask (question : Ask) (next : Reply question → Script Ask Reply α)
    (state : σ) :
    (ask question next).notes answer note state =
      note question state ++
        (next (answer question state).1).notes answer note (answer question state).2 := rfl

theorem notes_bind (script : Script Ask Reply α) (f : α → Script Ask Reply β) (state : σ) :
    (script.bind f).notes answer note state =
      script.notes answer note state ++
        (f (script.run answer state).1).notes answer note (script.run answer state).2 := by
  induction script generalizing state with
  | done result => rfl
  | ask question next ih =>
    rw [ask_bind, notes_ask, ih, notes_ask, List.append_assoc]
    rfl

/-- **What every question keeps is kept by the run.** -/
theorem run_keeps {kind : Ask → Prop} (keeps : List ν → σ → Prop)
    (step : ∀ past question state, kind question → keeps past state →
      keeps (past ++ note question state) (answer question state).2)
    {script : Script Ask Reply α} (asks : script.Asks kind) {past : List ν} {state : σ}
    (start : keeps past state) :
    keeps (past ++ script.notes answer note state) (script.run answer state).2 := by
  induction script generalizing past state with
  | done result =>
    rw [notes_done, List.append_nil]
    exact start
  | ask question next ih =>
    rw [notes_ask, ← List.append_assoc, run_ask]
    exact ih _ (asks.2 _) (step past question state asks.1 start)

/-- What is noted of the questions is good wherever every question keeps what makes it so. -/
theorem forall_notes {kind : Ask → Prop} (keeps : σ → Prop) {good : ν → Prop}
    (step : ∀ question state, kind question → keeps state → keeps (answer question state).2)
    (each : ∀ question state, kind question → keeps state →
      ∀ item ∈ note question state, good item)
    {script : Script Ask Reply α} (asks : script.Asks kind) {state : σ} (start : keeps state) :
    ∀ item ∈ script.notes answer note state, good item := by
  have begins : keeps state ∧ ∀ item ∈ ([] : List ν), good item :=
    ⟨start, fun _ member => by cases member⟩
  have kept := run_keeps (fun past state => keeps state ∧ ∀ item ∈ past, good item)
    (fun past question state asked ⟨here, before⟩ => by
      refine ⟨step question state asked here, fun item member => ?_⟩
      rcases List.mem_append.mp member with earlier | now
      · exact before item earlier
      · exact each question state asked here item now)
    asks begins
  exact kept.2

theorem mem_notes_of_asks {kind : Ask → Prop} {good : ν → Prop}
    (each : ∀ question state, kind question → ∀ item ∈ note question state, good item)
    {script : Script Ask Reply α} (asks : script.Asks kind) {state : σ} :
    ∀ item ∈ script.notes answer note state, good item :=
  forall_notes (fun _ => True) (fun _ _ _ _ => trivial)
    (fun question state asked _ => each question state asked) asks trivial

/-! ### Runs side by side -/

/-- Two outcomes with the same value, in states that are alike. -/
def Abreast (alike : σ → σ → Prop) (first second : α × σ) : Prop :=
  ∃ value before after, first = (value, before) ∧ second = (value, after) ∧ alike before after

/-- **States that no question of the kind tells apart** make no difference to the run. -/
theorem run_alike {kind : Ask → Prop} {alike : σ → σ → Prop}
    (step : ∀ question first second, kind question → alike first second →
      Abreast alike (answer question first) (answer question second))
    {script : Script Ask Reply α} (asks : script.Asks kind) {first second : σ}
    (start : alike first second) :
    Abreast alike (script.run answer first) (script.run answer second) := by
  induction script generalizing first second with
  | done result => exact ⟨result, first, second, rfl, rfl, start⟩
  | ask question next ih =>
    obtain ⟨reply, before, after, met, met', later⟩ := step question first second asks.1 start
    rw [run_ask, run_ask, met, met']
    exact ih reply (asks.2 reply) later

end Passbook.Script
