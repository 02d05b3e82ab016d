/-
**Scripts: finite dialogues.**

A `Script` asks questions one after another, each next step depending on the replies so far, and
ends with a result. The type of a reply depends on its question. `Script.run` plays a script against
a state that answers; nothing is assumed of the answers, so the same script can be played against
any store, and two scripts can be played step by step in turns.
-/

namespace Passbook

inductive Script (Ask : Type) (Reply : Ask → Type) (α : Type) where
  | done (result : α)
  | ask (question : Ask) (next : Reply question → Script Ask Reply α)

namespace Script

variable {Ask : Type} {Reply : Ask → Type} {α β γ σ : Type}

def bind : Script Ask Reply α → (α → Script Ask Reply β) → Script Ask Reply β
  | done result, f => f result
  | ask question next, f => ask question fun reply => (next reply).bind f

instance : Monad (Script Ask Reply) where
  pure := done
  bind := bind

/-- Asks one question. -/
def query (question : Ask) : Script Ask Reply (Reply question) :=
  ask question done

/-- Plays a script against a state; `answer` gives the reply to a question and the state after. -/
def run (answer : (question : Ask) → σ → Reply question × σ) : Script Ask Reply α → σ → α × σ
  | done result, state => (result, state)
  | ask question next, state =>
    let (reply, state) := answer question state
    (next reply).run answer state

/-- Asks other questions in place of those of a script, one for one. -/
def rephrase {Ask' : Type} {Reply' : Ask' → Type} (question' : Ask → Ask')
    (reply : (question : Ask) → Reply' (question' question) → Reply question) :
    Script Ask Reply α → Script Ask' Reply' α
  | done result => done result
  | ask question next => ask (question' question) fun r =>
    (next (reply question r)).rephrase question' reply

@[simp] theorem pure_eq (result : α) : (pure result : Script Ask Reply α) = done result := rfl

@[simp] theorem bind_eq (script : Script Ask Reply α) (f : α → Script Ask Reply β) :
    script >>= f = script.bind f := rfl

@[simp] theorem done_bind (result : α) (f : α → Script Ask Reply β) :
    (done result).bind f = f result := rfl

@[simp] theorem ask_bind (question : Ask) (next : Reply question → Script Ask Reply α)
    (f : α → Script Ask Reply β) :
    (ask question next).bind f = ask question fun reply => (next reply).bind f := rfl

@[simp] theorem bind_done (script : Script Ask Reply α) : script.bind done = script := by
  induction script with
  | done result => rfl
  | ask question next ih => simp [ih]

theorem bind_assoc (script : Script Ask Reply α) (f : α → Script Ask Reply β)
    (g : β → Script Ask Reply γ) :
    (script.bind f).bind g = script.bind fun result => (f result).bind g := by
  induction script with
  | done result => rfl
  | ask question next ih => simp [ih]

@[simp] theorem run_done (answer : (question : Ask) → σ → Reply question × σ) (result : α)
    (state : σ) : (done result : Script Ask Reply α).run answer state = (result, state) := rfl

@[simp] theorem run_ask (answer : (question : Ask) → σ → Reply question × σ) (question : Ask)
    (next : Reply question → Script Ask Reply α) (state : σ) :
    (ask question next).run answer state =
      (next (answer question state).1).run answer (answer question state).2 := rfl

theorem run_bind (answer : (question : Ask) → σ → Reply question × σ)
    (script : Script Ask Reply α) (f : α → Script Ask Reply β) (state : σ) :
    (script.bind f).run answer state =
      (f (script.run answer state).1).run answer (script.run answer state).2 := by
  induction script generalizing state with
  | done result => rfl
  | ask question next ih => simp [ih]

instance : LawfulMonad (Script Ask Reply) :=
  LawfulMonad.mk' _ bind_done (fun _ _ => rfl) bind_assoc

end Script

end Passbook
