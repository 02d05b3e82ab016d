/-
**Which requests fail inside.**

A request is answered with a status of 500 or more when its error is not told to the caller. In a
calm ledger whose accounts can be loaded, this befalls a request that is no payment just when the
first statement it comes to holds U+0000: nothing keeps such a text from the database, which refuses
it, and no other statement is refused in a way that is not told.

* `Script.first?` — the first call of a script, if it makes one.
* `Dialogue.Outward ledger dialogue` — no error of the dialogue is an internal one;
  `Dialogue.Sifts ledger dialogue` — this is so just when its first statement holds no U+0000.
* `sifts_ofExcept_bind`, `sifts_bind_pure` — what is read and checked first, and what is made of the
  result, changes nothing in this.
* `Work.Single.sifts_store`, `Work.Single.sifts_need` — works of one statement sift.
* **`status_lt_500_iff`** — the status of a response is below 500 just when the first statement that
  the request comes to holds no U+0000; `status_of_nulUser` — a lookup that comes to such a one.
-/

import Passbook.Proofs.Page
import Passbook.Proofs.Run.Integrity
import Passbook.Proofs.Service.Legible
import Passbook.Proofs.Service.Payment
import Passbook.Proofs.Service.Registration
import Passbook.Proofs.Store.Single

namespace Passbook

open Ledger (Query Books Tables AccountRow)
open Text.Percent (Spells)

variable {α β : Type}

/-- The first question of a script, if it asks one. -/
def Script.first? {Ask : Type} {Reply : Ask → Type} : Script Ask Reply α → Option Ask
  | .done _ => none
  | .ask question _ => some question

namespace Dialogue

/-- The first call of a dialogue, if it makes one. -/
def first? (dialogue : Dialogue α) : Option Call :=
  dialogue.run.first?

/-- No error that the dialogue ends with is an internal one. -/
def Outward (ledger : Ledger) (dialogue : Dialogue α) : Prop :=
  ∀ error, (ledger.serve dialogue).1 = .error error → error.isInternal = false

/-- The dialogue ends with an internal error just when its first statement holds U+0000. -/
def Sifts (ledger : Ledger) (dialogue : Dialogue α) : Prop :=
  dialogue.Outward ledger ↔ ∀ query, dialogue.first? = some (.query query) → query.Clean

variable {ledger : Ledger} {dialogue : Dialogue α}

theorem Outward.sifts (outward : dialogue.Outward ledger)
    (clean : ∀ query, dialogue.first? = some (.query query) → query.Clean) :
    dialogue.Sifts ledger :=
  iff_of_true outward clean

theorem outward_of_ok {value : α} (succeeds : (ledger.serve dialogue).1 = .ok value) :
    dialogue.Outward ledger := by
  intro error fails
  rw [succeeds] at fails
  cases fails

theorem outward_of_error {problem : ServiceError} (told : problem.isInternal = false)
    (fails : (ledger.serve dialogue).1 = .error problem) : dialogue.Outward ledger := by
  intro error ends
  rw [fails, Except.error.injEq] at ends
  exact ends ▸ told

/-- A dialogue that is refused before its first call. -/
theorem sifts_of_done {problem : ServiceError} (told : problem.isInternal = false)
    (ends : dialogue.run = .done (.error problem)) : dialogue.Sifts ledger := by
  refine (outward_of_error told ?_).sifts fun query first => ?_
  · rw [Ledger.serve, ends, Script.run_done]
  · rw [first?, ends] at first
    cases first

/-- What is read or checked before the first call is told when it is amiss. -/
theorem sifts_ofExcept_bind {result : Except ServiceError α} {rest : α → Dialogue β}
    (told : ∀ error, result = .error error → error.isInternal = false)
    (later : ∀ value, result = .ok value → (rest value).Sifts ledger) :
    (ofExcept result >>= rest).Sifts ledger := by
  cases result with
  | error error => exact sifts_of_done (told error rfl) rfl
  | ok value => exact later value rfl

theorem outward_bind {rest : α → Dialogue β} (first : dialogue.Outward ledger)
    (later : ∀ value, (rest value).Outward (ledger.serve dialogue).2) :
    (dialogue >>= rest).Outward ledger := by
  intro error fails
  rw [ledger.serve_bind] at fails
  rcases played : ledger.serve dialogue with ⟨problem | value, after⟩
  · rw [played] at fails
    cases fails
    exact first error (congrArg Prod.fst played)
  · rw [played] at fails
    have goes := later value
    rw [played] at goes
    exact goes error fails

theorem outward_bind_pure {f : α → β} :
    (do return f (← dialogue) : Dialogue β).Outward ledger ↔ dialogue.Outward ledger := by
  unfold Outward
  rw [ledger.serve_bind_pure]
  cases (ledger.serve dialogue).1 with
  | error problem => simp [Except.map]
  | ok value => simp [Except.map]

theorem first?_bind_pure {f : α → β} :
    (do return f (← dialogue) : Dialogue β).first? = dialogue.first? := by
  show (Script.bind dialogue.run _).first? = dialogue.run.first?
  cases dialogue.run with
  | done result => cases result <;> rfl
  | ask call next => rfl

theorem sifts_bind_pure {f : α → β} (sifts : dialogue.Sifts ledger) :
    (do return f (← dialogue) : Dialogue β).Sifts ledger := by
  unfold Sifts
  rw [outward_bind_pure, first?_bind_pure]
  exact sifts

end Dialogue

/-! ### One statement -/

namespace Ledger

variable {ledger : Ledger}

/-- A statement that holds U+0000 is refused, and nothing happens. -/
theorem query_of_hasNul {query : Query} (granted : ledger.access = .granted)
    (hasNul : query.hasNul = true) :
    ledger.query query = (.error (.ofRefusal .nulInText), ledger) := by
  have attempted : ledger.attempt query = (.error (.refused .nulInText), ledger) := by
    rw [attempt, if_pos hasNul]
  rw [Ledger.query, granted, attempted]
  rfl

end Ledger

/-- A refusal of U+0000, as it is told. -/
def nulRefused : ServiceError :=
  .store (.database (.ofRefusal .nulInText))

section Asked

variable {ledger : Ledger} {dialogue : Dialogue α} {query : Query}
  {next : (Call.query query).Reply → Script Call Call.Reply (Except ServiceError α)}

/-- A dialogue goes on from the reply to its first statement. -/
theorem Ledger.serve_ask (asks : dialogue.run = .ask (.query query) next) {reply : query.Reply}
    (replied : (ledger.query query).1 = reply) :
    ledger.serve dialogue = (next reply).run Ledger.answer (ledger.query query).2 := by
  subst replied
  rw [Ledger.serve, asks]
  rfl

/-- A dialogue sifts whose first statement, if it holds U+0000, ends it. -/
theorem Dialogue.sifts_ask (granted : ledger.access = .granted)
    (asks : dialogue.run = .ask (.query query) next)
    (ends : next (Except.error (.ofRefusal .nulInText) : query.Reply) = .done (.error nulRefused))
    (outward : query.Clean → dialogue.Outward ledger) : dialogue.Sifts ledger := by
  constructor
  · intro told asked first
    rw [Dialogue.first?, asks] at first
    cases first
    refine Bool.eq_false_iff.mpr fun hasNul => ?_
    have refused := congrArg Prod.fst (Ledger.query_of_hasNul granted hasNul)
    have fails : (ledger.serve dialogue).1 = .error nulRefused := by
      rw [Ledger.serve_ask asks refused, ends, Script.run_done]
    cases told _ fails
  · intro clean
    exact outward (clean query (by rw [Dialogue.first?, asks]; rfl))

end Asked

/-! ### Works of one statement -/

/-- What is told of a work of one statement. -/
def toldOf {query : Query} (make : query.Answer → Except DatabaseError α) (reply : query.Reply) :
    Except ServiceError α :=
  (reply.bind make).mapError fun error => .store (.database error)

section Single

variable {work : Work α} {sought : Work (Option α)} {query : Query}
  {make : query.Answer → Except DatabaseError α}
  {find : query.Answer → Except DatabaseError (Option α)} {ledger : Ledger}

theorem Work.Single.store_run (single : work.Single query make) :
    (Dialogue.store work).run = .ask (.query query) fun reply => .done (toldOf make reply) := by
  unfold Dialogue.store Dialogue.outcome
  rw [single.run]
  refine congrArg (Script.ask (Call.query query)) (funext fun reply => ?_)
  rcases reply with error | answer
  · rfl
  · unfold toldOf Except.bind
    dsimp only
    cases make answer <;> rfl

theorem Work.Single.serve_store (single : work.Single query make) (ledger : Ledger) :
    ledger.serve (Dialogue.store work) =
      (toldOf make (ledger.query query).1, (ledger.query query).2) :=
  Ledger.serve_ask single.store_run rfl

/-- **A work of one statement** that the rows answer comes to what is made of the answer, unless
something hinders the statement. -/
theorem Work.Single.serve_store_cases (single : work.Single query make) {answer : query.Answer}
    {next : Books} {value : α}
    (executed : ledger.books.execute ledger.clock query = .ok (answer, next))
    (made : make answer = .ok value) :
    (ledger.serve (Dialogue.store work)).1 = .ok value ∨
      ∃ error, (ledger.serve (Dialogue.store work)).1 = .error (.store (.database error)) ∧
        Ledger.Hindrance query ledger error := by
  rw [single.serve_store]
  rcases Ledger.query_executed executed with answered | ⟨error, fails, hindrance⟩
  · rw [answered]
    exact .inl (congrArg (Except.mapError _) made)
  · rw [fails]
    exact .inr ⟨error, rfl, hindrance⟩

/-- What was found, if it is there. -/
def present (absent : ServiceError) : Option α → Except ServiceError α
  | some found => .ok found
  | none => .error absent

theorem Work.Single.need_run (single : sought.Single query find) (absent : ServiceError) :
    (Service.need absent sought).run = .ask (.query query) fun reply =>
      .done ((toldOf find reply).bind (present absent)) := by
  show (Dialogue.store sought).run.bind _ = _
  rw [single.store_run]
  refine congrArg (Script.ask (Call.query query)) (funext fun reply => ?_)
  dsimp only
  rcases toldOf find reply with error | (none | found)
  · rfl
  · rfl
  · rfl

theorem Work.Single.serve_need (single : sought.Single query find) (absent : ServiceError)
    (ledger : Ledger) : ledger.serve (Service.need absent sought) =
      ((toldOf find (ledger.query query).1).bind (present absent), (ledger.query query).2) :=
  Ledger.serve_ask (single.need_run absent) rfl

variable (calm : ledger.Calm)

include calm

/-- A work of one statement sifts where the rows answer its statement and its answer serves. -/
theorem Work.Single.sifts_store (single : work.Single query make)
    (answers : ∃ answer next value, ledger.books.execute ledger.clock query = .ok (answer, next) ∧
      make answer = .ok value) : (Dialogue.store work).Sifts ledger := by
  refine Dialogue.sifts_ask calm.granted single.store_run rfl fun clean => ?_
  obtain ⟨answer, next, value, executed, made⟩ := answers
  obtain ⟨_, met, _⟩ := calm.query_of_execute clean executed
  have served : (ledger.serve (Dialogue.store work)).1 = .ok value := by
    rw [single.serve_store, met]
    exact congrArg (Except.mapError _) made
  exact Dialogue.outward_of_ok served

/-- So does one that finds what must be there. -/
theorem Work.Single.sifts_need (single : sought.Single query find) {absent : ServiceError}
    (told : absent.isInternal = false)
    (answers : ∃ answer next value, ledger.books.execute ledger.clock query = .ok (answer, next) ∧
      find answer = .ok value) : (Service.need absent sought).Sifts ledger := by
  refine Dialogue.sifts_ask calm.granted (single.need_run absent) rfl fun clean => ?_
  obtain ⟨answer, next, found, executed, made⟩ := answers
  obtain ⟨_, met, _⟩ := calm.query_of_execute clean executed
  have served : (ledger.serve (Service.need absent sought)).1 = present absent found := by
    rw [single.serve_need, met]
    exact congrArg (fun given => (Except.mapError _ given).bind (present absent)) made
  cases found with
  | none => exact Dialogue.outward_of_error told served
  | some value => exact Dialogue.outward_of_ok served

end Single

/-! ### Handlers -/

namespace Service

open Dialogue (outward_of_ok outward_of_error sifts_ask sifts_of_done sifts_ofExcept_bind)

variable {ledger : Ledger} (calm : ledger.Calm)

include calm

theorem sifts_register (user : NewUser) : (register user).Sifts ledger := by
  have asked := register_run user
  cases valid : user.validate with
  | error problem =>
    rw [valid] at asked
    exact sifts_of_done rfl asked
  | ok _ =>
    rw [valid] at asked
    refine sifts_ask calm.granted asked rfl fun clean => ?_
    have serves : (ledger.serve (register user)).1 =
        (ledger.query (.insertUser user)).1.mapError (refusal user.claim) :=
      congrArg Prod.fst (Ledger.serve_ask asked rfl)
    rcases calm.reply_cases clean with ⟨stored, replied⟩ | ⟨_, replied, refuses⟩
    · rw [replied] at serves
      exact outward_of_ok serves
    · obtain ⟨_, key, rfl⟩ := Tables.taken_of_refused refuses rfl
      rw [replied] at serves
      exact outward_of_error rfl serves

theorem sifts_changeProfile (change : ProfileChange) : (changeProfile change).Sifts ledger := by
  have asked := changeProfile_run change
  cases valid : change.patch.validate with
  | error problem =>
    rw [valid] at asked
    exact sifts_of_done rfl asked
  | ok _ =>
    rw [valid] at asked
    refine sifts_ask calm.granted asked rfl fun clean => ?_
    have serves : (ledger.serve (changeProfile change)).1 =
        changed change (ledger.query (.updateUser change)).1 :=
      congrArg Prod.fst (Ledger.serve_ask asked rfl)
    rcases calm.reply_cases clean with ⟨(none | user), replied⟩ | ⟨_, replied, refuses⟩
    · rw [replied] at serves
      exact outward_of_error rfl serves
    · rw [replied] at serves
      exact outward_of_ok serves
    · obtain ⟨_, key, rfl⟩ := Tables.taken_of_refused refuses rfl
      rw [replied] at serves
      exact outward_of_error rfl serves

theorem sifts_openAccount (account : NewAccount) : (openAccount account).Sifts ledger := by
  have asked := openAccount_run account
  cases known : Currency.ofCode account.currency with
  | error problem =>
    rw [known] at asked
    exact sifts_of_done rfl asked
  | ok currency =>
    rw [known] at asked
    refine sifts_ask calm.granted asked rfl fun clean => ?_
    let after := (ledger.query (.findUser account.owner)).2
    rcases calm.reply_cases clean with ⟨(none | owner), replied⟩ | ⟨_, _, refuses⟩
    · have serves : (ledger.serve (openAccount account)).1 =
          .error (.userNotFound account.owner) :=
        congrArg Prod.fst (Ledger.serve_ask asked replied)
      exact outward_of_error rfl serves
    · have serves : (ledger.serve (openAccount account)).1 = opened account.owner account.claim
          (after.query account.statement).1 := by
        have goes := congrArg Prod.fst (Ledger.serve_ask asked replied)
        rw [Currency.code_of_ofCode known] at goes
        exact goes
      have afterCalm : after.Calm := calm.query _
      rcases NewAccount.opened_cases known (NewAccount.clean_statement known replied)
        (Ledger.found_of_findUser replied) with ⟨_, stored, _, opens⟩ | ⟨_, told⟩ |
          ⟨_, _, trouble, _⟩
      · exact outward_of_ok (serves.trans opens)
      · exact outward_of_error rfl (serves.trans told)
      · exact absurd trouble afterCalm.not_trouble
    · cases (Tables.taken_of_refused refuses rfl).1

/-! ### Lookups and listings -/

theorem sifts_user (username : String) : (user username).Sifts ledger :=
  (Work.single_ask (.findUser username)).sifts_need calm rfl
    ⟨ledger.rows.user? username, ledger.books, _, rfl, rfl⟩

theorem sifts_transfer (id : Int) : (transfer id).Sifts ledger :=
  (Work.single_ask (.findTransfer id)).sifts_need calm rfl
    ⟨ledger.rows.transfer? id, ledger.books, _, rfl, rfl⟩

theorem sifts_entry (id : Int) : (entry id).Sifts ledger :=
  (Work.single_ask (.findEntry id)).sifts_need calm rfl
    ⟨ledger.rows.entry? id, ledger.books, _, rfl, rfl⟩

omit calm in
/-- The window of an allowed page cuts out what the page shows. -/
theorem cut_of_allowed {page : Page} (allowed : page.Allowed) {ρ : Type} (rows : List ρ) :
    Tables.cut ⟨page.size, (page.number - 1) * page.size⟩ rows = .ok (page.cut rows) := by
  have size : 0 ≤ page.size := Int.le_trans (by decide) allowed.size.1
  exact Tables.cut_eq_ok.mpr ⟨allowed.skipped_nonneg, size, rfl⟩

omit calm in
/-- A page has its window, or a rule is broken. -/
theorem pageWindow_cases (page : Page) :
    (page.Allowed ∧
      pageWindow page = .ofExcept (.ok ⟨page.size, (page.number - 1) * page.size⟩)) ∨
    ¬ page.Allowed ∧ ∃ problem : PageError,
      pageWindow page = .ofExcept (.error (.rule (.invalidPage problem.message))) := by
  unfold pageWindow
  rcases page.allowedWindow_cases with ⟨allowed, shown⟩ | ⟨other, problem, refused⟩
  · rw [shown]
    exact .inl ⟨allowed, rfl⟩
  · rw [refused]
    exact .inr ⟨other, problem, rfl⟩

omit calm in
theorem sifts_pageWindow_bind {page : Page} {rest : Window → Dialogue α}
    (later : page.Allowed → (rest ⟨page.size, (page.number - 1) * page.size⟩).Sifts ledger) :
    (pageWindow page >>= rest).Sifts ledger := by
  rcases pageWindow_cases page with ⟨allowed, shown⟩ | ⟨_, problem, refused⟩
  · rw [shown]
    exact later allowed
  · rw [refused]
    exact sifts_of_done rfl rfl

theorem sifts_transfers (listing : TransferListing) : (transfers listing).Sifts ledger := by
  refine sifts_pageWindow_bind fun allowed => ?_
  have cuts := cut_of_allowed allowed
    (ledger.rows.transfersBetween listing.account listing.account)
  exact (Work.single_ask (.listTransfers _)).sifts_store calm ⟨_, ledger.books, _,
    Books.execute_eq_ok.mpr ⟨Tables.reading_eq_ok.mpr ⟨cuts, rfl⟩, rfl⟩, rfl⟩

variable (readable : ∀ row ∈ ledger.rows.accounts, row.Readable)

include readable

theorem sifts_account (id : Int) : (account id).Sifts ledger := by
  refine (Work.single_findAccount id).sifts_need calm rfl ?_
  have loaded : ∃ value, (ledger.rows.account? id).mapM AccountRow.load = .ok value := by
    cases found : ledger.rows.account? id with
    | none => exact ⟨none, rfl⟩
    | some row =>
      obtain ⟨account, loads⟩ := (readable row (Tables.account?_eq_some found).1).load
      refine ⟨some account, ?_⟩
      rw [Option.mapM_some, loads]
      rfl
  obtain ⟨value, made⟩ := loaded
  exact ⟨ledger.rows.account? id, ledger.books, value, rfl, made⟩

theorem sifts_accounts (listing : AccountListing) : (accounts listing).Sifts ledger := by
  refine sifts_pageWindow_bind fun allowed => ?_
  have cuts := cut_of_allowed allowed (ledger.rows.accountsOf listing.owner)
  obtain ⟨accounts, loaded⟩ := Ledger.exists_mapM_load fun row member =>
    readable row (List.mem_filter.mp (Page.mem_of_mem_cut member)).1
  exact (Work.single_listAccounts _).sifts_store calm ⟨_, ledger.books, accounts,
    Books.execute_eq_ok.mpr ⟨Tables.reading_eq_ok.mpr ⟨cuts, rfl⟩, rfl⟩, loaded⟩

theorem sifts_entries (id : Int) (page : Page) : (entries id page).Sifts ledger := by
  refine sifts_pageWindow_bind fun allowed => ?_
  refine Dialogue.Outward.sifts (Dialogue.outward_bind ?_ fun _ => ?_) fun query first => ?_
  · refine (sifts_account calm readable id).mpr fun query first => ?_
    cases first
    rfl
  · have after : (ledger.serve (account id)).2 = (ledger.query (.findAccount id)).2 :=
      congrArg Prod.snd ((Work.single_findAccount id).serve_need _ ledger)
    rw [after]
    have cuts := cut_of_allowed allowed ((ledger.query (.findAccount id)).2.rows.entriesOf id)
    have sifts := (Work.single_ask (.listEntries ⟨id, _⟩)).sifts_store (calm.query _)
      ⟨_, (ledger.query (.findAccount id)).2.books, _,
        Books.execute_eq_ok.mpr ⟨Tables.reading_eq_ok.mpr ⟨cuts, rfl⟩, rfl⟩, rfl⟩
    refine sifts.mpr fun query first => ?_
    cases first
    rfl
  · cases first
    rfl

end Service

/-! ### Requests -/

namespace Http

open Dialogue (sifts_ofExcept_bind sifts_bind_pure)

/-- The first call that a request comes to, if it comes to one. -/
def Request.first? (policy : SelfTransferPolicy) (request : Request) : Option Call :=
  request.action?.bind fun action => (action.perform policy request).first?

theorem isInternal_eq_false {error : ServiceError} :
    error.isInternal = false ↔ error.status < 500 := by
  rw [ServiceError.isInternal, decide_eq_false_iff_not, Nat.not_le]

section Performed

variable {ledger : Ledger} (calm : ledger.Calm)
  (readable : ∀ row ∈ ledger.rows.accounts, row.Readable)

include calm readable

/-- **Every action but a payment sifts.** -/
theorem sifts_perform (policy : SelfTransferPolicy) (request : Request) {action : Action}
    (other : action ≠ .pay) : (action.perform policy request).Sifts ledger := by
  have body : ∀ {γ : Type} {reader : Json.Reader γ} error,
      Intake.body reader request = .error error → error.isInternal = false :=
    fun _ fails => isInternal_eq_false.mpr (by rw [Intake.status_of_body fails]; decide)
  have text := fun name segment => (@Intake.reported_text request name segment).told
  have number := fun name segment => (@Intake.reported_number request name segment).told
  cases action with
  | register =>
    exact sifts_ofExcept_bind body fun user _ => sifts_bind_pure (Service.sifts_register calm user)
  | showUser segment =>
    exact sifts_ofExcept_bind (text _ segment) fun username _ =>
      sifts_bind_pure (Service.sifts_user calm username)
  | changeProfile segment =>
    exact sifts_ofExcept_bind (text _ segment) fun username _ =>
      sifts_ofExcept_bind body fun patch _ =>
        sifts_bind_pure (Service.sifts_changeProfile calm ⟨username, patch⟩)
  | openAccount =>
    exact sifts_ofExcept_bind body fun account _ =>
      sifts_bind_pure (Service.sifts_openAccount calm account)
  | listAccounts =>
    exact sifts_ofExcept_bind (Intake.reported_query (by decide)).told fun listing _ =>
      sifts_bind_pure (Service.sifts_accounts calm readable listing)
  | showAccount segment =>
    exact sifts_ofExcept_bind (number _ segment) fun id _ =>
      sifts_bind_pure (Service.sifts_account calm readable id)
  | listEntries segment =>
    exact sifts_ofExcept_bind (number _ segment) fun id _ =>
      sifts_ofExcept_bind (Intake.reported_query (by decide)).told fun page _ =>
        sifts_bind_pure (Service.sifts_entries calm readable id page)
  | pay => exact absurd rfl other
  | listTransfers =>
    exact sifts_ofExcept_bind (Intake.reported_query (by decide)).told fun listing _ =>
      sifts_bind_pure (Service.sifts_transfers calm listing)
  | showTransfer segment =>
    exact sifts_ofExcept_bind (number _ segment) fun id _ =>
      sifts_bind_pure (Service.sifts_transfer calm id)
  | showEntry segment =>
    exact sifts_ofExcept_bind (number _ segment) fun id _ =>
      sifts_bind_pure (Service.sifts_entry calm id)

end Performed

variable (policy : SelfTransferPolicy) (fresh : Uuid) {request : Request}

/-- A request that names no action is answered that there is nothing, or no such method. -/
theorem status_of_no_action (ledger : Ledger) (nothing : request.action? = none) :
    (serve policy fresh request ledger).1.status = 404 ∨
      (serve policy fresh request ledger).1.status = 405 := by
  unfold serve Api.respond Api.bare
  unfold Request.action? at nothing
  cases found : Resource.ofPath? request.path with
  | none => exact .inl rfl
  | some resource =>
    rw [found] at nothing
    have unknown : resource.action? request.method = none := nothing
    simp only [unknown]
    exact .inr rfl

variable {past : List Ledger.Exchange} {ledger : Ledger}

/-- **A request that is no payment** is answered with a status below 500 just when the first
statement it comes to holds no U+0000. -/
theorem status_lt_500_iff (reachable : Reachable Call.Typed past ledger) (calm : ledger.Calm)
    (other : request.action? ≠ some .pay) :
    (serve policy fresh request ledger).1.status < 500 ↔
      ∀ query, request.first? policy = some (.query query) → query.Clean := by
  have typed : ledger.rows.Typed := (Tables.typed.of_reachable reachable).holds
  cases named : request.action? with
  | none =>
    have status := status_of_no_action policy fresh ledger named
    refine iff_of_true (by omega) fun query first => ?_
    rw [Request.first?, named] at first
    cases first
  | some action =>
    have sifts := sifts_perform calm (fun row stored => (typed row stored).2) policy request
      fun pays => other (named.trans (congrArg some pays))
    have first : request.first? policy = (action.perform policy request).first? := by
      rw [Request.first?, named]
      rfl
    rw [status_of_serve policy fresh ledger named, first]
    refine Iff.trans ?_ sifts
    cases served : (ledger.serve (action.perform policy request)).1 with
    | ok response =>
      have status : response.1 = 200 ∨ response.1 = 201 :=
        status_of_perform policy request action ledger response served
      refine iff_of_true ?_ (Dialogue.outward_of_ok served)
      show response.1 < 500
      omega
    | error error =>
      show error.status < 500 ↔ _
      rw [← isInternal_eq_false]
      constructor
      · exact fun told => Dialogue.outward_of_error told served
      · exact fun outward => outward error served

/-- Asks for a user whose name is not ASCII. -/
def userRequest : Request := { method := "GET", target := "/users/Zo%C3%ab" }

theorem status_lt_500_iff_userRequest :
    (serve .reject .nil userRequest withUser).1.status < 500 ∧
      userRequest.first? .reject = some (.query (.findUser "Zoë")) := by
  have named : userRequest.action? = some (.showUser "Zo%C3%ab".toList) := by decide
  have spells : Spells ['Z', 'o', '%', 'C', '3', '%', 'a', 'b'] [0x5A, 0x6F, 0xC3, 0xAB] :=
    .bare rfl (.bare rfl (.escaped (h := 0xC) (l := 3) rfl rfl
      (.escaped (h := 0xA) (l := 0xB) rfl rfl .nil)))
  have read : Intake.pathText "username" "Zo%C3%ab".toList = .ok "Zoë" :=
    Intake.pathText_of_spells spells
  have first : userRequest.first? .reject = some (.query (.findUser "Zoë")) := by
    rw [Request.first?, named]
    show Dialogue.first? (Action.perform .reject userRequest (.showUser "Zo%C3%ab".toList)) = _
    rw [Action.perform, read]
    rfl
  have reachable : Reachable Call.Typed _ withUser :=
    .step (.perform (Work.createUser ⟨"Zoë", "Zoë", "zoe@example.com"⟩)) .fresh
      ⟨trivial, fun _ => trivial⟩
  have calm : withUser.Calm := ⟨by decide, by decide, by decide⟩
  refine ⟨(status_lt_500_iff .reject .nil reachable calm (by rw [named]; decide)).mpr ?_, first⟩
  intro query asked
  rw [first] at asked
  cases asked
  exact (by decide : (Query.findUser "Zoë").hasNul = false)

/-- Asks for the user whose name is U+0000. -/
def nulUser : Request := { method := "GET", target := "/users/%00" }

theorem status_of_nulUser :
    Reachable Call.Typed [] .fresh ∧ Ledger.fresh.Calm ∧ nulUser.action? ≠ some .pay ∧
      (serve .reject .nil nulUser .fresh).1.status = 500 := by
  have named : nulUser.action? = some (.showUser "%00".toList) := by decide
  have spells : Spells ['%', '0', '0'] [0] := .escaped (h := 0) (l := 0) rfl rfl .nil
  have read : Intake.pathText "username" "%00".toList = .ok "\x00" :=
    Intake.pathText_of_spells spells
  refine ⟨.fresh, ⟨rfl, rfl, rfl⟩, by rw [named]; decide, ?_⟩
  rw [status_of_serve .reject .nil .fresh named, Action.perform, read]
  rfl

end Http

end Passbook
