/-
**Listings, page by page.**

The accounts of an owner, the entries of an account, and the transfers from or to an account are
listed over HTTP in pages.

* `Listing.rows listing tables` — the rows of a listing: those of its table that concern it
  (`mem_rows`), by increasing number (`ordered`).
* `Listing.Asks page request` — the request asks for a page of the listing; `asks_request` — its
  usual request does.
* `Listing.Outcome page ledger outcome` — what such a request comes to; `outcome_of_serve`.
* **`listing_pages`** — in every state that a run leads to, an allowed page shows its part of the
  rows, and the pages of a size part them; `entries_of_missing` — of an account that is not there no
  entries are listed.
-/

import Passbook.Proofs.Money.AnyOrder
import Passbook.Proofs.Service.Statuses
import Passbook.Proofs.Service.Targets
import Passbook.Proofs.Service.Traceless

namespace Passbook

open Http (Request Resource Response listed)
open Internet (Pairs.write)
open Json (Value)
open Ledger (Query Books Tables AccountRow Exchange)
open Text (IntegerRange)

/-- The row of an account as it is answered. -/
def Ledger.AccountRow.toJson (row : AccountRow) : Value :=
  .object [("id", .int row.id), ("owner", .string row.owner), ("balance", .int row.balance),
    ("currency", .string row.currency), ("created_at", row.createdAt.toJson)]

/-- A list of rows that is shown in pages. -/
inductive Listing where
  /-- The accounts of an owner. -/
  | accounts (owner : String)
  /-- The entries of an account. -/
  | entries (account : Int)
  /-- The transfers from or to an account. -/
  | transfers (account : Int)

namespace Listing

/-! ### Rows -/

def Item : Listing → Type
  | accounts _ => AccountRow
  | entries _ => Entry
  | transfers _ => Transfer

/-- The table from which the rows of a listing are taken. -/
def table : (listing : Listing) → Tables → List listing.Item
  | accounts _, tables => tables.accounts
  | entries _, tables => tables.entries
  | transfers _, tables => tables.transfers

/-- The row belongs to the listing. -/
def Concerns : (listing : Listing) → listing.Item → Prop
  | accounts owner, (row : AccountRow) => row.owner = owner
  | entries account, (row : Entry) => row.account = account
  | transfers account, (row : Transfer) => row.source = account ∨ row.target = account

def number : (listing : Listing) → listing.Item → Int
  | accounts _, (row : AccountRow) => row.id
  | entries _, (row : Entry) => row.id
  | transfers _, (row : Transfer) => row.id

/-- The rows of a listing. -/
def rows : (listing : Listing) → Tables → List listing.Item
  | accounts owner, tables => tables.accountsOf owner
  | entries account, tables => tables.entriesOf account
  | transfers account, tables => tables.transfersBetween account account

variable {listing : Listing} {tables : Tables} {page : Page}

/-- **The rows of a listing** are all those of its table that belong to it. -/
theorem mem_rows {row : listing.Item} :
    row ∈ listing.rows tables ↔ row ∈ listing.table tables ∧ listing.Concerns row := by
  cases listing with
  | accounts owner => exact List.mem_filter.trans (and_congr_right fun _ => beq_iff_eq)
  | entries account => exact List.mem_filter.trans (and_congr_right fun _ => beq_iff_eq)
  | transfers account =>
    refine List.mem_filter.trans (and_congr_right fun _ => ?_)
    exact Bool.or_eq_true_iff.trans (or_congr beq_iff_eq beq_iff_eq)

/-- **They are listed by increasing number**, and so none of them twice. -/
theorem ordered {books : Books} (sound : books.Sound) (listing : Listing) :
    ((listing.rows books.rows).map listing.number).Pairwise (· < ·) := by
  cases listing with
  | accounts owner => exact sound.accounts.ordered.sublist (List.filter_sublist.map _)
  | entries account => exact sound.entries.ordered.sublist (List.filter_sublist.map _)
  | transfers account => exact sound.transfers.ordered.sublist (List.filter_sublist.map _)

/-- Some rows of a listing as they are answered. -/
def body : (listing : Listing) → List listing.Item → Value
  | accounts _, shown => .object [listed "accounts" (shown.map AccountRow.toJson)]
  | entries account, shown =>
    .object [("account_id", .int account), listed "entries" (shown.map Entry.toJson)]
  | transfers _, shown => .object [listed "transfers" (shown.map Transfer.toJson)]

/-! ### Requests -/

/-- The path and the query name a page of the listing. -/
def Named : Listing → Page → Request → Prop
  | accounts owner, page, request =>
    Resource.ofPath? request.path = some .accounts ∧
    Http.Intake.query (AccountListing.form Http.Query.primitives) request = .ok ⟨owner, page⟩
  | entries account, page, request => ∃ segment,
    Resource.ofPath? request.path = some (.accountEntries segment) ∧
    Http.Intake.pathNumber "account_id" segment = .ok account ∧
    Http.Intake.query (Page.listingForm Http.Query.primitives) request = .ok page
  | transfers account, page, request =>
    Resource.ofPath? request.path = some .transfers ∧
    Http.Intake.query (TransferListing.form Http.Query.primitives) request = .ok ⟨account, page⟩

/-- The request asks for a page of the listing. -/
structure Asks (listing : Listing) (page : Page) (request : Request) : Prop where
  method : request.method = "GET"
  named : listing.Named page request

/-- The usual path of a listing, behind its first slash. -/
def path : Listing → List Char
  | accounts _ => "accounts".toList
  | entries account => "accounts".toList ++ '/' :: ((toString account).toList ++
      '/' :: "entries".toList)
  | transfers _ => "transfers".toList

/-- What the query says of a page. -/
def pagePairs (page : Page) : List (String × String) :=
  [("page_id", toString page.number), ("page_size", toString page.size)]

def pairs : Listing → Page → List (String × String)
  | accounts owner, page => ("owner", owner) :: pagePairs page
  | entries _, page => pagePairs page
  | transfers account, page => ("account_id", toString account) :: pagePairs page

/-- The usual request for a page of a listing. -/
def request (listing : Listing) (page : Page) : Request :=
  { method := "GET"
    target := String.ofList ('/' :: listing.path ++ '?' :: Pairs.write (listing.pairs page)) }

/-- The number of the account is one of 64 bits. -/
def InRange : Listing → Prop
  | accounts _ => True
  | entries account | transfers account => IntegerRange.int64.contains account = true

/-- A path consists of slashes and characters that stand for themselves. -/
theorem bare_of_mem_path {c : Char} (member : c ∈ listing.path) :
    c = '/' ∨ Text.Percent.isBare c = true := by
  have accountsBare : "accounts".toList.all Text.Percent.isBare = true := by decide
  have entriesBare : "entries".toList.all Text.Percent.isBare = true := by decide
  have transfersBare : "transfers".toList.all Text.Percent.isBare = true := by decide
  cases listing with
  | accounts owner => exact .inr (List.all_eq_true.mp accountsBare c member)
  | transfers account => exact .inr (List.all_eq_true.mp transfersBare c member)
  | entries account =>
    rcases List.mem_append.mp member with here | member
    · exact .inr (List.all_eq_true.mp accountsBare c here)
    rcases List.mem_cons.mp member with here | member
    · exact .inl here
    rcases List.mem_append.mp member with here | member
    · exact .inr (Http.isBare_of_mem_toString here)
    rcases List.mem_cons.mp member with here | member
    · exact .inl here
    · exact .inr (List.all_eq_true.mp entriesBare c member)

theorem not_mem_path {other : Char} (noSlash : other ≠ '/')
    (notBare : Text.Percent.isBare other = false) : other ∉ listing.path := by
  intro member
  rcases bare_of_mem_path member with same | bare
  · exact noSlash same
  · rw [bare] at notBare
    cases notBare

theorem target_request (listing : Listing) (page : Page) :
    (listing.request page).path = '/' :: listing.path ∧
      (listing.request page).query = Pairs.write (listing.pairs page) := by
  have noFragment : '#' ∉ listing.path := not_mem_path (by decide) (by decide)
  have noQuery : '?' ∉ listing.path := not_mem_path (by decide) (by decide)
  have target := Http.Target.read_write noQuery noFragment (listing.pairs page)
  rw [Request.path, Request.query, request, String.toList_ofList, target]
  exact ⟨rfl, rfl⟩

/-- A page is read from the last two pairs. -/
theorem inOrder_pagePairs (inRange : IntegerRange.int64.contains page.number = true ∧
    IntegerRange.int64.contains page.size = true) {α : Type} (make : Int → Int → α) :
    (Form.standard "page_id" Http.Query.primitives.int64 Page.standard.number <|
      .standard "page_size" Http.Query.primitives.int64 Page.standard.size <|
      .done make).inOrder (pagePairs page) = some (make page.size page.number) := by
  have number : Http.Query.primitives.int64 (toString page.number) = .ok page.number :=
    Text.Numeral.readInt64_toString inRange.1
  have size : Http.Query.primitives.int64 (toString page.size) = .ok page.size :=
    Text.Numeral.readInt64_toString inRange.2
  simp only [pagePairs, Form.inOrder_standard, Form.inOrder_done, number, size, Option.map_some]

/-- **The usual request for a page** asks for it. -/
theorem asks_request (inRange : listing.InRange) (allowed : page.Allowed) :
    listing.Asks page (listing.request page) := by
  obtain ⟨path, query⟩ := target_request listing page
  have numbers : IntegerRange.int64.contains page.number = true ∧
      IntegerRange.int64.contains page.size = true := by
    have number := allowed.number
    have greatest := allowed.number_le
    have size := allowed.size
    rw [IntegerRange.int64_contains, IntegerRange.int64_contains]
    omega
  refine ⟨rfl, ?_⟩
  cases listing with
  | accounts owner =>
    refine ⟨by rw [path]; rfl, Http.Intake.query_of_write (by decide) ?_ query⟩
    have named : Http.Query.primitives.text owner = .ok owner := rfl
    simp only [AccountListing.form, pairs, Form.inOrder_required, inOrder_pagePairs numbers, named,
      Option.map_some]
  | entries account =>
    refine ⟨(toString account).toList, ?_, Http.Intake.pathNumber_toString _ inRange,
      Http.Intake.query_of_write (by decide) (inOrder_pagePairs numbers _) query⟩
    have whole : '/' ∉ (toString account).toList := fun inside =>
      absurd (Http.isBare_of_mem_toString inside) (by decide)
    rw [path]
    exact Http.ofPath?_accountEntries whole
  | transfers account =>
    refine ⟨by rw [path]; rfl, Http.Intake.query_of_write (by decide) ?_ query⟩
    have named : Http.Query.primitives.int64 (toString account) = .ok account :=
      Text.Numeral.readInt64_toString inRange
    simp only [TransferListing.form, pairs, Form.inOrder_required, inOrder_pagePairs numbers, named,
      Option.map_some]

/-! ### What a request comes to -/

/-- What is done for a request for a page. -/
def dialogue : Listing → Page → Dialogue (Nat × Value)
  | accounts owner, page => do
    let accounts ← Service.accounts ⟨owner, page⟩
    return (200, .object [listed "accounts" (accounts.map Account.toJson)])
  | entries account, page => do
    let entries ← Service.entries account page
    return (200, .object
      [("account_id", .int account), listed "entries" (entries.map Entry.toJson)])
  | transfers account, page => do
    let transfers ← Service.transfers ⟨account, page⟩
    return (200, .object [listed "transfers" (transfers.map Transfer.toJson)])

theorem Asks.action {request : Request} (asks : listing.Asks page request)
    (policy : SelfTransferPolicy) : ∃ action, request.action? = some action ∧
      ∀ ledger : Ledger,
        ledger.serve (action.perform policy request) = ledger.serve (listing.dialogue page) := by
  obtain ⟨method, named⟩ := asks
  cases listing with
  | accounts owner =>
    obtain ⟨path, read⟩ := named
    refine ⟨.listAccounts, by rw [Request.action?, path, method]; rfl, fun ledger => ?_⟩
    rw [Http.Action.perform, read, ledger.serve_ofExcept_bind]
    rfl
  | entries account =>
    obtain ⟨segment, path, number, read⟩ := named
    refine ⟨.listEntries segment, by rw [Request.action?, path, method]; rfl, fun ledger => ?_⟩
    rw [Http.Action.perform, number, read, ledger.serve_ofExcept_bind]
    rfl
  | transfers account =>
    obtain ⟨path, read⟩ := named
    refine ⟨.listTransfers, by rw [Request.action?, path, method]; rfl, fun ledger => ?_⟩
    rw [Http.Action.perform, read, ledger.serve_ofExcept_bind]
    rfl

/-- The account that must be there for anything to be listed. -/
def account? : Listing → Option Int
  | entries account => some account
  | accounts _ | transfers _ => none

/-- The text that is looked for can be stored. -/
def Storable : Listing → Prop
  | accounts owner => '\x00' ∉ owner.toList
  | entries _ | transfers _ => True

/-- **What a request for a page comes to.** -/
inductive Outcome (listing : Listing) (page : Page) (ledger : Ledger) :
    Except ServiceError (Nat × Value) → Prop
  | shown (allowed : page.Allowed)
    (there : ∀ id, listing.account? = some id → ledger.rows.HasAccount id) :
    Outcome listing page ledger (.ok (200, listing.body (page.cut (listing.rows ledger.rows))))
  | missing {id : Int} (allowed : page.Allowed) (asked : listing.account? = some id)
    (absent : ¬ ledger.rows.HasAccount id) :
    Outcome listing page ledger (.error (.accountNotFound id))
  | refused (other : ¬ page.Allowed) (problem : PageError) :
    Outcome listing page ledger (.error (.rule (.invalidPage problem.message)))
  /-- No connection is given out, or a fault strikes, or no tables are laid out. -/
  | hindered {error : DatabaseError} (allowed : page.Allowed)
    (reason : ledger.Trouble error ∨ ledger.tables = none) :
    Outcome listing page ledger (.error (.store (.database error)))

variable {ledger : Ledger}

/-- The page is checked first. -/
theorem outcome_of_pageWindow {α : Type} {rest : Window → Dialogue α} {respond : α → Nat × Value}
    (later : page.Allowed → listing.Outcome page ledger
      ((ledger.serve (rest ⟨page.size, (page.number - 1) * page.size⟩)).1.map respond)) :
    listing.Outcome page ledger
      ((ledger.serve (Service.pageWindow page >>= rest)).1.map respond) := by
  rcases Service.pageWindow_cases page with ⟨allowed, shown⟩ | ⟨other, problem, refused⟩
  · rw [shown, ledger.serve_ofExcept_bind]
    exact later allowed
  · rw [refused, ledger.serve_ofExcept_bind]
    exact .refused other problem

/-- Then the rows are asked for, by a statement that is answered unless something hinders it. -/
theorem outcome_of_store {α : Type} {work : Work α} {query : Query}
    {make : query.Answer → Except DatabaseError α} (single : work.Single query make)
    {asked : Ledger} {answer : query.Answer} {next : Books} {value : α}
    (executed : asked.books.execute asked.clock query = .ok (answer, next))
    (made : make answer = .ok value) {respond : α → Nat × Value} (allowed : page.Allowed)
    (there : ∀ id, listing.account? = some id → ledger.rows.HasAccount id)
    (responds : respond value = (200, listing.body (page.cut (listing.rows ledger.rows))))
    (reason : ∀ error, Ledger.Hindrance query asked error →
      ledger.Trouble error ∨ ledger.tables = none) :
    listing.Outcome page ledger ((asked.serve (Dialogue.store work)).1.map respond) := by
  rcases single.serve_store_cases executed made with gives | ⟨error, gives, hindrance⟩
  · rw [gives, Except.map, responds]
    exact .shown allowed there
  · rw [gives]
    exact .hindered allowed (reason error hindrance)

theorem outcome_accounts (readable : ∀ row ∈ ledger.rows.accounts, row.Readable) {owner : String}
    (storable : '\x00' ∉ owner.toList) (page : Page) :
    (accounts owner).Outcome page ledger (ledger.serve ((accounts owner).dialogue page)).1 := by
  rw [dialogue, ledger.serve_bind_pure]
  refine outcome_of_pageWindow fun allowed => ?_
  have clean : Query.Clean (.listAccounts ⟨owner, page.size, (page.number - 1) * page.size⟩) := by
    show ([owner].any fun text => text.toList.contains '\x00') = false
    simpa using storable
  have cuts := Service.cut_of_allowed allowed (ledger.rows.accountsOf owner)
  have each : ∀ row ∈ page.cut (ledger.rows.accountsOf owner), row.Readable :=
    fun row member => readable row (List.mem_filter.mp (Page.mem_of_mem_cut member)).1
  obtain ⟨accounts, loaded⟩ := Ledger.exists_mapM_load each
  refine outcome_of_store (Work.single_listAccounts _)
    (Ledger.Books.execute_eq_ok.mpr ⟨Tables.reading_eq_ok.mpr ⟨cuts, rfl⟩, rfl⟩) loaded allowed
    (fun _ absurd => by cases absurd) ?_ fun error hindrance => hindrance.reason clean
  have rows : accounts.map Account.toRow = page.cut (ledger.rows.accountsOf owner) :=
    Ledger.mapM_load_eq_ok.mp loaded
  show (200, Value.object [listed "accounts" (accounts.map Account.toJson)]) =
    (200, Value.object [listed "accounts"
      ((page.cut (ledger.rows.accountsOf owner)).map AccountRow.toJson)])
  rw [← rows, List.map_map]
  rfl

theorem outcome_transfers (account : Int) (page : Page) :
    (transfers account).Outcome page ledger
      (ledger.serve ((transfers account).dialogue page)).1 := by
  rw [dialogue, ledger.serve_bind_pure]
  refine outcome_of_pageWindow fun allowed => ?_
  have cuts := Service.cut_of_allowed allowed (ledger.rows.transfersBetween account account)
  exact outcome_of_store (Work.single_ask (.listTransfers ⟨account, account, _⟩))
    (Ledger.Books.execute_eq_ok.mpr ⟨Tables.reading_eq_ok.mpr ⟨cuts, rfl⟩, rfl⟩) rfl allowed
    (fun _ absurd => by cases absurd) rfl fun error hindrance => hindrance.reason rfl

/-- A lookup of an account fails, or does not find it, or finds it. -/
theorem serve_account_cases (readable : ∀ row ∈ ledger.rows.accounts, row.Readable) (id : Int) :
    (∃ error, (ledger.Trouble error ∨ ledger.tables = none) ∧
      (ledger.serve (Service.account id)).1 = .error (.store (.database error))) ∨
    (¬ ledger.rows.HasAccount id ∧
      (ledger.serve (Service.account id)).1 = .error (.accountNotFound id)) ∨
    ∃ found account, (ledger.query (.findAccount id)).1 = .ok found ∧
      ledger.rows.HasAccount id ∧
      ledger.serve (Service.account id) = (.ok account, (ledger.query (.findAccount id)).2) := by
  rw [Service.account, (Work.single_findAccount id).serve_need]
  cases replied : (ledger.query (.findAccount id)).1 with
  | error error =>
    rcases Ledger.hindered_or_refused replied with hindrance | ⟨refusal, _, refuses⟩
    · exact .inl ⟨error, hindrance.reason rfl, rfl⟩
    · cases refuses
  | ok found =>
    obtain rfl := Service.found_of_lookup replied
    cases stands : ledger.rows.account? id with
    | none =>
      refine .inr (.inl ⟨fun there => ?_, rfl⟩)
      exact Tables.account?_isNone.mpr there (by rw [stands]; rfl)
    | some row =>
      obtain ⟨stored, its⟩ := Tables.account?_eq_some stands
      obtain ⟨account, loads⟩ := (readable row stored).load
      refine .inr (.inr ⟨_, account, rfl, ⟨row, stored, its⟩, ?_⟩)
      have made : (some row).mapM AccountRow.load = .ok (some account) := by
        rw [Option.mapM_some, loads]
        rfl
      exact congrArg (fun given => ((Except.mapError _ given).bind _, _)) made

theorem outcome_entries (readable : ∀ row ∈ ledger.rows.accounts, row.Readable) (account : Int)
    (page : Page) :
    (entries account).Outcome page ledger (ledger.serve ((entries account).dialogue page)).1 := by
  rw [dialogue, ledger.serve_bind_pure]
  refine outcome_of_pageWindow fun allowed => ?_
  rcases serve_account_cases readable account with
    ⟨error, reason, gives⟩ | ⟨absent, gives⟩ | ⟨found, holder, replied, there, gives⟩
  · rw [ledger.serve_bind_of_error gives]
    exact .hindered allowed reason
  · rw [ledger.serve_bind_of_error gives]
    exact .missing allowed rfl absent
  · rw [ledger.serve_bind, gives]
    have rows : (ledger.query (.findAccount account)).2.rows = ledger.rows :=
      ledger.rows_query rfl
    have answering := Ledger.answering_of_query replied
    have cuts := Service.cut_of_allowed allowed
      ((ledger.query (.findAccount account)).2.rows.entriesOf account)
    refine outcome_of_store (Work.single_ask (.listEntries ⟨account, _⟩))
      (Ledger.Books.execute_eq_ok.mpr ⟨Tables.reading_eq_ok.mpr ⟨cuts, rfl⟩, rfl⟩) rfl allowed
      ?_ ?_ fun error hindrance => ?_
    · intro id same
      cases same
      exact there
    · rw [rows]
      rfl
    · rcases hindrance.reason rfl with trouble | absent
      · exact .inl (trouble.earlier answering.around)
      · have laid := answering.laid
        rw [absent] at laid
        cases laid

/-- **What is done for a request for a page** comes to one of the outcomes. -/
theorem outcome_of_serve (readable : ∀ row ∈ ledger.rows.accounts, row.Readable)
    (storable : listing.Storable) (page : Page) :
    listing.Outcome page ledger (ledger.serve (listing.dialogue page)).1 := by
  cases listing with
  | accounts owner => exact outcome_accounts readable storable page
  | entries account => exact outcome_entries readable account page
  | transfers account => exact outcome_transfers account page

/-- **A request for a page** is answered as what is done for it comes to. -/
theorem Asks.serve {request : Request} (asks : listing.Asks page request)
    (policy : SelfTransferPolicy) (fresh : Http.Uuid) (ledger : Ledger) :
    (Http.serve policy fresh request ledger).1.status =
        (Response.ofOutcome (ledger.serve (listing.dialogue page)).1).status ∧
      (Http.serve policy fresh request ledger).1.content =
        (Response.ofOutcome (ledger.serve (listing.dialogue page)).1).content := by
  obtain ⟨action, named, performs⟩ := asks.action policy
  have noHead : ¬ (request.method == "HEAD") = true := by
    rw [asks.method]
    decide
  rw [Http.serve_of_action policy fresh ledger named, performs, Http.Api.trimmed, if_neg noHead]
  exact ⟨rfl, rfl⟩

end Listing

/-! ### Runs -/

/-- **Listings in pages.** In every state that a run leads to, the rows of a listing are those of
its table that belong to it, by increasing number, and the pages of a size that is allowed part
them. A page has the window behind all earlier pages, within the 64-bit integers, or it is refused.
A request for a page, its usual request among them, leaves the rows and is answered with what the
page shows of them. Nothing else comes of a page that is allowed, but where the account of entries
is not there, or where the database is in trouble or has no tables. -/
theorem listing_pages {past : List Exchange} {ledger : Ledger}
    (reachable : Reachable Call.Typed past ledger) (listing : Listing) :
    (∀ row, row ∈ listing.rows ledger.rows ↔
      row ∈ listing.table ledger.rows ∧ listing.Concerns row) ∧
    ((listing.rows ledger.rows).map listing.number).Pairwise (· < ·) ∧
    (∀ size : Int, 5 ≤ size → size ≤ 10 →
      ∃ last, Page.Parts size (listing.rows ledger.rows) last) ∧
    (∀ page : Page,
      (page.Allowed ∧ 0 ≤ (page.number - 1) * page.size ∧
        page.allowedWindow = .ok ⟨page.size, (page.number - 1) * page.size⟩) ∨
      ¬ page.Allowed ∧ ∃ problem : PageError,
        page.allowedWindow = .error (.invalidPage problem.message)) ∧
    (∀ page : Page, page.Allowed → listing.InRange → listing.Asks page (listing.request page)) ∧
    ∀ policy fresh page request, listing.Storable → listing.Asks page request →
      (Http.serve policy fresh request ledger).2.rows = ledger.rows ∧
      ∃ outcome, listing.Outcome page ledger outcome ∧
        (Http.serve policy fresh request ledger).1.status =
          (Response.ofOutcome outcome).status ∧
        (Http.serve policy fresh request ledger).1.content =
          (Response.ofOutcome outcome).content := by
  have typed : ledger.rows.Typed := (Tables.typed.of_reachable reachable).holds
  refine ⟨fun row => Listing.mem_rows, Listing.ordered reachable.sound listing,
    fun size least _ => Page.exists_parts (by omega) _, fun page => ?_,
    fun page allowed inRange => Listing.asks_request inRange allowed,
    fun policy fresh page request storable asks => ⟨?_, ?_⟩⟩
  · rcases page.allowedWindow_cases with ⟨allowed, window⟩ | refused
    · exact .inl ⟨allowed, allowed.skipped_nonneg, window⟩
    · exact .inr refused
  · exact Http.rows_of_shown policy fresh ledger (.inl asks.method)
  · exact ⟨_, Listing.outcome_of_serve (fun row stored => (typed row stored).2) storable page,
      asks.serve policy fresh ledger⟩

/-- Transfers of which the first and the sixth go from the first account to itself, and the fourth
leaves it alone. -/
def busyDay : List Movement :=
  [⟨1, 1, 30⟩, ⟨1, 4, 10⟩, ⟨4, 1, 5⟩, ⟨2, 5, 1⟩, ⟨1, 2, 1⟩, ⟨1, 1, 2⟩, ⟨3, 1, 4⟩, ⟨6, 1, 1⟩]

def afterBusyDay : Ledger :=
  (demonstration.transferAll busyDay).2

def firstPage : List Transfer :=
  [⟨1, 1, 1, 30, .newYear2024⟩, ⟨2, 1, 4, 10, .newYear2024⟩, ⟨3, 4, 1, 5, .newYear2024⟩,
    ⟨5, 1, 2, 1, .newYear2024⟩, ⟨6, 1, 1, 2, .newYear2024⟩]

def secondPage : List Transfer :=
  [⟨7, 3, 1, 4, .newYear2024⟩, ⟨8, 6, 1, 1, .newYear2024⟩]

/-- The transfers of the first account fill a page and begin another, those to itself are listed
once, and the third page is empty. -/
theorem listing_pages_busyDay :
    (Listing.transfers 1).request ⟨2, 5⟩ =
      ⟨"GET", "/transfers?account_id=1&page_id=2&page_size=5", [], ""⟩ ∧
    Page.Parts 5 (firstPage ++ secondPage) 2 ∧
    ∀ page ∈ [(1, firstPage), (2, secondPage), (3, [])],
      (Http.serve .reject .nil ((Listing.transfers 1).request ⟨page.1, 5⟩)
        afterBusyDay).1.status = 200 ∧
      (Http.serve .reject .nil ((Listing.transfers 1).request ⟨page.1, 5⟩)
        afterBusyDay).1.content =
          .json (.object [listed "transfers" (page.2.map Transfer.toJson)]) := by
  have seeded : Reachable Call.Typed _ demonstration := .step .seed .fresh trivial
  have reached : ∃ past, Reachable Call.Typed past afterBusyDay :=
    seeded.transferAll busyDay fun _ _ => trivial
  obtain ⟨past, reachable⟩ := reached
  have calm : afterBusyDay.Calm := ⟨by decide +kernel, by decide +kernel, by decide +kernel⟩
  have laid : afterBusyDay.tables ≠ none := by decide +kernel
  have rows : afterBusyDay.rows.transfersBetween 1 1 = firstPage ++ secondPage := by
    decide +kernel
  obtain ⟨_, _, parts, _, asks, serves⟩ := listing_pages reachable (.transfers 1)
  refine ⟨by decide +kernel, ?_, ?_⟩
  · obtain ⟨last, parted⟩ := parts 5 (by decide) (by decide)
    rw [Listing.rows, rows] at parted
    have two : last = 2 := by
      by_contra other
      rcases Nat.lt_or_gt_of_ne other with fewer | more
      · have nothing := parted.beyond 2 (by omega)
        cases nothing
      · have begins := parted.begins 3 (by decide) (by omega)
        exact absurd begins (by decide)
    exact two ▸ parted
  have shows : ∀ (number : Int) (shown : List Transfer), Page.Allowed ⟨number, 5⟩ →
      Page.cut ⟨number, 5⟩ (firstPage ++ secondPage) = shown →
      (Http.serve .reject .nil ((Listing.transfers 1).request ⟨number, 5⟩)
        afterBusyDay).1.status = 200 ∧
      (Http.serve .reject .nil ((Listing.transfers 1).request ⟨number, 5⟩)
        afterBusyDay).1.content =
          .json (.object [listed "transfers" (shown.map Transfer.toJson)]) := by
    rintro number _ allowed rfl
    obtain ⟨_, outcome, its, status, content⟩ :=
      serves .reject .nil ⟨number, 5⟩ _ trivial (asks ⟨number, 5⟩ allowed rfl)
    rw [status, content]
    cases its with
    | shown _ _ =>
      rw [Listing.rows, rows]
      exact ⟨rfl, rfl⟩
    | missing _ asked _ => cases asked
    | refused other _ => exact absurd allowed other
    | hindered _ reason =>
      rcases reason with trouble | absent
      · exact absurd trouble calm.not_trouble
      · exact absurd absent laid
  simp only [List.forall_mem_cons, List.not_mem_nil, false_implies, implies_true, and_true]
  exact ⟨shows 1 _ ⟨by decide, by decide, by decide⟩ (by decide),
    shows 2 _ ⟨by decide, by decide, by decide⟩ (by decide),
    shows 3 _ ⟨by decide, by decide, by decide⟩ (by decide)⟩

/-- **Of an account that is not there** no page of entries is shown, not even an empty one: the
account is reported missing. -/
theorem entries_of_missing :
    Reachable Call.Typed [] .fresh ∧ Ledger.fresh.Calm ∧ Page.Allowed ⟨1, 5⟩ ∧
    (Listing.entries 1).Asks ⟨1, 5⟩ ⟨"GET", "/accounts/1/entries?page_id=1&page_size=5", [], ""⟩ ∧
    (Listing.entries 1).rows Ledger.fresh.rows = [] ∧
    (Http.serve .reject .nil ⟨"GET", "/accounts/1/entries?page_id=1&page_size=5", [], ""⟩
      .fresh).1.status = 404 ∧
    (Http.serve .reject .nil ⟨"GET", "/accounts/1/entries?page_id=1&page_size=5", [], ""⟩
      .fresh).1.content = .json (ServiceError.accountNotFound 1).body := by
  have allowed : Page.Allowed ⟨1, 5⟩ := ⟨by decide, by decide, by decide⟩
  have usual : (Listing.entries 1).request ⟨1, 5⟩ =
      ⟨"GET", "/accounts/1/entries?page_id=1&page_size=5", [], ""⟩ := by decide +kernel
  have asks : (Listing.entries 1).Asks ⟨1, 5⟩ _ :=
    usual ▸ @Listing.asks_request (.entries 1) _ rfl allowed
  obtain ⟨status, content⟩ := asks.serve .reject .nil .fresh
  refine ⟨.fresh, ⟨rfl, rfl, rfl⟩, allowed, asks, rfl, ?_, ?_⟩
  · rw [status]
    rfl
  · rw [content]
    rfl

end Passbook
