/-
**The fields of a message, and what of them goes into the log.**

A value is a text when all of its bytes can be printed. The log shows one pair for each field, and
of a field that carries a secret nothing but its name. The pairs of one name stand together, as they
stood in the message.

* `text?_eq_some_iff` — the text that a value is.
* `pairwise_eraseDups` — names without repetition stand in the order of their first appearance.
* `grouped` — pairs put together by name: nothing is lost or repeated, and the order goes by the
  names first (`Grouped`, `grouped_grouped`).
* `log_eq_grouped` — the log groups what each field shows; `Shows` says what that is.
* **`log_masked_and_grouped`** — two messages that differ in their secrets only have the same log,
  and the log of any message shows each of its values once, grouped by name.
-/

import Mathlib.Data.List.Flatten
import Mathlib.Data.List.Perm.Basic
import Passbook.Http.Header
import Passbook.Proofs.Text.Utf8

namespace Passbook.Http

/-! ### Values -/

namespace Header

variable {header : Header} {text : List Char}

/-- A byte that can be printed: a visible ASCII character, a space or a tab. -/
def IsPrintable (b : UInt8) : Prop :=
  b.toNat = 9 ∨ 32 ≤ b.toNat ∧ b.toNat ≤ 126

theorem isVisible_iff (b : UInt8) : isVisible b = true ↔ IsPrintable b := by
  rw [isVisible, IsPrintable, Bool.or_eq_true, beq_iff_eq, Bool.and_eq_true, decide_eq_true_iff,
    decide_eq_true_iff, ← UInt8.toNat_inj]
  rfl

theorem encode_of_printable {bytes : List UInt8} (printable : ∀ b ∈ bytes, IsPrintable b) :
    Text.Utf8.encode (bytes.map fun b => Char.ofNat b.toNat) = bytes := by
  refine Text.Utf8.encode_ascii fun b among => ?_
  rcases printable b among with tab | ⟨-, greatest⟩ <;> omega

/-- **A value is a text** that it spells if all of its bytes can be printed. -/
theorem text?_eq_some_iff : header.text? = some text ↔
    (∀ b ∈ header.value, IsPrintable b) ∧ Text.Utf8.encode text = header.value := by
  have visible : header.value.all isVisible = true ↔ ∀ b ∈ header.value, IsPrintable b := by
    simp only [List.all_eq_true, isVisible_iff]
  rw [text?]
  split
  · rename_i all
    have printable := visible.mp all
    have spelled := encode_of_printable printable
    constructor
    · rintro ⟨⟩
      exact ⟨printable, spelled⟩
    · rintro ⟨-, same⟩
      rw [← Text.Utf8.decode?_encode, ← Text.Utf8.decode?_encode text, same, spelled]
  · rename_i some_hidden
    constructor
    · rintro ⟨⟩
    · rintro ⟨printable, -⟩
      exact absurd (visible.mpr printable) some_hidden

end Header

/-! ### Names in the order of their first appearance -/

/-- What is kept of a list is found in it in the order of the list. -/
theorem idxOf_lt_of_filter {α : Type} [BEq α] [LawfulBEq α] {keep : α → Bool} {first second : α}
    (kept : keep first = true) (kept' : keep second = true) :
    ∀ {list : List α}, (list.filter keep).idxOf first < (list.filter keep).idxOf second →
      list.idxOf first < list.idxOf second
  | [], before => absurd before (Nat.lt_irrefl 0)
  | head :: tail, before => by
    by_cases stays : keep head = true
    · rw [List.filter_cons_of_pos stays] at before
      by_cases atSecond : head = second
      · rw [atSecond, List.idxOf_cons_self] at before
        exact absurd before (Nat.not_lt_zero _)
      rw [List.idxOf_cons_ne _ atSecond] at before ⊢
      by_cases atFirst : head = first
      · rw [atFirst, List.idxOf_cons_self]
        exact Nat.succ_pos _
      · rw [List.idxOf_cons_ne _ atFirst] at before ⊢
        exact Nat.succ_lt_succ (idxOf_lt_of_filter kept kept' (Nat.lt_of_succ_lt_succ before))
    · rw [List.filter_cons_of_neg stays] at before
      have atFirst : head ≠ first := fun same => stays (same ▸ kept)
      have atSecond : head ≠ second := fun same => stays (same ▸ kept')
      rw [List.idxOf_cons_ne _ atFirst, List.idxOf_cons_ne _ atSecond]
      exact Nat.succ_lt_succ (idxOf_lt_of_filter kept kept' before)

/-- Without its repetitions a list stands in the order of first appearance. -/
theorem pairwise_eraseDups {α : Type} [BEq α] [LawfulBEq α] :
    ∀ list : List α, list.eraseDups.Pairwise fun first second =>
      list.idxOf first < list.idxOf second
  | [] => List.Pairwise.nil
  | head :: tail => by
    have others : ∀ other ∈ (tail.filter fun b => !b == head).eraseDups, head ≠ other := by
      rintro other among rfl
      rw [List.mem_eraseDups] at among
      simpa using List.of_mem_filter among
    rw [List.eraseDups_cons, List.pairwise_cons]
    refine ⟨fun other among => ?_, ?_⟩
    · rw [List.idxOf_cons_self, List.idxOf_cons_ne _ (others other among)]
      exact Nat.succ_pos _
    · have kept : ∀ {other : α}, other ∈ (tail.filter fun b => !b == head).eraseDups →
          (!other == head) = true :=
        fun among => (List.mem_filter.mp (List.mem_eraseDups.mp among)).2
      refine (pairwise_eraseDups _).imp_of_mem fun {first second} among among' before => ?_
      rw [List.idxOf_cons_ne _ (others first among), List.idxOf_cons_ne _ (others second among')]
      have ordered := @idxOf_lt_of_filter _ _ _ (fun other => !other == head) first second
      exact Nat.succ_lt_succ (ordered (kept among) (kept among') before)
termination_by list => list.length
decreasing_by exact Nat.lt_succ_of_le (List.length_filter_le _ _)

theorem nodup_eraseDups {α : Type} [BEq α] [LawfulBEq α] (list : List α) :
    list.eraseDups.Nodup :=
  (pairwise_eraseDups list).imp fun before same =>
    Nat.ne_of_lt before (congrArg (list.idxOf ·) same)

/-! ### Pairs grouped by name -/

section Grouping

variable {pairs result : List (String × String)}

/-- Pairs with those of one name together, the names in the order in which they first appear. -/
def grouped (pairs : List (String × String)) : List (String × String) :=
  (pairs.map Prod.fst).eraseDups.flatMap fun name => pairs.filter fun pair => pair.1 == name

/-- **Pairs are grouped by name**: they are the same pairs, each as often; those of one name stand
as they stood; and the names stand in the order in which they first appear. -/
structure Grouped (pairs result : List (String × String)) : Prop where
  same : result.Perm pairs
  within : ∀ name,
    result.filter (fun pair => pair.1 == name) = pairs.filter fun pair => pair.1 == name
  order : result.Pairwise fun first second =>
    (pairs.map Prod.fst).idxOf first.1 ≤ (pairs.map Prod.fst).idxOf second.1

/-- Of the groups of names without repetition, the filter for a name leaves one. -/
theorem filter_flatMap_groups (name : String) :
    ∀ {names : List String}, names.Nodup → (names.flatMap fun other =>
        pairs.filter fun pair => pair.1 == other).filter (fun pair => pair.1 == name) =
      if name ∈ names then pairs.filter fun pair => pair.1 == name else []
  | [], _ => rfl
  | other :: names, single => by
    have rest := filter_flatMap_groups name (List.nodup_cons.mp single).2
    rw [List.flatMap_cons, List.filter_append, rest, List.filter_filter]
    by_cases here : name = other
    · subst here
      rw [if_neg (List.nodup_cons.mp single).1, if_pos List.mem_cons_self, List.append_nil]
      simp only [Bool.and_self]
    · have none : (pairs.filter fun pair => pair.1 == name && pair.1 == other) = [] := by
        rw [List.filter_eq_nil_iff]
        rintro pair - both
        rw [Bool.and_eq_true, beq_iff_eq, beq_iff_eq] at both
        exact here (both.1.symm.trans both.2)
      rw [none, List.nil_append]
      simp only [List.mem_cons, here, false_or]

theorem filter_grouped (name : String) :
    (grouped pairs).filter (fun pair => pair.1 == name) =
      pairs.filter fun pair => pair.1 == name := by
  rw [grouped, filter_flatMap_groups name (nodup_eraseDups _)]
  by_cases named : name ∈ (pairs.map Prod.fst).eraseDups
  · rw [if_pos named]
  · rw [if_neg named, eq_comm, List.filter_eq_nil_iff]
    rintro pair among same
    refine named (List.mem_eraseDups.mpr ?_)
    exact beq_iff_eq.mp same ▸ List.mem_map_of_mem among

/-- **`grouped` groups by name.** -/
theorem grouped_grouped (pairs : List (String × String)) : Grouped pairs (grouped pairs) where
  same := by
    -- A pair is counted among those of its name, and these are the same in both.
    rw [List.perm_iff_count]
    intro pair
    have counted : ∀ list : List (String × String),
        (list.filter fun other => other.1 == pair.1).count pair = list.count pair :=
      fun list => List.count_filter (beq_self_eq_true pair.1)
    rw [← counted, filter_grouped, counted]
  within := filter_grouped
  order := by
    have named : ∀ {name : String} {pair : String × String},
        pair ∈ pairs.filter (fun other => other.1 == name) → pair.1 = name :=
      fun among => beq_iff_eq.mp (List.mem_filter.mp among).2
    rw [grouped, List.pairwise_flatMap]
    refine ⟨fun name _ => List.pairwise_of_forall_mem_list fun first among second among' => ?_,
      (pairwise_eraseDups _).imp fun before first among second among' => ?_⟩
    · exact Nat.le_of_eq (by rw [named among, named among'])
    · rw [named among, named among']
      exact Nat.le_of_lt before

end Grouping

namespace Header

/-! ### What is shown of a field -/

theorem log_eq_grouped (headers : List Header) :
    log headers = grouped (headers.map fun header => (header.key, header.shownValue)) := by
  rw [log, grouped, List.map_map]
  refine List.flatMap_congr fun name _ => ?_
  rw [List.filter_map]
  refine List.map_congr_left fun header among => ?_
  rw [beq_iff_eq.mp (List.of_mem_filter among : _)]

/-- A field that carries a secret. -/
def IsSecret (header : Header) : Prop :=
  header.key = "authorization" ∨ header.key = "cookie" ∨ header.key = "set-cookie" ∨
    header.key = "x-api-key"

theorem contains_secretKeys (header : Header) :
    secretKeys.contains header.key = true ↔ header.IsSecret := by
  rw [List.contains_iff_mem]
  simp only [secretKeys, List.mem_cons, List.not_mem_nil, or_false, IsSecret]

/-- What the log shows of a field: nothing of a secret, a value that can be printed as it is, and a
marker for any other. -/
inductive Shows (header : Header) : String → Prop
  | secret : header.IsSecret → Shows header "[REDACTED]"
  | verbatim {text : String} : ¬ header.IsSecret → (∀ b ∈ header.value, IsPrintable b) →
      Text.Utf8.encode text.toList = header.value → Shows header text
  | other : ¬ header.IsSecret → ¬ (∀ b ∈ header.value, IsPrintable b) →
      Shows header "[invalid utf8]"

theorem shows_shownValue (header : Header) : header.Shows header.shownValue := by
  rw [shownValue]
  by_cases secret : header.IsSecret
  · rw [if_pos ((contains_secretKeys header).mpr secret)]
    exact .secret secret
  rw [if_neg fun contained => secret ((contains_secretKeys header).mp contained)]
  cases read : header.text? with
  | some text =>
    obtain ⟨printable, spelled⟩ := text?_eq_some_iff.mp read
    exact .verbatim secret printable (by rwa [String.toList_ofList])
  | none =>
    refine .other secret fun printable => ?_
    rw [text?_eq_some_iff.mpr ⟨printable, encode_of_printable printable⟩] at read
    cases read

/-- Two fields of one name, whose values differ at most if they carry a secret. -/
def AlikeButSecret (first second : Header) : Prop :=
  first.key = second.key ∧ (first.value = second.value ∨ first.IsSecret)

theorem AlikeButSecret.shown {first second : Header} (alike : AlikeButSecret first second) :
    (first.key, first.shownValue) = (second.key, second.shownValue) := by
  obtain ⟨sameKey, same | secret⟩ := alike
  · rw [shownValue, shownValue, text?, text?, sameKey, same]
  · have secret' : second.IsSecret := by rwa [IsSecret, ← sameKey]
    rw [shownValue, shownValue, if_pos ((contains_secretKeys _).mpr secret),
      if_pos ((contains_secretKeys _).mpr secret'), sameKey]

/-- **The log of the fields of a message.** Messages that differ in the values of their secrets only
have the same log. The log of any message has one pair for each of its fields, of the name in lower
case and what is shown of the value, and the pairs are grouped by name. -/
theorem log_masked_and_grouped :
    (∀ first second : List Header, List.Forall₂ AlikeButSecret first second →
      log first = log second) ∧
    ∀ headers : List Header, ∃ shown : List (String × String),
      List.Forall₂ (fun header pair => pair.1 = header.key ∧ Shows header pair.2) headers shown ∧
        Grouped shown (log headers) := by
  refine ⟨fun first second alike => ?_, fun headers => ?_⟩
  · have shown : first.map (fun header => (header.key, header.shownValue)) =
        second.map fun header => (header.key, header.shownValue) := by
      rw [← List.forall₂_eq_eq_eq, List.forall₂_map_left_iff, List.forall₂_map_right_iff]
      exact alike.imp fun _ _ each => each.shown
    rw [log_eq_grouped, log_eq_grouped, shown]
  · refine ⟨headers.map fun header => (header.key, header.shownValue), ?_, ?_⟩
    · rw [List.forall₂_map_right_iff, List.forall₂_same]
      exact fun header _ => ⟨rfl, shows_shownValue header⟩
    · rw [log_eq_grouped]
      exact grouped_grouped _

/-- Two credentials under one name in different cases, with a field between them: whatever they are,
the log is the same. -/
theorem log_of_credentials :
    List.Forall₂ AlikeButSecret
        [⟨"Authorization", [0x61]⟩, ⟨"accept", [0x2A]⟩, ⟨"AUTHORIZATION", [0xFF]⟩]
        [⟨"Authorization", [0x62]⟩, ⟨"accept", [0x2A]⟩, ⟨"AUTHORIZATION", []⟩] ∧
      log [⟨"Authorization", [0x61]⟩, ⟨"accept", [0x2A]⟩, ⟨"AUTHORIZATION", [0xFF]⟩] =
        log [⟨"Authorization", [0x62]⟩, ⟨"accept", [0x2A]⟩, ⟨"AUTHORIZATION", []⟩] := by
  have alike : List.Forall₂ AlikeButSecret
      [⟨"Authorization", [0x61]⟩, ⟨"accept", [0x2A]⟩, ⟨"AUTHORIZATION", [0xFF]⟩]
      [⟨"Authorization", [0x62]⟩, ⟨"accept", [0x2A]⟩, ⟨"AUTHORIZATION", []⟩] :=
    .cons ⟨rfl, .inr (.inl (by decide +kernel))⟩ (.cons ⟨rfl, .inl rfl⟩
      (.cons ⟨rfl, .inr (.inl (by decide +kernel))⟩ .nil))
  exact ⟨alike, log_masked_and_grouped.1 _ _ alike⟩

end Header

end Passbook.Http
