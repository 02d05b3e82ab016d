/-
**Targets are read as they are written.**

* `Pairs.write` — pairs of names and values as the query of a target, every byte escaped that might
  not stand for itself; **`Pairs.read_write`** — the same pairs are read from it.
* `Query.read_write` — a form takes the pairs that stand in the order of its fields.
* `Target.read_write` — a path and a query are told apart where one is written after the other.
* `ofPath?_accountEntries` — the path of the entries of an account is found.
* `Intake.pathNumber_toString` — a number in a path is read as it was written.
-/

import Passbook.Proofs.Form
import Passbook.Proofs.Service.Sending
import Passbook.Proofs.Text.Numeral

namespace Passbook

open Text (IntegerRange)
open Text.Percent (Spells isWritten not_mem_encode spells_encode)

/-! ### Pairs of names and values -/

namespace Internet.Pairs

/-- A name or a value stands for the text that was encoded. -/
theorem decode_encode (text : String) : decode (Text.Percent.encode text).toList = text := by
  have unspaced : (Text.Percent.encode text).toList.map (fun c => if c = '+' then ' ' else c) =
      (Text.Percent.encode text).toList := by
    refine (List.map_congr_left fun c member => if_neg fun plus => ?_).trans (List.map_id _)
    exact not_mem_encode (by decide) text (plus ▸ member)
  simp only [decode, unspaced, (spells_encode text).decode, Text.Utf8.decodeLossy_encode,
    String.ofList_toList]

/-- A pair as it is written. -/
def writePair (pair : String × String) : List Char :=
  (Text.Percent.encode pair.1).toList ++ '=' :: (Text.Percent.encode pair.2).toList

/-- Pairs as they are written, with `&` between them. -/
def write : List (String × String) → List Char
  | [] => []
  | [pair] => writePair pair
  | first :: second :: rest => writePair first ++ '&' :: write (second :: rest)

theorem pair_writePair (given : String × String) : pair (writePair given) = given := by
  have noEquals : '=' ∉ (Text.Percent.encode given.1).toList := not_mem_encode (by decide) _
  rw [pair, writePair, Text.cut_append noEquals]
  simp only [Option.getD_some, decode_encode]

/-- A pair has no character that would have to be escaped, but for its equals sign. -/
theorem not_mem_writePair {other : Char} (apart : isWritten other = false) (noEquals : other ≠ '=')
    (pair : String × String) : other ∉ writePair pair := by
  have later : other ∉ '=' :: (Text.Percent.encode pair.2).toList :=
    List.not_mem_cons_of_ne_of_not_mem noEquals (not_mem_encode apart pair.2)
  exact List.not_mem_append (not_mem_encode apart pair.1) later

theorem not_mem_write {other : Char} (apart : isWritten other = false) (noEquals : other ≠ '=')
    (noAnd : other ≠ '&') (pairs : List (String × String)) : other ∉ write pairs := by
  induction pairs with
  | nil => exact List.not_mem_nil
  | cons first rest ih =>
    have here := not_mem_writePair apart noEquals first
    cases rest with
    | nil => exact here
    | cons second rest =>
      exact List.not_mem_append here (List.not_mem_cons_of_ne_of_not_mem noAnd ih)

/-- What is no empty part of a query is a pair. -/
theorem read_cons (first : String × String) (parts : List (List Char)) :
    ((writePair first :: parts).filter fun part => !part.isEmpty).map pair =
      first :: (parts.filter fun part => !part.isEmpty).map pair := by
  have whole : (!(writePair first).isEmpty) = true := by simp [writePair]
  rw [List.filter_cons, if_pos whole, List.map_cons, pair_writePair]

/-- **Pairs are read as they are written.** -/
theorem read_write (pairs : List (String × String)) : read (write pairs) = pairs := by
  have whole : ∀ pair, '&' ∉ writePair pair := not_mem_writePair (by decide) (by decide)
  induction pairs with
  | nil => rfl
  | cons first rest ih =>
    cases rest with
    | nil => rw [read, write, Text.split_of_not_mem (whole first), read_cons]; rfl
    | cons second rest =>
      rw [read, write, Text.split_append (whole first), read_cons]
      exact congrArg (List.cons first) ih

end Internet.Pairs

/-! ### Queries -/

namespace Http

open Internet (Pairs.write Pairs.read_write)

variable {α : Type}

namespace Query

theorem fillIn_of_acceptAll {form last : TextForm α} {pairs : List (String × String)}
    (accepts : form.acceptAll pairs = some last) : fillIn pairs form = last.finish := by
  induction pairs generalizing form with
  | nil =>
    cases accepts
    rfl
  | cons first rest ih =>
    obtain ⟨name, value⟩ := first
    unfold Form.acceptAll at accepts
    rw [fillIn]
    split at accepts
    · rename_i next accepted
      rw [accepted]
      exact ih accepts
    · cases accepts

/-- **A form takes the pairs of a query** that stand in the order of its fields. -/
theorem read_write {form : TextForm α} (names : form.names.Nodup) {pairs : List (String × String)}
    {record : α} (fills : form.inOrder pairs = some record) :
    read form (Pairs.write pairs) = .ok record := by
  obtain ⟨last, accepts, finishes⟩ := Form.acceptAll_of_inOrder names fills
  rw [read, Pairs.read_write, fillIn_of_acceptAll accepts, finishes]
  rfl

end Query

/-! ### Targets -/

/-- **A target is read** as the path and the query of which it was written. -/
theorem Target.read_write {rest : List Char} (noQuery : '?' ∉ rest) (noFragment : '#' ∉ rest)
    (pairs : List (String × String)) :
    Target.read ('/' :: rest ++ '?' :: Pairs.write pairs) =
      ⟨'/' :: rest, Pairs.write pairs⟩ := by
  have plain : '#' ∉ '/' :: rest ++ '?' :: Pairs.write pairs := by
    refine List.not_mem_append (List.not_mem_cons_of_ne_of_not_mem (by decide) noFragment)
      (List.not_mem_cons_of_ne_of_not_mem (by decide) ?_)
    exact Internet.Pairs.not_mem_write (by decide) (by decide) (by decide) pairs
  have path : '?' ∉ '/' :: rest := List.not_mem_cons_of_ne_of_not_mem (by decide) noQuery
  rw [List.cons_append, Target.read, Target.ofPlace, ← List.cons_append,
    Text.cut_of_not_mem plain]
  simp only [Text.cut_append path, Option.getD_some]

namespace Intake

theorem query_of_write {form : Query.TextForm α} (names : form.names.Nodup)
    {pairs : List (String × String)} {record : α} (fills : form.inOrder pairs = some record)
    {request : Request} (written : request.query = Pairs.write pairs) :
    Intake.query form request = .ok record := by
  rw [Intake.query, written, Query.read_write names fills]
  rfl

end Intake

/-! ### Parts of a path -/

/-- The path of the entries of an account, however its number is written in it. -/
theorem ofPath?_accountEntries {segment : Segment} (whole : '/' ∉ segment) :
    Resource.ofPath? ('/' :: ("accounts".toList ++ '/' :: (segment ++ '/' :: "entries".toList))) =
      some (.accountEntries segment) := by
  have parts : Text.split '/'
      ('/' :: ("accounts".toList ++ '/' :: (segment ++ '/' :: "entries".toList))) =
      [[], "accounts".toList, segment, "entries".toList] := by
    rw [← List.nil_append ('/' :: _), Text.split_append List.not_mem_nil,
      Text.split_append (by decide), Text.split_append whole, Text.split_of_not_mem (by decide)]
  simp only [Resource.ofPath?, parts, Resource.ofSegments?, and_self, if_true]

theorem isBare_of_mem_toString {n : Int} {c : Char} (member : c ∈ (toString n).toList) :
    Text.Percent.isBare c = true := by
  have digit : ∀ {m : Nat}, c ∈ Nat.toDigits 10 m → Text.Percent.isBare c = true := by
    intro m inside
    have decimal : c.isDigit = true := Nat.isDigit_of_mem_toDigits (by omega) (by omega) inside
    rw [Text.Percent.isBare, Char.isAlphanum, decimal, Bool.or_true, Bool.true_or]
  by_cases nonneg : 0 ≤ n
  · rw [Text.Numeral.toString_of_nonneg nonneg] at member
    exact digit member
  · rw [Text.Numeral.toString_of_neg (by omega)] at member
    rcases List.mem_cons.mp member with rfl | inside
    · decide
    · exact digit inside

theorem spells_toString (n : Int) :
    Spells (toString n).toList (Text.Utf8.encode (toString n).toList) :=
  Text.Percent.spells_of_bare fun _ member => isBare_of_mem_toString member

/-- **A number in a path** is read as it was written. -/
theorem Intake.pathNumber_toString (name : String) {n : Int}
    (inRange : IntegerRange.int64.contains n = true) :
    Intake.pathNumber name (toString n).toList = .ok n := by
  rw [Intake.pathNumber, Intake.pathText_of_spells (spells_toString n)]
  simp only [bind, Except.bind, Text.Numeral.readInt64_toString inRange]

end Http

end Passbook
