/-
**Blanks around a text.**

* `IsTrimmed` — neither end of a text is blank; `StripsTo text core` — the core is trimmed, and
  nothing but blanks stands around it in the text.
* `isTrimmed_of_solid` — a text without blanks is trimmed.
* **`trim_eq_iff`** — a text is trimmed to the core that it strips to, and every text has just one.
* `trim_eq_nil` — nothing is left exactly of a text that is all blank.
-/

import Mathlib.Data.List.TakeWhile
import Passbook.Text.Blank

namespace Passbook.Text

variable {text core : List Char}

/-- Neither the first nor the last character is blank. -/
def IsTrimmed (text : List Char) : Prop :=
  text.head?.any isBlank = false ∧ text.getLast?.any isBlank = false

instance (text : List Char) : Decidable (IsTrimmed text) :=
  inferInstanceAs (Decidable (_ ∧ _))

/-- **The core of a text**: what is left when the blanks at both ends are taken away. -/
def StripsTo (text core : List Char) : Prop :=
  IsTrimmed core ∧ ∃ before after, text = before ++ core ++ after ∧
    isAllBlank before = true ∧ isAllBlank after = true

theorem isTrimmed_of_solid (solid : ∀ c ∈ text, isBlank c = false) : IsTrimmed text :=
  ⟨(Option.any_eq_false _ _).mpr fun c first => solid c (List.mem_of_mem_head? first),
    (Option.any_eq_false _ _).mpr fun c last => solid c (List.mem_of_mem_getLast? last)⟩

/-! ### One end at a time -/

theorem trimStart_append {before : List Char} (blank : isAllBlank before = true)
    (text : List Char) : trimStart (before ++ text) = trimStart text :=
  List.dropWhile_append_of_pos (List.all_eq_true.mp blank)

theorem trimStart_of_head? (first : text.head?.any isBlank = false) : trimStart text = text := by
  cases text with
  | nil => rfl
  | cons c rest => exact List.dropWhile_cons_of_neg (Bool.not_eq_true _ ▸ first)

/-- What is taken from the front is blank, and what stands there then is not. -/
theorem exists_trimStart (text : List Char) :
    (∃ before, text = before ++ trimStart text ∧ isAllBlank before = true) ∧
      (trimStart text).head?.any isBlank = false := by
  refine ⟨⟨text.takeWhile isBlank, List.takeWhile_append_dropWhile.symm, ?_⟩, ?_⟩
  · exact List.all_eq_true.mpr fun c member => List.mem_takeWhile_imp member
  · rw [Option.any_eq_false]
    intro c first
    have solid := List.head?_dropWhile_not isBlank text
    rwa [show (text.dropWhile isBlank).head? = some c from first] at solid

/-- The end of a text is trimmed as the front of its reversal. -/
theorem trimEnd_eq (text : List Char) : trimEnd text = (trimStart text.reverse).reverse := rfl

theorem trimEnd_append {after : List Char} (blank : isAllBlank after = true)
    (text : List Char) : trimEnd (text ++ after) = trimEnd text := by
  have reversed : isAllBlank after.reverse = true := by
    rw [isAllBlank, List.all_reverse]
    exact blank
  rw [trimEnd_eq, List.reverse_append, trimStart_append reversed, trimEnd_eq]

theorem trimEnd_of_getLast? (last : text.getLast?.any isBlank = false) : trimEnd text = text := by
  rw [← List.head?_reverse] at last
  rw [trimEnd_eq, trimStart_of_head? last, List.reverse_reverse]

/-- What is taken from the end is blank, and what stands there then is not. -/
theorem exists_trimEnd (text : List Char) :
    (∃ after, text = trimEnd text ++ after ∧ isAllBlank after = true) ∧
      (trimEnd text).getLast?.any isBlank = false := by
  obtain ⟨⟨before, reversed, blank⟩, solid⟩ := exists_trimStart text.reverse
  refine ⟨⟨before.reverse, ?_, ?_⟩, ?_⟩
  · rw [trimEnd_eq, ← List.reverse_append, ← reversed, List.reverse_reverse]
  · rw [isAllBlank, List.all_reverse]
    exact blank
  · rwa [trimEnd_eq, List.getLast?_reverse]

/-! ### Both ends -/

theorem stripsTo_trim (text : List Char) : StripsTo text (trim text) := by
  obtain ⟨⟨before, front, blankBefore⟩, first⟩ := exists_trimStart text
  obtain ⟨⟨after, back, blankAfter⟩, last⟩ := exists_trimEnd (trimStart text)
  refine ⟨⟨?_, last⟩, before, after, ?_, blankBefore, blankAfter⟩
  · -- what is taken from the end leaves the front as it is
    rw [back] at first
    rw [trim]
    cases kept : trimEnd (trimStart text) with
    | nil => rfl
    | cons c rest =>
      rw [kept] at first
      exact first
  · rw [List.append_assoc, trim, ← back, ← front]

theorem trim_of_stripsTo (strips : StripsTo text core) : trim text = core := by
  obtain ⟨⟨first, last⟩, before, after, rfl, blankBefore, blankAfter⟩ := strips
  rw [trim, List.append_assoc, trimStart_append blankBefore]
  cases core with
  | nil =>
    have nothing : trimStart after = [] :=
      List.dropWhile_eq_nil_iff.mpr (List.all_eq_true.mp blankAfter)
    rw [List.nil_append, nothing]
    rfl
  | cons c rest =>
    have kept : trimStart (c :: rest ++ after) = c :: rest ++ after := trimStart_of_head? first
    rw [kept, trimEnd_append blankAfter, trimEnd_of_getLast? last]

/-- **A text is trimmed to its core.** -/
theorem trim_eq_iff : trim text = core ↔ StripsTo text core :=
  ⟨fun same => same ▸ stripsTo_trim text, trim_of_stripsTo⟩

/-- Nothing is left of a text exactly when all of it is blank. -/
theorem trim_eq_nil : trim text = [] ↔ isAllBlank text = true := by
  rw [trim_eq_iff]
  constructor
  · rintro ⟨-, before, after, rfl, blankBefore, blankAfter⟩
    rw [isAllBlank, List.append_nil, List.all_append, Bool.and_eq_true]
    exact ⟨blankBefore, blankAfter⟩
  · intro blank
    exact ⟨⟨rfl, rfl⟩, text, [], by rw [List.append_nil, List.append_nil], blank, rfl⟩

end Passbook.Text
