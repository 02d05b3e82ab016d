/-
**Splitting text at separators.**

`split` gives all the parts of a text between separators, empty ones included, so that there is
always one part more than separators. `cut` splits at the first separator only.
-/

namespace Passbook.Text

/-- The parts of a text between separators. -/
def split (separator : Char) : List Char → List (List Char)
  | [] => [[]]
  | c :: rest =>
    if c = separator then [] :: split separator rest
    else
      match split separator rest with
      | [] => [[c]]
      | part :: parts => (c :: part) :: parts

/-- A text up to the first separator, and what follows the separator if there is one. -/
def cut (separator : Char) : List Char → List Char × Option (List Char)
  | [] => ([], none)
  | c :: rest =>
    if c = separator then ([], some rest)
    else
      let (before, after) := cut separator rest
      (c :: before, after)

theorem split_ne_nil (separator : Char) (text : List Char) : split separator text ≠ [] := by
  cases text with
  | nil => simp [split]
  | cons c rest =>
    rw [split]
    split
    · simp
    · split <;> simp

/-- Text without a separator is cut nowhere. -/
theorem cut_of_not_mem {separator : Char} {text : List Char} (absent : separator ∉ text) :
    cut separator text = (text, none) := by
  induction text with
  | nil => rfl
  | cons c rest ih =>
    have differ : c ≠ separator := fun same => absent (by simp [same])
    simp [cut, differ, ih fun member => absent (List.mem_cons_of_mem c member)]

/-- A text is cut at its first separator. -/
theorem cut_append {separator : Char} {before : List Char} (absent : separator ∉ before)
    (after : List Char) :
    cut separator (before ++ separator :: after) = (before, some after) := by
  induction before with
  | nil => simp [cut]
  | cons c rest ih =>
    have differ : c ≠ separator := fun same => absent (by simp [same])
    simp [cut, differ, ih fun member => absent (List.mem_cons_of_mem c member)]

/-- Text without a separator is one part. -/
theorem split_of_not_mem {separator : Char} {text : List Char} (absent : separator ∉ text) :
    split separator text = [text] := by
  induction text with
  | nil => rfl
  | cons c rest ih =>
    have differ : c ≠ separator := fun same => absent (by simp [same])
    simp [split, differ, ih fun member => absent (List.mem_cons_of_mem c member)]

/-- What stands before a separator is the first part. -/
theorem split_append {separator : Char} {part : List Char} (absent : separator ∉ part)
    (rest : List Char) :
    split separator (part ++ separator :: rest) = part :: split separator rest := by
  induction part with
  | nil => simp [split]
  | cons c tail ih =>
    have differ : c ≠ separator := fun same => absent (by simp [same])
    simp [split, differ, ih fun member => absent (List.mem_cons_of_mem c member)]

end Passbook.Text
