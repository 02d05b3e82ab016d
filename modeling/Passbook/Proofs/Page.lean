/-
**Pages part a list.**

* `Page.Allowed` — the pages that are shown; **`window_cases`** — such a page has the window that
  begins behind all earlier pages, within the 64-bit integers, and every other page is refused.
* `Page.cut page rows` — what a page shows of a list.
* `flatMap_cut` — the first pages of a size, one after another, show the head of a list.
* **`exists_parts`** — up to the last page they show all of it, every row once; the pages before the
  last are full, and the pages after it are empty.
-/

import Passbook.Rule

namespace Passbook.Page

open Text (IntegerRange)

/-! ### Windows -/

/-- The pages that are shown. -/
structure Allowed (page : Page) : Prop where
  number : 1 ≤ page.number
  size : 5 ≤ page.size ∧ page.size ≤ 10
  /-- The rows to skip are a number of 64 bits. -/
  skipped : (page.number - 1) * page.size ≤ 9223372036854775807

variable {page : Page}

theorem Allowed.skipped_nonneg (allowed : page.Allowed) : 0 ≤ (page.number - 1) * page.size := by
  have number := allowed.number
  have size := allowed.size
  exact Int.mul_nonneg (by omega) (by omega)

/-- The number of an allowed page is far from the end of the 64-bit integers. -/
theorem Allowed.number_le (allowed : page.Allowed) : page.number ≤ 1844674407370955162 := by
  have number := allowed.number
  have skipped := allowed.skipped
  have five : (page.number - 1) * 5 ≤ (page.number - 1) * page.size :=
    Int.mul_le_mul_of_nonneg_left allowed.size.1 (by omega)
  omega

/-- **An allowed page has its window**, and every other page is refused. -/
theorem window_cases (page : Page) :
    (page.Allowed ∧ page.window = .ok ⟨page.size, (page.number - 1) * page.size⟩) ∨
      ¬ page.Allowed ∧ ∃ problem, page.window = .error problem := by
  unfold window
  by_cases early : page.number < 1
  · rw [if_pos early]
    exact .inr ⟨fun allowed => Int.not_lt.mpr allowed.number early, _, rfl⟩
  rw [if_neg early]
  by_cases odd : page.size < leastSize ∨ greatestSize < page.size
  · rw [if_pos odd]
    refine .inr ⟨fun allowed => ?_, _, rfl⟩
    rcases odd with small | large
    · exact Int.not_lt.mpr allowed.size.1 small
    · exact Int.not_lt.mpr allowed.size.2 large
  rw [if_neg odd]
  have least : 5 ≤ page.size := Int.not_lt.mp fun small => odd (.inl small)
  have greatest : page.size ≤ 10 := Int.not_lt.mp fun large => odd (.inr large)
  by_cases inRange : IntegerRange.int64.contains ((page.number - 1) * page.size) = true
  · exact .inl ⟨⟨by omega, ⟨least, greatest⟩, (IntegerRange.int64_contains.mp inRange).2⟩,
      if_pos inRange⟩
  · refine .inr ⟨fun allowed => inRange ?_, _, if_neg inRange⟩
    have nonneg := allowed.skipped_nonneg
    exact IntegerRange.int64_contains.mpr ⟨by omega, allowed.skipped⟩

theorem allowedWindow_cases (page : Page) :
    (page.Allowed ∧ page.allowedWindow = .ok ⟨page.size, (page.number - 1) * page.size⟩) ∨
      ¬ page.Allowed ∧ ∃ problem : PageError,
        page.allowedWindow = .error (.invalidPage problem.message) := by
  unfold allowedWindow
  rcases page.window_cases with ⟨allowed, shown⟩ | ⟨other, problem, refused⟩
  · rw [shown]
    exact .inl ⟨allowed, rfl⟩
  · rw [refused]
    exact .inr ⟨other, problem, rfl⟩

/-! ### Parts of a list -/

section Parts

variable {ρ : Type} {rows : List ρ}

/-- What a page shows of a list. -/
def cut (page : Page) (rows : List ρ) : List ρ :=
  (rows.drop ((page.number - 1) * page.size).toNat).take page.size.toNat

theorem mem_of_mem_cut {row : ρ} (member : row ∈ page.cut rows) : row ∈ rows :=
  List.mem_of_mem_drop (List.mem_of_mem_take member)

/-- The page after a number of pages of a size. -/
theorem cut_after (before size : Nat) (rows : List ρ) :
    cut ⟨before + 1, size⟩ rows = (rows.drop (before * size)).take size := by
  have skipped : ((before : Int) + 1 - 1) * size = (before * size : Nat) := by
    rw [Int.add_sub_cancel, Int.natCast_mul]
  simp only [cut, skipped, Int.toNat_natCast]

/-- **The first pages of a size**, one after another, show the head of a list. -/
theorem flatMap_cut (count size : Nat) (rows : List ρ) :
    (List.range count).flatMap (fun before : Nat => cut ⟨before + 1, size⟩ rows) =
      rows.take (count * size) := by
  induction count with
  | zero => simp
  | succ count ih =>
    rw [List.range_succ, List.flatMap_append, ih, List.flatMap_singleton, cut_after,
      Nat.succ_mul, List.take_add]

/-- The pages of a size part the list into its rows, `last` being the number of the last page. -/
structure Parts (size : Int) (rows : List ρ) (last : Nat) : Prop where
  /-- One after another, the pages show every row once. -/
  whole : (List.range last).flatMap (fun before : Nat => cut ⟨before + 1, size⟩ rows) = rows
  /-- No page begins behind the list. -/
  begins : ∀ number : Int, 1 ≤ number → number ≤ last → (number - 1) * size < rows.length
  full : ∀ number : Int, 1 ≤ number → number < last → (cut ⟨number, size⟩ rows).length = size
  beyond : ∀ number : Int, last < number → cut ⟨number, size⟩ rows = []

/-- **The pages of a size part every list.** -/
theorem exists_parts {size : Int} (positive : 0 < size) (rows : List ρ) :
    ∃ last, Parts size rows last := by
  obtain ⟨size, rfl⟩ := Int.eq_ofNat_of_zero_le (Int.le_of_lt positive)
  have some_row : 0 < size := Int.natCast_pos.mp positive
  -- the number of pages is that of the rows through the size, rounded up
  obtain ⟨last, most, least⟩ : ∃ last, rows.length ≤ last * size ∧
      last * size < rows.length + size := by
    refine ⟨(rows.length + size - 1) / size, ?_, ?_⟩
    · have := Nat.lt_div_mul_add some_row (a := rows.length + size - 1)
      omega
    · have := Nat.div_mul_le_self (rows.length + size - 1) size
      omega
  have before : ∀ number : Int, 1 ≤ number → ∃ earlier : Nat, number = earlier + 1 :=
    fun number first => ⟨(number - 1).toNat, by omega⟩
  refine ⟨last, ⟨?_, fun number first upTo => ?_, fun number first inner => ?_,
    fun number past => ?_⟩⟩
  · rw [flatMap_cut, List.take_of_length_le most]
  · obtain ⟨earlier, rfl⟩ := before number first
    have less : (earlier + 1) * size ≤ last * size := Nat.mul_le_mul_right _ (by omega)
    rw [Nat.succ_mul] at less
    rw [Int.add_sub_cancel, ← Int.natCast_mul]
    omega
  · obtain ⟨earlier, rfl⟩ := before number first
    have less : (earlier + 1 + 1) * size ≤ last * size := Nat.mul_le_mul_right _ (by omega)
    rw [Nat.succ_mul, Nat.succ_mul] at less
    rw [cut_after, List.length_take, List.length_drop]
    omega
  · obtain ⟨earlier, rfl⟩ := before number (by omega)
    have less : last * size ≤ earlier * size := Nat.mul_le_mul_right _ (by omega)
    rw [cut_after, List.drop_eq_nil_of_le (Nat.le_trans most less), List.take_nil]

end Parts

end Passbook.Page
