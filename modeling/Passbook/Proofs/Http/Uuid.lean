/-
**The spellings of an identifier.**

An identifier is read from four forms of it, in any mixture of upper and lower case, and from no
other text. One of these is the form in which it is written.

* `digit?_eq_some_iff`, `mapM_digit?` — the digits, which are read in either case.
* `unhyphenate_eq_some_iff` — hyphens are taken out where they would be put in.
* `Spells text id` — the text is one of the forms of the identifier, up to the case of its letters.
* `readPlain?_iff`, `readGrouped?_iff`, `unbrace?_iff`, `afterScheme?_iff` — the readers of the
  forms.
* **`read?_eq_some_iff`** — what is read is what is spelled; `spells_write` is a case of it.
-/

import Mathlib.Algebra.GroupWithZero.Nat
import Mathlib.Data.List.Basic
import Passbook.Http.Uuid
import Passbook.Proofs.Text.Percent

namespace Passbook.Http

/-! ### Characters in lower case -/

/-- Only ASCII characters have another lower case. -/
theorem toLower_of_ascii_lt {c : Char} (beyond : ¬ c.toNat < 0x80) : c.toLower = c :=
  dif_neg fun upper => beyond (Nat.lt_of_le_of_lt (@Text.toNat_le_of_le c 'Z' upper.2)
    (by decide))

theorem ascii_of_toLower {c : Char} (ascii : c.toLower.toNat < 0x80) : c.toNat < 0x80 := by
  by_contra beyond
  rw [toLower_of_ascii_lt beyond] at ascii
  exact beyond ascii

/-- A character that is no letter stands in lower case for itself alone. -/
theorem toLower_eq_iff {c mark : Char} (noLetter : mark.isAlpha = false) :
    c.toLower = mark ↔ c = mark := by
  by_cases ascii : c.toNat < 0x80
  · have each : ∀ n < 0x80, (Char.ofNat n).toLower = Char.ofNat n ∨
        (Char.ofNat n).isAlpha = true ∧ (Char.ofNat n).toLower.isAlpha = true := by decide +kernel
    have here := @Text.forall_ascii (fun c => c.toLower = c ∨
      c.isAlpha = true ∧ c.toLower.isAlpha = true) each c ascii
    rcases here with same | ⟨letter, letter'⟩
    · rw [same]
    · refine ⟨?_, ?_⟩
      · rintro rfl
        exact absurd letter' (Bool.eq_false_iff.mp noLetter)
      · rintro rfl
        exact absurd letter (Bool.eq_false_iff.mp noLetter)
  · rw [toLower_of_ascii_lt ascii]

/-- A visible ASCII character or a space. -/
def Visible (c : Char) : Prop :=
  0x20 ≤ c.toNat ∧ c.toNat ≤ 0x7E

instance (c : Char) : Decidable (Visible c) :=
  inferInstanceAs (Decidable (_ ∧ _))

theorem visible_of_toLower {c : Char} (visible : Visible c.toLower) : Visible c := by
  have each : ∀ n < 0x80, Visible (Char.ofNat n).toLower → Visible (Char.ofNat n) := by
    decide +kernel
  have ascii := ascii_of_toLower (Nat.lt_of_le_of_lt visible.2 (by decide))
  exact @Text.forall_ascii (fun c => Visible c.toLower → Visible c) each c ascii visible

namespace Uuid

variable {text : List Char} {id : Uuid}

/-! ### Digits -/

/-- **A digit** is read from its character in either case. -/
theorem digit?_eq_some_iff {c : Char} {digit : Fin 16} :
    digit? c = some digit ↔ c.toLower = Nat.digitChar digit.val := by
  have each : ∀ n < 0x80, ∀ digit : Fin 16,
      digit? (Char.ofNat n) = some digit ↔ (Char.ofNat n).toLower = Nat.digitChar digit.val := by
    decide +kernel
  by_cases ascii : c.toNat < 0x80
  · exact @Text.forall_ascii (fun c => ∀ digit, digit? c = some digit ↔
      c.toLower = Nat.digitChar digit.val) each c ascii digit
  · refine ⟨fun read => absurd ?_ ascii, fun same => absurd ?_ ascii⟩
    · rw [digit?, Option.map_eq_some_iff] at read
      obtain ⟨n, hex, -⟩ := read
      exact Text.ascii_of_hexDigit? hex
    · have small : ∀ digit : Fin 16, (Nat.digitChar digit.val).toNat < 0x80 := by decide
      exact ascii_of_toLower (same ▸ small digit)

theorem mapM_digit? : ∀ {text : List Char} {digits : List (Fin 16)},
    text.mapM digit? = some digits ↔
      text.map Char.toLower = digits.map fun digit => Nat.digitChar digit.val
  | [], digits => by
    rw [List.mapM_nil, List.map_nil, eq_comm (a := []), List.map_eq_nil_iff]
    exact ⟨fun same => (Option.some.inj same).symm, fun same => congrArg some same.symm⟩
  | c :: text, digits => by
    rw [List.mapM_cons, List.map_cons]
    constructor
    · intro read
      obtain ⟨digit, first, read⟩ := Option.bind_eq_some_iff.mp read
      obtain ⟨others, rest, same⟩ := Option.bind_eq_some_iff.mp read
      cases same
      rw [List.map_cons, digit?_eq_some_iff.mp first, mapM_digit?.mp rest]
    · intro same
      cases digits with
      | nil => cases same
      | cons digit others =>
        obtain ⟨first, rest⟩ := List.cons.inj same
        rw [digit?_eq_some_iff.mpr first, mapM_digit?.mpr rest]
        rfl

/-! ### Hyphens -/

section Hyphens

variable {size next : Nat} {sizes : List Nat}

theorem hyphenate_cons (run : List Char) : hyphenate (size :: next :: sizes) run =
    run.take size ++ '-' :: hyphenate (next :: sizes) (run.drop size) :=
  rfl

/-- Before the first hyphen stands the first group, and the other groups are behind it. -/
theorem unhyphenate_cons {run : List Char} : unhyphenate (size :: next :: sizes) text = some run ↔
    ∃ following inner, text.drop size = '-' :: following ∧
      unhyphenate (next :: sizes) following = some inner ∧ run = text.take size ++ inner := by
  rw [unhyphenate.eq_3 text size _ (List.cons_ne_nil next sizes)]
  split
  · rename_i following found
    rw [Option.map_eq_some_iff]
    constructor
    · rintro ⟨inner, read, rfl⟩
      exact ⟨following, inner, found, read, rfl⟩
    · rintro ⟨_, inner, found', read, rfl⟩
      rw [found] at found'
      cases found'
      exact ⟨inner, read, rfl⟩
  · rename_i other
    constructor
    · rintro ⟨⟩
    · rintro ⟨following, -, found, -⟩
      exact absurd found (other following)

/-- **Hyphens** are taken out where they would be put in. -/
theorem unhyphenate_eq_some_iff : ∀ {sizes : List Nat} {text run : List Char},
    sizes.sum ≤ run.length → (unhyphenate sizes text = some run ↔ text = hyphenate sizes run)
  | [], text, run, _ => by
    rw [unhyphenate, hyphenate, Option.some.injEq]
  | [_], text, run, _ => by
    rw [unhyphenate, hyphenate, Option.some.injEq]
  | size :: next :: sizes, text, run, long => by
    rw [List.sum_cons] at long
    have rest : ∀ following, unhyphenate (next :: sizes) following = some (run.drop size) ↔
        following = hyphenate (next :: sizes) (run.drop size) := fun following =>
      unhyphenate_eq_some_iff (by rw [List.length_drop]; omega)
    rw [unhyphenate_cons, hyphenate_cons]
    constructor
    · rintro ⟨following, inner, found, read, rfl⟩
      have enough := congrArg List.length found
      rw [List.length_drop, List.length_cons] at enough
      have sized : (text.take size).length = size := List.length_take_of_le (by omega)
      rw [List.drop_left' sized] at rest
      rw [List.take_left' sized, List.drop_left' sized, ← (rest following).mp read, ← found,
        List.take_append_drop]
    · rintro rfl
      have sized : (run.take size).length = size := List.length_take_of_le (by omega)
      exact ⟨_, run.drop size, List.drop_left' sized, (rest _).mpr rfl, by
        rw [List.take_left' sized, List.take_append_drop]⟩

end Hyphens

/-- Hyphens stand for themselves in lower case. -/
theorem map_toLower_hyphenate : ∀ (sizes : List Nat) (text : List Char),
    (hyphenate sizes text).map Char.toLower = hyphenate sizes (text.map Char.toLower)
  | [], _ => rfl
  | [_], _ => rfl
  | size :: next :: sizes, text => by
    rw [hyphenate_cons, hyphenate_cons, List.map_append, List.map_cons,
      map_toLower_hyphenate (next :: sizes), List.map_take, List.map_drop]
    rfl

theorem mem_hyphenate {c : Char} : ∀ (sizes : List Nat) {run : List Char},
    c ∈ hyphenate sizes run → c ∈ run ∨ c = '-'
  | [], _, among => .inl among
  | [_], _, among => .inl among
  | size :: next :: sizes, run, among => by
    rw [hyphenate_cons, List.mem_append, List.mem_cons] at among
    rcases among with group | hyphen | later
    · exact .inl (List.mem_of_mem_take group)
    · exact .inr hyphen
    · exact (mem_hyphenate (next :: sizes) later).imp List.mem_of_mem_drop id

/-- A text is hyphenated if it is so in lower case. -/
theorem hyphenate_of_lower : ∀ {sizes : List Nat} {text run : List Char},
    sizes.sum ≤ run.length → text.map Char.toLower = hyphenate sizes run →
      ∃ run', text = hyphenate sizes run' ∧ run'.map Char.toLower = run
  | [], text, run, _, same => ⟨text, rfl, same⟩
  | [_], text, run, _, same => ⟨text, rfl, same⟩
  | size :: next :: sizes, text, run, long, same => by
    rw [List.sum_cons] at long
    rw [hyphenate_cons] at same
    obtain ⟨group, others, rfl, first, same⟩ := List.map_eq_append_iff.mp same
    obtain ⟨hyphen, following, rfl, isHyphen, same⟩ := List.map_eq_cons_iff.mp same
    obtain ⟨inner, rfl, rest⟩ := hyphenate_of_lower (by rw [List.length_drop]; omega) same
    have sized : group.length = size := by
      rw [← List.length_map (f := Char.toLower), first, List.length_take_of_le (by omega)]
    refine ⟨group ++ inner, ?_, ?_⟩
    · rw [hyphenate_cons, List.take_left' sized, List.drop_left' sized,
        (toLower_eq_iff (by decide)).mp isHyphen]
    · rw [List.map_append, first, rest, List.take_append_drop]

/-! ### Forms -/

/-- The digits in lower case, in one run. -/
def run (id : Uuid) : List Char :=
  id.digits.map fun digit => Nat.digitChar digit.val

/-- The digits in lower case, in groups of 8, 4, 4, 4 and 12 with hyphens between them. -/
def hyphenated (id : Uuid) : List Char :=
  id.run.take 8 ++ '-' :: ((id.run.drop 8).take 4 ++ '-' :: ((id.run.drop 12).take 4 ++
    '-' :: ((id.run.drop 16).take 4 ++ '-' :: id.run.drop 20)))

/-- The forms of an identifier in lower case: the digits in one run, or in groups, the groups also
in braces or behind the name of the scheme. -/
def forms (id : Uuid) : List (List Char) :=
  [id.run, id.hyphenated, '\x7b' :: (id.hyphenated ++ ['\x7d']),
    "urn:uuid:".toList ++ id.hyphenated]

/-- **A text spells an identifier**: up to the case of its letters it is one of the forms. -/
def Spells (text : List Char) (id : Uuid) : Prop :=
  text.map Char.toLower ∈ id.forms

theorem length_run (id : Uuid) : id.run.length = 32 := by
  rw [run, List.length_map, id.length_digits]

theorem sum_groups_le {digits : List Char} (plain : digits.map Char.toLower = id.run) :
    groups.sum ≤ digits.length := by
  rw [← List.length_map (f := Char.toLower), plain, length_run]
  exact Nat.le_refl _

theorem hyphenate_run (id : Uuid) : hyphenate groups id.run = id.hyphenated := by
  simp only [groups, hyphenate, hyphenated, List.drop_drop, Nat.reduceAdd]

theorem length_hyphenated (id : Uuid) : id.hyphenated.length = 36 := by
  simp only [hyphenated, List.length_append, List.length_cons, List.length_take, List.length_drop,
    length_run]
  rfl

/-! ### Readers -/

theorem readPlain?_iff : readPlain? text = some id ↔ text.map Char.toLower = id.run := by
  rw [run, ← mapM_digit?]
  show ((text.mapM digit?).bind ofDigits?) = some id ↔ _
  rw [Option.bind_eq_some_iff]
  constructor
  · rintro ⟨digits, read, sized⟩
    rw [ofDigits?] at sized
    split at sized
    · cases sized
      exact read
    · cases sized
  · intro read
    exact ⟨id.digits, read, dif_pos id.length_digits⟩

theorem readGrouped?_iff : readGrouped? text = some id ↔ text.map Char.toLower = id.hyphenated := by
  rw [← hyphenate_run]
  show ((unhyphenate groups text).bind readPlain?) = some id ↔ _
  rw [Option.bind_eq_some_iff]
  constructor
  · rintro ⟨digits, read, plain⟩
    rw [readPlain?_iff] at plain
    rw [(unhyphenate_eq_some_iff (sum_groups_le plain)).mp read, map_toLower_hyphenate, plain]
  · intro same
    have sized : groups.sum ≤ id.run.length := Nat.le_of_eq (length_run id).symm
    obtain ⟨digits, rfl, plain⟩ := hyphenate_of_lower sized same
    exact ⟨digits, (unhyphenate_eq_some_iff (sum_groups_le plain)).mpr rfl,
      readPlain?_iff.mpr plain⟩

theorem unbrace?_eq_some_iff {inner : List Char} :
    unbrace? text = some inner ↔ text = '\x7b' :: (inner ++ ['\x7d']) := by
  constructor
  · intro unbraced
    rw [unbrace?.eq_def] at unbraced
    split at unbraced
    · split at unbraced
      · rename_i rest closed
        obtain ⟨inner', rfl⟩ := List.getLast?_eq_some_iff.mp closed
        rw [List.dropLast_concat] at unbraced
        cases unbraced
        rfl
      · cases unbraced
    · cases unbraced
  · rintro rfl
    rw [unbrace?, if_pos List.getLast?_concat, List.dropLast_concat]

/-- Braces stand for themselves in lower case. -/
theorem braced_iff : (unbrace? text).bind readGrouped? = some id ↔
    text.map Char.toLower = '\x7b' :: (id.hyphenated ++ ['\x7d']) := by
  rw [Option.bind_eq_some_iff]
  constructor
  · rintro ⟨inner, unbraced, read⟩
    rw [unbrace?_eq_some_iff.mp unbraced, List.map_cons, List.map_append, readGrouped?_iff.mp read]
    rfl
  · intro same
    obtain ⟨left, others, rfl, isLeft, same⟩ := List.map_eq_cons_iff.mp same
    obtain ⟨inner, last, rfl, grouped, same⟩ := List.map_eq_append_iff.mp same
    obtain ⟨right, none, rfl, isRight, same⟩ := List.map_eq_cons_iff.mp same
    refine ⟨inner, unbrace?_eq_some_iff.mpr ?_, readGrouped?_iff.mpr grouped⟩
    rw [(toLower_eq_iff (by decide)).mp isLeft, (toLower_eq_iff (by decide)).mp isRight,
      List.map_eq_nil_iff.mp same]

theorem schemed_iff : (afterScheme? text).bind readGrouped? = some id ↔
    text.map Char.toLower = "urn:uuid:".toList ++ id.hyphenated := by
  have sized : "urn:uuid:".toList.length = 9 := rfl
  rw [Option.bind_eq_some_iff]
  constructor
  · rintro ⟨rest, scheme, read⟩
    rw [afterScheme?] at scheme
    split at scheme
    · rename_i named
      cases scheme
      rw [← readGrouped?_iff.mp read, ← named, ← List.map_append, List.take_append_drop]
    · cases scheme
  · intro same
    have named : (text.take 9).map Char.toLower = "urn:uuid:".toList := by
      rw [List.map_take, same, List.take_left' sized]
    have rest : (text.drop 9).map Char.toLower = id.hyphenated := by
      rw [List.map_drop, same, List.drop_left' sized]
    exact ⟨text.drop 9, if_pos named, readGrouped?_iff.mpr rest⟩

/-- A text that spells an identifier has one of the four forms in lower case. -/
theorem spells_iff : Spells text id ↔ text.map Char.toLower = id.run ∨
    text.map Char.toLower = id.hyphenated ∨
    text.map Char.toLower = '\x7b' :: (id.hyphenated ++ ['\x7d']) ∨
    text.map Char.toLower = "urn:uuid:".toList ++ id.hyphenated := by
  simp only [Spells, forms, List.mem_cons, List.not_mem_nil, or_false]

/-- **An identifier is read** from what spells it, and from nothing else. -/
theorem read?_eq_some_iff : read? text = some id ↔ Spells text id := by
  rw [spells_iff, ← readPlain?_iff, ← readGrouped?_iff, ← braced_iff, ← schemed_iff]
  -- No reader takes the form of another, because each form has a length of its own.
  have sized : ∀ {form : List Char}, text.map Char.toLower = form → text.length = form.length :=
    fun same => by rw [← same, List.length_map]
  have plain : ∀ {id'}, readPlain? text = some id' → text.length = 32 := fun read => by
    rw [sized (readPlain?_iff.mp read), length_run]
  have grouped : ∀ {id'}, readGrouped? text = some id' → text.length = 36 := fun read => by
    rw [sized (readGrouped?_iff.mp read), length_hyphenated]
  have braced : ∀ {id'}, (unbrace? text).bind readGrouped? = some id' → text.length = 38 :=
    fun read => by
      rw [sized (braced_iff.mp read), List.length_cons, List.length_append, length_hyphenated]
      rfl
  have schemed : ∀ {id'}, (afterScheme? text).bind readGrouped? = some id' → text.length = 45 :=
    fun read => by
      rw [sized (schemed_iff.mp read), List.length_append, length_hyphenated]
      rfl
  have noPlain : text.length ≠ 32 → readPlain? text = none := fun other =>
    Option.eq_none_iff_forall_ne_some.mpr fun _ read => other (plain read)
  have noGrouped : text.length ≠ 36 → readGrouped? text = none := fun other =>
    Option.eq_none_iff_forall_ne_some.mpr fun _ read => other (grouped read)
  have noBraced : text.length ≠ 38 → (unbrace? text).bind readGrouped? = none := fun other =>
    Option.eq_none_iff_forall_ne_some.mpr fun _ read => other (braced read)
  simp only [read?, Option.orElse_eq_orElse, Option.orElse_eq_or, Option.or_eq_some_iff]
  constructor
  · rintro (read | ⟨-, read | ⟨-, read | ⟨-, read⟩⟩⟩)
    · exact .inl read
    · exact .inr (.inl read)
    · exact .inr (.inr (.inl read))
    · exact .inr (.inr (.inr read))
  · rintro (read | read | read | read)
    · exact .inl read
    · have length := grouped read
      exact .inr ⟨noPlain (by omega), .inl read⟩
    · have length := braced read
      exact .inr ⟨noPlain (by omega), .inr ⟨noGrouped (by omega), .inl read⟩⟩
    · have length := schemed read
      exact .inr ⟨noPlain (by omega), .inr ⟨noGrouped (by omega), .inr ⟨noBraced (by omega), read⟩⟩⟩

/-- What is written is the form in groups. -/
theorem toList_write (id : Uuid) : id.write.toList = id.hyphenated := by
  rw [write, String.toList_ofList]
  exact hyphenate_run id

/-- **What is written** spells the identifier. -/
theorem spells_write (id : Uuid) : Spells id.write.toList id := by
  have lower : ∀ digit : Fin 16, (Nat.digitChar digit.val).toLower = Nat.digitChar digit.val := by
    decide
  have run : id.run.map Char.toLower = id.run := by
    rw [Uuid.run, List.map_map]
    exact List.map_congr_left fun digit _ => lower digit
  rw [spells_iff, toList_write, ← hyphenate_run, map_toLower_hyphenate, run]
  exact .inr (.inl rfl)

/-- A text that spells an identifier is of visible ASCII characters. -/
theorem Spells.visible (spells : Spells text id) {c : Char} (among : c ∈ text) : Visible c := by
  have digit : ∀ digit : Fin 16, Visible (Nat.digitChar digit.val) := by decide
  have run : ∀ d ∈ id.run, Visible d := fun d amongRun => by
    obtain ⟨n, -, rfl⟩ := List.mem_map.mp amongRun
    exact digit n
  have hyphenated : ∀ d ∈ id.hyphenated, Visible d := fun d amongGroups => by
    rw [← hyphenate_run] at amongGroups
    rcases mem_hyphenate groups amongGroups with amongRun | rfl
    · exact run d amongRun
    · decide
  have lower : c.toLower ∈ text.map Char.toLower := List.mem_map_of_mem among
  refine visible_of_toLower ?_
  rcases spells_iff.mp spells with form | form | form | form
  · exact run _ (form ▸ lower)
  · exact hyphenated _ (form ▸ lower)
  · rw [form, List.mem_cons, List.mem_append, List.mem_singleton] at lower
    rcases lower with brace | inner | brace
    · rw [brace]
      decide
    · exact hyphenated _ inner
    · rw [brace]
      decide
  · rw [form, List.mem_append] at lower
    rcases lower with scheme | inner
    · have each : ("urn:uuid:".toList.all fun d => decide (Visible d)) = true := by decide
      exact of_decide_eq_true (List.all_eq_true.mp each _ scheme)
    · exact hyphenated _ inner

end Uuid
end Passbook.Http
