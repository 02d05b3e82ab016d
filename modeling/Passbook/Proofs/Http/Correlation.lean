/-
**The correlation id of a request and of its response.**

The first field of the name counts. If its value spells an identifier, that is the one, and the
response carries it in the form in which it is written; with any other value, and without the field,
it is a new one.

* `Names headers id` — the first field of the name spells the identifier.
* `named?_eq_some_iff` — the identifier that is read is the one that is named.
* `header_key`, `filter_correlated` — a response with its id has one field of the name.
* **`correlation_ids_canonical`** — what the id of a request is, and that every response carries it.
* `read_with_capital` — the name of the scheme is read in any case, not only in one case throughout.
-/

import Passbook.Http.Api
import Passbook.Proofs.Http.Header
import Passbook.Proofs.Http.Uuid

namespace Passbook.Http.Correlation

variable {headers : List Header} {id fresh : Uuid}

/-- **A request names an identifier**: the value of the first field of the name spells it. -/
def Names (headers : List Header) (id : Uuid) : Prop :=
  ∃ header text, Header.first? key headers = some header ∧
    Text.Utf8.encode text = header.value ∧ Uuid.Spells text id

/-- The bytes of visible characters can be printed. -/
theorem printable_of_visible {text : List Char} (visible : ∀ c ∈ text, Visible c) :
    ∀ b ∈ Text.Utf8.encode text, Header.IsPrintable b := by
  intro b among
  obtain ⟨c, amongText, written⟩ := List.mem_flatMap.mp among
  obtain ⟨least, greatest⟩ := visible c amongText
  rw [Text.Utf8.encodeChar, if_pos (by omega), List.mem_singleton] at written
  rw [written, Header.IsPrintable, Text.Utf8.toNat_toUInt8 (by omega)]
  exact .inr ⟨least, greatest⟩

/-- **What is read** is what is named. -/
theorem named?_eq_some_iff : named? headers = some id ↔ Names headers id := by
  rw [named?, Option.bind_eq_some_iff]
  constructor
  · rintro ⟨header, first, read⟩
    obtain ⟨text, shown, read⟩ := Option.bind_eq_some_iff.mp read
    exact ⟨header, text, first, (Header.text?_eq_some_iff.mp shown).2,
      Uuid.read?_eq_some_iff.mp read⟩
  · rintro ⟨header, text, first, spelled, spells⟩
    refine ⟨header, first, Option.bind_eq_some_iff.mpr ⟨text, ?_, ?_⟩⟩
    · refine Header.text?_eq_some_iff.mpr ⟨?_, spelled⟩
      rw [← spelled]
      exact printable_of_visible fun c among => spells.visible among
    · exact Uuid.read?_eq_some_iff.mpr spells

theorem ofHeaders_of_names (names : Names headers id) : ofHeaders fresh headers = id := by
  rw [ofHeaders, named?_eq_some_iff.mpr names, Option.getD_some]

/-- Without a field that can be read the id is a new one. -/
theorem ofHeaders_of_not_names (none : ∀ id, ¬ Names headers id) :
    ofHeaders fresh headers = fresh := by
  have unread : named? headers = Option.none :=
    Option.eq_none_iff_forall_ne_some.mpr fun id read => none id (named?_eq_some_iff.mp read)
  rw [ofHeaders, unread, Option.getD_none]

/-- Only the value of the first field of the name counts. -/
theorem ofHeaders_congr {first second : List Header}
    (same : (Header.first? key first).map Header.value =
      (Header.first? key second).map Header.value) :
    ofHeaders fresh first = ofHeaders fresh second := by
  have byValue : ∀ headers : List Header, named? headers =
      ((Header.first? key headers).map Header.value).bind fun value =>
        (Header.mk key value).text?.bind Uuid.read? := fun headers => by
    rw [named?, Option.bind_map]
    rfl
  rw [ofHeaders, ofHeaders, byValue, byValue, same]

/-! ### Responses -/

theorem header_key (id : Uuid) : (header id).key = key := by
  have lower : key.toLower = key := by decide +kernel
  exact lower

/-- **A response with its id** has one field of the name, which carries the id. -/
theorem filter_correlated (fresh : Uuid) (request : Request) (response : Response) :
    (Api.correlated fresh request response).headers.filter (fun other => other.key == key) =
      [header (ofHeaders fresh request.headers)] := by
  have set := Header.filter_set (header (ofHeaders fresh request.headers)) response.headers
  rwa [header_key] at set

/-- **The correlation id of a request** is the one that the value of the first field of the name
spells, in whatever form, if it spells one, and a new one otherwise. The form in which it is written
names it again. Every response, whatever the store answers while it is made, has one field of the
name, with the id of its request as it is written. -/
theorem correlation_ids_canonical :
    (∀ (fresh : Uuid) (first second : List Header),
      (Header.first? key first).map Header.value = (Header.first? key second).map Header.value →
        ofHeaders fresh first = ofHeaders fresh second) ∧
    (∀ (fresh : Uuid) (headers : List Header) (id : Uuid), Names headers id →
      ofHeaders fresh headers = id) ∧
    (∀ (fresh : Uuid) (headers : List Header) (id : Uuid),
      (Header.first? key headers).map Header.value = some (Text.Utf8.encode id.hyphenated) →
        ofHeaders fresh headers = id) ∧
    (∀ (fresh : Uuid) (headers : List Header), (∀ id, ¬ Names headers id) →
      ofHeaders fresh headers = fresh) ∧
    (∀ id : Uuid, (header id).value = Text.Utf8.encode id.hyphenated) ∧
    ∀ (policy : SelfTransferPolicy) (fresh : Uuid) (request : Request) (State : Type)
      (answer : (call : Call) → State → call.Reply × State) (state : State),
      ((Api.respond policy fresh request).run answer state).1.headers.filter
          (fun other => other.key == key) = [header (ofHeaders fresh request.headers)] := by
  refine ⟨fun _ _ _ same => ofHeaders_congr same, fun _ _ _ names => ofHeaders_of_names names,
    fun fresh headers id given => ?_, fun _ _ none => ofHeaders_of_not_names none, fun id => ?_,
    fun policy fresh request State answer state => ?_⟩
  · obtain ⟨header, first, written⟩ := Option.map_eq_some_iff.mp given
    refine ofHeaders_of_names ⟨header, id.hyphenated, first, written.symm, ?_⟩
    exact id.toList_write ▸ id.spells_write
  · rw [← id.toList_write]
    rfl
  · rw [Api.respond, Script.bind_eq, Script.run_bind]
    exact filter_correlated fresh request _

/-- The identifier whose digits count up twice. -/
def counting : Uuid :=
  ⟨List.finRange 16 ++ List.finRange 16, rfl⟩

/-- An identifier behind the name of its scheme is named whatever follows the first field of the
name, it is named by itself as it is written, and a byte that is no text names none. -/
theorem ids_of_counting :
    Header.first? key [⟨"X-Correlation-Id",
        Text.Utf8.encode "URN:UUID:01234567-89AB-cdef-0123-456789abcdef".toList⟩, ⟨key, []⟩] =
      some ⟨"X-Correlation-Id",
        Text.Utf8.encode "URN:UUID:01234567-89AB-cdef-0123-456789abcdef".toList⟩ ∧
    ofHeaders .nil [⟨"X-Correlation-Id",
        Text.Utf8.encode "URN:UUID:01234567-89AB-cdef-0123-456789abcdef".toList⟩, ⟨key, []⟩] =
      counting ∧
    ofHeaders .nil [⟨"accept", []⟩, header counting] = ofHeaders .nil [header counting] ∧
    ofHeaders .nil [header counting] = counting ∧
    ofHeaders counting [⟨key, [0xFF]⟩] = counting := by
  have first : Header.first? key [⟨"X-Correlation-Id",
        Text.Utf8.encode "URN:UUID:01234567-89AB-cdef-0123-456789abcdef".toList⟩, ⟨key, []⟩] =
      some ⟨"X-Correlation-Id",
        Text.Utf8.encode "URN:UUID:01234567-89AB-cdef-0123-456789abcdef".toList⟩ := by
    decide +kernel
  have spells : Uuid.Spells "URN:UUID:01234567-89AB-cdef-0123-456789abcdef".toList counting := by
    unfold Uuid.Spells
    decide +kernel
  have unread : named? [⟨key, [0xFF]⟩] = none := by decide +kernel
  refine ⟨first, correlation_ids_canonical.2.1 _ _ _ ⟨_, _, first, rfl, spells⟩,
    correlation_ids_canonical.1 _ _ _ (by decide +kernel),
    correlation_ids_canonical.2.2.1 _ _ _ (by decide +kernel),
    correlation_ids_canonical.2.2.2.1 _ _ fun id names => ?_⟩
  rw [named?_eq_some_iff.mpr names] at unread
  cases unread

/-- **The name of the scheme is read in any case**: it need not be in one case throughout. -/
theorem read_with_capital :
    ofHeaders .nil
        [⟨key, Text.Utf8.encode "Urn:Uuid:01234567-89ab-cdef-0123-456789abcdef".toList⟩] =
      counting ∧ counting ≠ .nil ∧
    ¬ ∃ id : Uuid, ∃ text, text.map Char.toLower = id.hyphenated ∧
      ("Urn:Uuid:01234567-89ab-cdef-0123-456789abcdef".toList.map Char.toLower ∈
          [id.run, id.hyphenated, '\x7b' :: (id.hyphenated ++ ['\x7d'])] ∨
        "Urn:Uuid:01234567-89ab-cdef-0123-456789abcdef".toList = "urn:uuid:".toList ++ text ∨
        "Urn:Uuid:01234567-89ab-cdef-0123-456789abcdef".toList = "URN:UUID:".toList ++ text) := by
  refine ⟨by decide +kernel, by decide, ?_⟩
  rintro ⟨id, text, -, form | small | large⟩
  · have sized : ∀ form ∈ [id.run, id.hyphenated, '\x7b' :: (id.hyphenated ++ ['\x7d'])],
        form.length ≠ 45 := by
      simp only [List.forall_mem_cons, id.length_run, id.length_hyphenated, List.length_cons,
        List.length_append]
      exact ⟨by decide, by decide, by decide, List.forall_mem_nil _⟩
    exact sized _ form rfl
  · cases small
  · cases large

end Passbook.Http.Correlation
