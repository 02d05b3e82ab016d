/-
**Currencies.**

The five currencies in which an account may be held, each with its code of three letters. A code is
read exactly: no other case and no blanks around it.
-/

namespace Passbook

inductive Currency where
  | usd
  | cad
  | eur
  | mxn
  | gbp
  deriving DecidableEq, Repr

namespace Currency

/-- All currencies, in the order in which they were admitted. -/
def all : List Currency :=
  [usd, cad, eur, mxn, gbp]

def code : Currency → String
  | usd => "USD"
  | cad => "CAD"
  | eur => "EUR"
  | mxn => "MXN"
  | gbp => "GBP"

def ofCode? (text : String) : Option Currency :=
  all.find? fun currency => currency.code == text

theorem mem_all (currency : Currency) : currency ∈ all := by
  cases currency <;> decide

@[simp] theorem ofCode?_code (currency : Currency) : ofCode? currency.code = some currency := by
  cases currency <;> rfl

theorem code_injective {first second : Currency} (same : first.code = second.code) :
    first = second := by
  have read := congrArg ofCode? same
  rw [ofCode?_code, ofCode?_code] at read
  exact Option.some.inj read

theorem code_of_ofCode? {text : String} {currency : Currency}
    (found : ofCode? text = some currency) : currency.code = text := by
  simpa using List.find?_some found

end Currency

/-- A text that is no currency's code. -/
structure CurrencyError where
  text : String
  deriving DecidableEq, Repr

def CurrencyError.message (problem : CurrencyError) : String :=
  s!"Unsupported currency: {problem.text}"

def Currency.ofCode (text : String) : Except CurrencyError Currency :=
  match ofCode? text with
  | some currency => .ok currency
  | none => .error ⟨text⟩

theorem Currency.ofCode_eq_error {text : String} {problem : CurrencyError} :
    ofCode text = .error problem ↔ text ∉ all.map code ∧ problem = ⟨text⟩ := by
  unfold ofCode
  cases found : ofCode? text with
  | none =>
    have unknown : text ∉ all.map code := by
      simpa [ofCode?] using found
    simp only [Except.error.injEq, unknown, not_false_eq_true, true_and]
    exact eq_comm
  | some currency =>
    have known : text ∈ all.map code :=
      List.mem_map.mpr ⟨currency, currency.mem_all, code_of_ofCode? found⟩
    simp [known]

theorem Currency.code_of_ofCode {text : String} {currency : Currency}
    (known : ofCode text = .ok currency) : currency.code = text := by
  unfold ofCode at known
  cases found : ofCode? text with
  | none =>
    rw [found] at known
    cases known
  | some held =>
    rw [found] at known
    cases known
    exact code_of_ofCode? found

end Passbook
