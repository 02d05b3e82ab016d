/-
**Transfers from an account to itself.**

A policy says whether a transfer may have one account on both of its ends. The default rejects it.
Its name is read in any ASCII case and written in lower case.
-/

namespace Passbook

inductive SelfTransferPolicy where
  | reject
  | allow
  deriving DecidableEq, Repr, Inhabited

/-- A text that names no policy, in lower case. -/
structure PolicyError where
  text : String
  deriving DecidableEq, Repr

def PolicyError.message (problem : PolicyError) : String :=
  s!"unknown self-transfer policy: {problem.text}"

namespace SelfTransferPolicy

def standard : SelfTransferPolicy := reject

/-- A transfer between two accounts is always permitted. -/
def permits (policy : SelfTransferPolicy) (source target : Int) : Bool :=
  source != target || policy == allow

def name : SelfTransferPolicy → String
  | reject => "reject"
  | allow => "allow"

/-- Reads the exact, lower-case name. -/
def ofName? (text : String) : Option SelfTransferPolicy :=
  [reject, allow].find? fun policy => policy.name == text

/-- Reads a name in any ASCII case. -/
def ofText (text : String) : Except PolicyError SelfTransferPolicy :=
  match ofName? text.toLower with
  | some policy => .ok policy
  | none => .error ⟨text.toLower⟩

end SelfTransferPolicy

end Passbook
