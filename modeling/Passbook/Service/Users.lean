/-
**Registering users and changing their profiles.**

A username consists of ASCII letters, digits and underscores, a full name is not blank, and an email
address has an at sign. `register` stores a new user and `changeProfile` changes one; each looks at
the request first and reaches the store only with a valid one.
-/

import Passbook.Service.Dialogue
import Passbook.Text.Blank

namespace Passbook

/-- What is wrong with a user's profile. -/
inductive ProfileError where
  | username
  | fullName
  | email (text : String)
  | nothingGiven
  deriving DecidableEq, Repr

def ProfileError.message : ProfileError → String
  | username => "username must be non-empty and contain only letters, digits or underscores"
  | fullName => "full_name is required"
  | email text => s!"invalid email: {text}"
  | nothingGiven => "nothing to update: provide full_name or email"

namespace Profile

def isUsername (text : String) : Bool :=
  !text.isEmpty && text.toList.all fun c => c.isAlphanum || c == '_'

def isFullName (text : String) : Bool :=
  !Text.isAllBlank text.toList

def isEmail (text : String) : Bool :=
  text.toList.contains '@'

def checkFullName (text : String) : Except ProfileError Unit :=
  if isFullName text then .ok () else .error .fullName

def checkEmail (text : String) : Except ProfileError Unit :=
  if isEmail text then .ok () else .error (.email text)

/-- Checks a value that may not be given. -/
def checkGiven (check : String → Except ProfileError Unit) :
    Option String → Except ProfileError Unit
  | some text => check text
  | none => .ok ()

end Profile

open Profile

def NewUser.validate (user : NewUser) : Except ProfileError Unit :=
  if !isUsername user.username then .error .username
  else
    match checkFullName user.fullName with
    | .error problem => .error problem
    | .ok _ => checkEmail user.email

def ProfilePatch.validate (patch : ProfilePatch) : Except ProfileError Unit :=
  if patch.fullName.isNone && patch.email.isNone then .error .nothingGiven
  else
    match checkGiven checkFullName patch.fullName with
    | .error problem => .error problem
    | .ok _ => checkGiven checkEmail patch.email

def ProfileError.toService (problem : ProfileError) : ServiceError :=
  .invalidRequest problem.message

namespace Service

/-- Stores a new user. -/
def register (user : NewUser) : Dialogue User := do
  Dialogue.ofExcept (user.validate.mapError ProfileError.toService)
  match ← Dialogue.outcome (Work.createUser user) with
  | .ok stored => return stored
  | .error error =>
    if error.isUniqueViolation then throw (.alreadyExists s!"user {user.username}")
    else throw (.store error)

/-- Changes what is given of a user's profile. -/
def changeProfile (change : ProfileChange) : Dialogue User := do
  Dialogue.ofExcept (change.patch.validate.mapError ProfileError.toService)
  match ← Dialogue.outcome (Work.updateUser change) with
  | .ok (some user) => return user
  | .ok none => throw (.userNotFound change.username)
  | .error error =>
    if error.isUniqueViolation then
      let email := change.patch.email.getD ""
      throw (.alreadyExists s!"email {email}")
    else throw (.store error)

end Service

end Passbook
