/-
**Connections to a database.**

The address of a database is a URL whose path names the database and whose query holds settings of
the connection. `Connection.check` refuses an address with which no connection can be attempted. It
looks at the host and the user before the settings, and the first problem is the one reported. The
name of the database is taken as it is written.
-/

import Passbook.Internet.Pairs
import Passbook.Internet.Url
import Passbook.Text.Quoted

namespace Passbook

open Internet (Ip Url UrlError)
open Text (NumeralError)

/-- Why no connection can be attempted. -/
inductive ConnectionError where
  | url (error : UrlError)
  /-- A part of the address is no text. -/
  | bytes (fault : Text.Utf8.Fault)
  /-- There is no such way to encrypt a connection. -/
  | encryption (name : String)
  | ip
  | numeral (error : NumeralError)
  deriving DecidableEq, Repr

namespace ConnectionError

/-- What every one of the messages begins with. -/
def heading (reason : String) : String :=
  s!"error with configuration: {reason}"

/-- The reasons, each followed by the one below it. -/
def reasons : ConnectionError → List String
  | url error => [error.message]
  | bytes fault => [fault.message]
  | encryption name =>
    let reason := s!"unknown value {Text.Quoted.encode name} for `ssl_mode`"
    [heading reason, reason]
  | ip => ["invalid IP address syntax"]
  | numeral error => [error.message]

def message (error : ConnectionError) : String :=
  heading (error.reasons.headD "")

end ConnectionError

namespace Connection

/-- The bytes that a part of a URL stands for. -/
def bytesOf (text : List Char) : List UInt8 :=
  Text.Percent.decode (Text.Utf8.encode text)

/-- A part of a URL must stand for a text. -/
def checkText (text : List Char) : Except ConnectionError Unit :=
  match Text.Utf8.fault? 0 (bytesOf text) with
  | none => .ok ()
  | some fault => .error (.bytes fault)

/-- A host whose name begins with a slash is the path of a socket and must stand for a text. -/
def checkHost : Option Internet.Host → Except ConnectionError Unit
  | some (.name text) =>
    if (bytesOf text).head? = some '/'.toUInt8 then checkText text else .ok ()
  | _ => .ok ()

def checkNumber (range : Text.IntegerRange) (value : String) : Except ConnectionError Unit :=
  match Text.Numeral.read range value.toList with
  | .ok _ => .ok ()
  | .error error => .error (.numeral error)

/-- The ways to encrypt a connection. -/
def encryptions : List String :=
  ["disable", "allow", "prefer", "require", "verify-ca", "verify-full"]

/-- Checks a setting. One of a name that is not known has no effect. -/
def checkSetting : String × String → Except ConnectionError Unit
  | ("sslmode", value) | ("ssl-mode", value) =>
    if encryptions.contains (String.ofList (value.toList.map Char.toLower)) then .ok ()
    else .error (.encryption value)
  | ("statement-cache-capacity", value) => checkNumber .word64 value
  | ("hostaddr", value) => if (Ip.read? value.toList).isSome then .ok () else .error .ip
  | ("port", value) => checkNumber .word16 value
  | _ => .ok ()

def check (address : String) : Except ConnectionError Unit := do
  let url ← (Url.read address).mapError .url
  checkHost url.authority.host
  checkText url.authority.username
  checkText url.authority.password
  (Internet.Pairs.read url.query).forM checkSetting

end Connection

end Passbook
