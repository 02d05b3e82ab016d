/-
**Configuration of the service.**

`Config.load` reads the settings of the service from named variables. Each variable but the address
of the database has a default; the first variable that is missing or unreadable, in the order of the
settings, is the one reported.
-/

import Passbook.SelfTransfer
import Passbook.Text.Numeral

namespace Passbook

structure Config where
  databaseAddress : String
  /-- The greatest number of connections held open to the database. -/
  connections : Int
  host : String
  port : Int
  environment : String
  selfTransfer : SelfTransferPolicy
  /-- Lay out the tables at start-up. -/
  migrates : Bool
  /-- Store the demonstration users and accounts at start-up. -/
  seeds : Bool
  deriving DecidableEq, Repr

inductive ConfigError where
  | missing (name : String)
  | invalid (name : String)
  deriving DecidableEq, Repr

def ConfigError.message : ConfigError → String
  | missing name => s!"Missing environment variable: {name}"
  | invalid name => s!"Invalid value for environment variable: {name}"

namespace Config

/-- Settings as a function from a variable's name to its value. -/
abbrev Lookup := String → Option String

def readNumber (range : Text.IntegerRange) (text : String) : Option Int :=
  (Text.Numeral.read range text.toList).toOption

/-- Reads a switch in any ASCII case. -/
def readSwitch (text : String) : Option Bool :=
  if ["1", "true", "yes"].contains text.toLower then some true
  else if ["0", "false", "no"].contains text.toLower then some false
  else none

/-- The value of a variable, or its default when it is not set. -/
def setting (lookup : Lookup) (name : String) (read : String → Option α) (unset : α) :
    Except ConfigError α :=
  match lookup name with
  | none => .ok unset
  | some text =>
    match read text with
    | some value => .ok value
    | none => .error (.invalid name)

def load (lookup : Lookup) : Except ConfigError Config := do
  let databaseAddress ← match lookup "DATABASE_URL" with
    | some address => .ok address
    | none => .error (.missing "DATABASE_URL")
  let connections ← setting lookup "DATABASE_MAX_CONNECTIONS" (readNumber .word32) 10
  let host ← setting lookup "HOST" some "127.0.0.1"
  let port ← setting lookup "PORT" (readNumber .word16) 8080
  let environment ← setting lookup "ENVIRONMENT" some "development"
  let selfTransfer ← setting lookup "SELF_TRANSFER_POLICY"
    (fun text => (SelfTransferPolicy.ofText text).toOption) .standard
  let migrates ← setting lookup "RUN_MIGRATIONS" readSwitch true
  let seeds ← setting lookup "SEED_DATABASE" readSwitch false
  return { databaseAddress, connections, host, port, environment, selfTransfer, migrates, seeds }

def isProduction (config : Config) : Bool :=
  config.environment == "production"

end Config

end Passbook
