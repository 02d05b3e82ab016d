/-
**URLs.**

A `Url` begins with the name of its scheme and a colon. An authority may follow behind two slashes,
with a user, a host and a port, and then come a path and a query. Blanks at the ends, tabs and line
breaks are left out of account. In the schemes of the web there is always an authority, and a
backslash is as good as a slash.
-/

import Passbook.Internet.Host

namespace Passbook.Internet

/-- Why a text is no URL. -/
inductive UrlError where
  /-- It does not begin with a scheme. -/
  | relative
  | host (error : HostError)
  | port
  deriving DecidableEq, Repr

def UrlError.message : UrlError → String
  | relative => "relative URL without a base"
  | host error => error.message
  | port => "invalid port number"

/-- The kinds of schemes. -/
inductive SchemeKind where
  | file
  | web
  | other
  deriving DecidableEq, Repr

def SchemeKind.ofName (name : List Char) : SchemeKind :=
  if name = "file".toList then .file
  else if ["http", "https", "ws", "wss", "ftp"].contains (String.ofList name) then .web
  else .other

/-- The user, the host and the port of a URL, as they are written. -/
structure Authority where
  username : List Char := []
  password : List Char := []
  host : Option Host := none
  port : Option Nat := none
  deriving DecidableEq, Repr

structure Url where
  /-- In lower case. -/
  scheme : List Char
  authority : Authority
  path : List Char
  /-- Empty when there is none. -/
  query : List Char
  deriving DecidableEq, Repr

namespace SchemeKind

def isSlash (kind : SchemeKind) (c : Char) : Bool :=
  c == '/' || (c == '\\' && kind != .other)

/-- An authority goes on with this character. -/
def isAuthority (kind : SchemeKind) (c : Char) : Bool :=
  !kind.isSlash c && c != '?' && c != '#'

end SchemeKind

namespace Authority

/-- The user, who stands before the last at sign, and what follows. -/
def splitUser (text : List Char) : Option (List Char) × List Char :=
  match Text.cut '@' text.reverse with
  | (_, none) => (none, text)
  | (rest, some user) => (some user.reverse, rest.reverse)

/-- A host, and what follows the first colon outside of brackets. -/
def splitPort (inside : Bool) : List Char → List Char × Option (List Char)
  | [] => ([], none)
  | c :: rest =>
    if c = ':' ∧ !inside then ([], some rest)
    else
      let (host, port) := splitPort (c = '[' || (inside && c != ']')) rest
      (c :: host, port)

/-- Reads a port, which may be left out behind its colon and ends before a backslash. -/
def readPort (text : List Char) : Except UrlError (Option Nat) :=
  let digits := text.takeWhile (· != '\\')
  if digits.isEmpty then .ok none
  else
    match Text.Numeral.readUnsigned .word16 false digits with
    | .ok n => .ok (some n.toNat)
    | .error _ => .error .port

/-- Reads a host; only outside of the web may it be left out. -/
def readHost (kind : SchemeKind) (text : List Char) : Except UrlError (Option Host) :=
  match kind, text with
  | .other, [] => .ok none
  | .other, text => ((Host.ofText text).map some).mapError .host
  | _, text => ((Host.ofDomain text).map some).mapError .host

/-- Reads an authority. Without a host there are neither a user nor a port. -/
def read (kind : SchemeKind) (text : List Char) : Except UrlError Authority := do
  let (user, place) := splitUser text
  if user = some [] ∧ place.isEmpty then throw (.host .empty)
  let (hostText, portText) := splitPort false place
  let host ← readHost kind hostText
  if host.isNone ∧ portText.isSome then throw (.host .empty)
  let port ← readPort (portText.getD [])
  let (username, password) := Text.cut ':' (user.getD [])
  let password := password.getD []
  if host.isNone ∧ !(username.isEmpty && password.isEmpty) then throw (.host .empty)
  return { username, password, host, port }

/-- Reads the authority of a file, which is a host alone. -/
def readFile (text : List Char) : Except UrlError Authority := do
  if text.isEmpty then return {}
  return { host := ← readHost .file text }

end Authority

namespace Url

/-- A character of the name of a scheme behind the first one, which is a letter. -/
def isScheme (c : Char) : Bool :=
  c.isAlphanum || c == '+' || c == '-' || c == '.'

/-- The name of a scheme, and what follows its colon. -/
def splitScheme? (text : List Char) : Option (List Char × List Char) :=
  match Text.cut ':' text with
  | (letter :: name, some rest) =>
    if letter.isAlpha && name.all isScheme then some ((letter :: name).map Char.toLower, rest)
    else none
  | _ => none

/-- A control or a blank of ASCII. -/
def isMargin (c : Char) : Bool :=
  c ≤ ' '

/-- The text without what does not count. -/
def strip (text : List Char) : List Char :=
  let text := ((text.dropWhile isMargin).reverse.dropWhile isMargin).reverse
  text.filter fun c => c != '\t' && c != '\n' && c != '\r'

/-- The letter of a drive and a colon or a bar. -/
def isDrive : List Char → Bool
  | [letter, mark] => letter.isAlpha && (mark == ':' || mark == '|')
  | _ => false

/-- What follows the two slashes before an authority. -/
def behindSlashes? (kind : SchemeKind) (text : List Char) : Option (List Char) :=
  match kind, text with
  | .web, text => some (text.dropWhile kind.isSlash)
  | kind, a :: b :: rest => if kind.isSlash a && kind.isSlash b then some rest else none
  | _, _ => none

/-- Reads the authority, if there is one, and gives what follows it. -/
def splitAuthority (kind : SchemeKind) (text : List Char) :
    Except UrlError (Authority × List Char) :=
  match behindSlashes? kind text with
  | none => .ok ({}, text)
  | some text =>
    let written := text.takeWhile kind.isAuthority
    let rest := text.dropWhile kind.isAuthority
    match kind with
    | .file =>
      if isDrive written then .ok ({}, text)
      else (Authority.readFile written).map fun authority => (authority, rest)
    | kind => (Authority.read kind written).map fun authority => (authority, rest)

def read (text : String) : Except UrlError Url := do
  match splitScheme? (strip text.toList) with
  | none => .error .relative
  | some (scheme, rest) =>
    let kind := SchemeKind.ofName scheme
    let (authority, place) ← splitAuthority kind rest
    let (path, query) := Text.cut '?' (Text.cut '#' place).1
    let path := path.map fun c => if kind.isSlash c then '/' else c
    return { scheme, authority, path, query := query.getD [] }

end Url

end Passbook.Internet
