/-
**Media types.**

A `MediaType` is a type and a subtype, which may end in a suffix behind a plus sign; parameters may
follow. `read?` gives the type of a text in lower case and only checks the parameters: each is a
name and a value, and the value is a token or stands between double quotes.
-/

import Passbook.Text.Split

namespace Passbook.Http

structure MediaType where
  top : List Char
  subtype : List Char
  suffix : Option (List Char)
  deriving DecidableEq, Repr

namespace MediaType

/-- A character of a token. -/
def isToken (c : Char) : Bool :=
  c.isAlphanum || "!#$%&'*+-.^_`|~".toList.contains c

/-- A character that may stand between quotes. -/
def isQuotable (c : Char) : Bool :=
  0x20 ≤ c.toNat && c.toNat != 0x7F

/-- Where a reader of parameters stands. -/
inductive Place where
  /-- Before a parameter or after the last one. -/
  | between
  | name
  | beforeValue
  | token
  /-- Behind the opening quote: one character at least must come before the closing one. -/
  | opened
  | quoted
  | closed
  deriving DecidableEq, Repr

/-- Where a reader of parameters stands after one more character. -/
def Place.step (place : Place) (c : Char) : Option Place :=
  match place with
  | between => if c = ' ' then some between else if isToken c then some name else none
  | name => if isToken c then some name else if c = '=' then some beforeValue else none
  | beforeValue => if c = '\x22' then some opened else if isToken c then some token else none
  | token => if isToken c then some token else if c = ';' then some between else none
  | opened => if isQuotable c then some quoted else none
  | quoted => if c = '\x22' then some closed else if isQuotable c then some quoted else none
  | closed => if c = ';' then some between else if c = ' ' then some closed else none

/-- The parameters may end here. -/
def Place.isEnd : Place → Bool
  | between | beforeValue | token | closed => true
  | name | opened | quoted => false

def areParameters (text : List Char) : Bool :=
  match text.foldlM Place.step .between with
  | some place => place.isEnd
  | none => false

/-- The subtype and its suffix. The suffix begins at the last plus sign, which is not the first
character. -/
def splitSuffix (text : List Char) : List Char × Option (List Char) :=
  match Text.cut '+' text.reverse with
  | (_, none) => (text, none)
  | (_, some []) => (text, none)
  | (suffix, some subtype) => (subtype.reverse, some suffix.reverse)

/-- Nothing, or a semicolon and parameters. -/
def isTail : List Char → Bool
  | [] => true
  | c :: rest => c == ';' && areParameters rest

def read? (text : List Char) : Option MediaType :=
  match Text.cut '/' (text.map Char.toLower) with
  | (_, none) => none
  | (top, some rest) =>
    let subtype := rest.takeWhile isToken
    if !top.isEmpty && top.all isToken && !subtype.isEmpty && isTail (rest.dropWhile isToken) then
      let (subtype, suffix) := splitSuffix subtype
      some { top, subtype, suffix }
    else none

/-- JSON itself or a format built on it. -/
def isJson (type : MediaType) : Bool :=
  type.top == "application".toList &&
    (type.subtype == "json".toList || type.suffix == some "json".toList)

end MediaType

end Passbook.Http
