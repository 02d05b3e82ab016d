/-
**What callers ask for.**

The requests that the service and its store take, as plain records. A `TransferOrder` and a
`NewAccount` carry the text of a currency as the caller wrote it; a `Movement` and an
`AccountOpening` are what is left to do once that text has been understood.
-/

import Passbook.Currency
import Passbook.Page

namespace Passbook

structure NewUser where
  username : String
  fullName : String
  email : String
  deriving DecidableEq, Repr

/-- A change of a user's profile; what is not given stays as it is. -/
structure ProfilePatch where
  fullName : Option String
  email : Option String
  deriving DecidableEq, Repr

structure ProfileChange where
  username : String
  patch : ProfilePatch
  deriving DecidableEq, Repr

structure NewAccount where
  owner : String
  currency : String
  deriving DecidableEq, Repr

structure AccountOpening where
  owner : String
  balance : Int
  currency : Currency
  deriving DecidableEq, Repr

structure TransferOrder where
  source : Int
  target : Int
  amount : Int
  currency : String
  deriving DecidableEq, Repr

structure Movement where
  source : Int
  target : Int
  amount : Int
  deriving DecidableEq, Repr

/-- An entry to be made for a transfer. -/
structure Posting where
  transfer : Int
  account : Int
  amount : Int
  deriving DecidableEq, Repr

/-- A signed change of one account's balance. -/
structure BalanceChange where
  account : Int
  amount : Int
  deriving DecidableEq, Repr

/-! ### Listings -/

/-- A page of the accounts of an owner. -/
structure AccountListing where
  owner : String
  page : Page
  deriving DecidableEq, Repr

/-- A page of the transfers from or to an account. -/
structure TransferListing where
  account : Int
  page : Page
  deriving DecidableEq, Repr

/-- Some rows of the accounts of an owner. -/
structure AccountRows where
  owner : String
  window : Window
  deriving DecidableEq, Repr

/-- Some rows of the transfers that come from one account or go to the other. -/
structure TransferRows where
  source : Int
  target : Int
  window : Window
  deriving DecidableEq, Repr

/-- Some rows of the entries of an account. -/
structure EntryRows where
  account : Int
  window : Window
  deriving DecidableEq, Repr

end Passbook
