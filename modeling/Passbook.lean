import Passbook.Amount
import Passbook.Config
import Passbook.Connection
import Passbook.Currency
import Passbook.Decimal.Binary
import Passbook.Decimal.Shortest
import Passbook.Form
import Passbook.Http.Api
import Passbook.Http.Correlation
import Passbook.Http.Header
import Passbook.Http.Intake
import Passbook.Http.MediaType
import Passbook.Http.Message
import Passbook.Http.Query
import Passbook.Http.Route
import Passbook.Http.Target
import Passbook.Http.Uuid
import Passbook.Internet.Domain
import Passbook.Internet.Domain.Direction
import Passbook.Internet.Domain.Folding
import Passbook.Internet.Domain.Joining
import Passbook.Internet.Host
import Passbook.Internet.Ip
import Passbook.Internet.Pairs
import Passbook.Internet.Punycode
import Passbook.Internet.Url
import Passbook.Json.Document
import Passbook.Json.Reader
import Passbook.Json.Value
import Passbook.Ledger.Basic
import Passbook.Ledger.Error
import Passbook.Ledger.Fault
import Passbook.Ledger.Query
import Passbook.Ledger.Schema
import Passbook.Ledger.Session
import Passbook.Ledger.Tables
import Passbook.LoadTest.Plan
import Passbook.LoadTest.Report
import Passbook.LoadTest.Run
import Passbook.Main
import Passbook.Order
import Passbook.Order.Json
import Passbook.Page
import Passbook.Program
import Passbook.Proofs.Amount
import Passbook.Proofs.Http.Correlation
import Passbook.Proofs.Http.Header
import Passbook.Proofs.Http.Uuid
import Passbook.Proofs.Ledger.Effect
import Passbook.Proofs.Ledger.Failure
import Passbook.Proofs.Ledger.Journal
import Passbook.Proofs.Ledger.Sound
import Passbook.Proofs.Ledger.Statement
import Passbook.Proofs.Ledger.Transaction
import Passbook.Proofs.Ledger.Written
import Passbook.Proofs.LoadTest.Passing
import Passbook.Proofs.Money.AnyOrder
import Passbook.Proofs.Money.Apart
import Passbook.Proofs.Money.Audit
import Passbook.Proofs.Money.Bounds
import Passbook.Proofs.Money.Conservation
import Passbook.Proofs.Money.Opening
import Passbook.Proofs.Money.Overdraft
import Passbook.Proofs.Money.Pairing
import Passbook.Proofs.Page
import Passbook.Proofs.Record.RoundTrip
import Passbook.Proofs.Run.Discipline
import Passbook.Proofs.Run.History
import Passbook.Proofs.Run.Integrity
import Passbook.Proofs.Run.Invariant
import Passbook.Proofs.Run.Profiles
import Passbook.Proofs.Run.Seeding
import Passbook.Proofs.Run.Texts
import Passbook.Proofs.Service.Admission
import Passbook.Proofs.Service.Calls
import Passbook.Proofs.Service.Disclosure
import Passbook.Proofs.Service.Legible
import Passbook.Proofs.Service.Listings
import Passbook.Proofs.Service.Malformed
import Passbook.Proofs.Service.Registration
import Passbook.Proofs.Service.Sending
import Passbook.Proofs.Service.Statuses
import Passbook.Proofs.Service.Targets
import Passbook.Proofs.Service.Traceless
import Passbook.Proofs.Store.Alike
import Passbook.Proofs.Store.Locking
import Passbook.Proofs.Store.Outcome
import Passbook.Proofs.Store.Rollbacks
import Passbook.Proofs.Store.Settlement
import Passbook.Proofs.Store.Settling
import Passbook.Proofs.Store.Statements
import Passbook.Proofs.Store.Strict
import Passbook.Proofs.Store.Updating
import Passbook.Proofs.Traffic.Checks
import Passbook.Proofs.Traffic.Clients
import Passbook.Proofs.Traffic.Currencies
import Passbook.Proofs.Traffic.Desk
import Passbook.Proofs.Traffic.Races
import Passbook.Record
import Passbook.Record.Json
import Passbook.Rule
import Passbook.Script
import Passbook.SelfTransfer
import Passbook.Server.Address
import Passbook.Server.Line
import Passbook.Server.Run
import Passbook.Server.Site
import Passbook.Service.Accounts
import Passbook.Service.Dialogue
import Passbook.Service.Error
import Passbook.Service.Transfers
import Passbook.Service.Users
import Passbook.Service.Views
import Passbook.Store.Batch
import Passbook.Store.Error
import Passbook.Store.Seed
import Passbook.Store.Transfer
import Passbook.Store.Work
import Passbook.Text.Blank
import Passbook.Text.Hidden
import Passbook.Text.Mark
import Passbook.Text.Normal
import Passbook.Text.Normal.Order
import Passbook.Text.Normal.Pairs
import Passbook.Text.Numeral
import Passbook.Text.Percent
import Passbook.Text.Quoted
import Passbook.Text.Split
import Passbook.Text.Utf8
import Passbook.Text.Vacant
import Passbook.Time.Date
import Passbook.Time.Instant
import Passbook.Time.Rfc3339
import Passbook.Proofs.Text.Blank
