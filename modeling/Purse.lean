import Purse.Audit
import Purse.Calendar
import Purse.Cell
import Purse.CommandLine.Commands
import Purse.CommandLine.Companion
import Purse.CommandLine.Disk
import Purse.CommandLine.Grammar
import Purse.CommandLine.Location
import Purse.CommandLine.Opening
import Purse.CommandLine.Output
import Purse.CommandLine.Run
import Purse.CommandLine.Session
import Purse.CommandLine.Target
import Purse.CommandLine.Usage
import Purse.Decimal
import Purse.Entry
import Purse.Exchange.Reader
import Purse.Exchange.Writer
import Purse.Extended
import Purse.Group
import Purse.Ident
import Purse.Ident.Fault
import Purse.Instant
import Purse.Instant.Reader
import Purse.Json
import Purse.Json.Reader
import Purse.Main
import Purse.Money
import Purse.Product
import Purse.Proofs.Attempts
import Purse.Proofs.Codec.Calendar
import Purse.Proofs.Codec.Endings
import Purse.Proofs.Codec.Ident
import Purse.Proofs.Codec.Instant
import Purse.Proofs.Codec.Money
import Purse.Proofs.Codec.Order
import Purse.Proofs.Codec.Record
import Purse.Proofs.Codec.Years
import Purse.Proofs.CommandLine.Requests
import Purse.Proofs.CommandLine.Runs
import Purse.Proofs.CommandLine.Stores
import Purse.Proofs.Ledger.AppendOnly
import Purse.Proofs.Ledger.Balance
import Purse.Proofs.Ledger.Book
import Purse.Proofs.Ledger.Conservation
import Purse.Proofs.Ledger.Effects
import Purse.Proofs.Ledger.Gaps
import Purse.Proofs.Ledger.History
import Purse.Proofs.Ledger.Legible
import Purse.Proofs.Ledger.Names
import Purse.Proofs.Ledger.Pairs
import Purse.Proofs.Ledger.Reordering
import Purse.Proofs.Ledger.RunningSums
import Purse.Proofs.Ledger.Shapes
import Purse.Proofs.Ledger.Sound
import Purse.Proofs.Ledger.Stamps
import Purse.Proofs.Ledger.Stock
import Purse.Proofs.Query.Filters
import Purse.Proofs.Query.Meaning
import Purse.Proofs.Query.Patterns
import Purse.Proofs.Query.Rendering
import Purse.Proofs.Query.Routes
import Purse.Proofs.Query.Sorting
import Purse.Proofs.Query.Windows
import Purse.Proofs.Service.Admitted
import Purse.Proofs.Service.Audits
import Purse.Proofs.Service.Duplicates
import Purse.Proofs.Service.Faultless
import Purse.Proofs.Service.Granted
import Purse.Proofs.Service.Histories
import Purse.Proofs.Service.Ownership
import Purse.Proofs.Service.Rejection
import Purse.Proofs.Service.Returned
import Purse.Proofs.Service.Scopes
import Purse.Proofs.Service.Settlements
import Purse.Proofs.Service.WalletAudits
import Purse.Proofs.Service.Writers
import Purse.Proofs.Store.Access
import Purse.Proofs.Store.Answers
import Purse.Proofs.Store.Distinct
import Purse.Proofs.Store.Links
import Purse.Proofs.Store.Listing
import Purse.Proofs.Store.Outline
import Purse.Proofs.Store.Paging
import Purse.Proofs.Store.Readback
import Purse.Proofs.Store.Table
import Purse.Proofs.Text.Digits
import Purse.Proofs.Text.Trim
import Purse.Query.Condition
import Purse.Query.Error
import Purse.Query.Estimate
import Purse.Query.Index
import Purse.Query.Like
import Purse.Query.Limits
import Purse.Query.Operator
import Purse.Query.Page
import Purse.Query.Plan
import Purse.Query.Route
import Purse.Query.Selection
import Purse.Query.Sort
import Purse.Query.Statement
import Purse.Request
import Purse.Service.Accounts
import Purse.Service.Call
import Purse.Service.Change
import Purse.Service.Error
import Purse.Service.Ledger
import Purse.Store.Archive
import Purse.Store.Column
import Purse.Store.Record
import Purse.Store.Repository
import Purse.Store.Row
import Purse.Store.Schema
import Purse.Store.Scope
import Purse.Store.Table
import Purse.Text.Blank
import Purse.Text.Case
import Purse.Text.Digits
import Purse.Text.Lowercase
import Purse.Text.Quoted
import Purse.Text.Ranges
import Purse.Text.Split
import Purse.Text.Utf8
import Purse.Text.Visible
import Purse.Wallet
