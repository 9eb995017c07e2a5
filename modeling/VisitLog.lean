import VisitLog.Calendar.Date
import VisitLog.Calendar.Instant
import VisitLog.Calendar.Reading
import VisitLog.Column
import VisitLog.Dashboard.DailyStats
import VisitLog.Dashboard.Filters
import VisitLog.Dashboard.Home
import VisitLog.Dashboard.Html
import VisitLog.Dashboard.Lists
import VisitLog.Dashboard.Page
import VisitLog.Dashboard.PageViews
import VisitLog.Dashboard.Paging
import VisitLog.Dashboard.Parts
import VisitLog.Dashboard.Session
import VisitLog.Dashboard.VisitorActivity
import VisitLog.Dashboard.VisitorPaths
import VisitLog.Database.Catalog
import VisitLog.Database.Engine
import VisitLog.Database.Fault
import VisitLog.Database.Migration
import VisitLog.Database.Numeral
import VisitLog.Database.Planner
import VisitLog.Database.Row
import VisitLog.Database.Select
import VisitLog.Database.Stored
import VisitLog.Database.Table
import VisitLog.Digest.Hex
import VisitLog.Digest.Sha256
import VisitLog.Digest.Xxh3
import VisitLog.Failure
import VisitLog.Http.Address
import VisitLog.Http.Cookie
import VisitLog.Http.MediaType
import VisitLog.Http.Message
import VisitLog.Json.Fault
import VisitLog.Json.Members
import VisitLog.Json.Record
import VisitLog.Json.Scan
import VisitLog.Json.Text
import VisitLog.Main
import VisitLog.Number.Binary64
import VisitLog.Number.Decimal
import VisitLog.Number.Shortest
import VisitLog.Query.Options
import VisitLog.Query.Parameters
import VisitLog.Query.Sql
import VisitLog.Query.Statement
import VisitLog.Retention
import VisitLog.Service
import VisitLog.Service.Beacon
import VisitLog.Service.Capture
import VisitLog.Service.Endpoint
import VisitLog.Service.Gate
import VisitLog.Service.RateLimit
import VisitLog.Service.Report
import VisitLog.Service.Start
import VisitLog.Settings
import VisitLog.Settings.Entry
import VisitLog.Settings.Load
import VisitLog.Settings.Source
import VisitLog.Store
import VisitLog.Text.AsciiCase
import VisitLog.Text.Blank
import VisitLog.Text.DecimalDigit
import VisitLog.Text.Digits
import VisitLog.Text.Form
import VisitLog.Text.Integer
import VisitLog.Text.Like
import VisitLog.Text.Lowercase
import VisitLog.Text.Quoted
import VisitLog.Text.Search
import VisitLog.Text.Utf8
import VisitLog.Text.Word
import VisitLog.Toml.Moment
import VisitLog.Toml.Read
import VisitLog.Toml.Text
import VisitLog.Toml.Tree
import VisitLog.Toml.Value
import VisitLog.UserAgent
import VisitLog.Visit
import VisitLog.Visitor
import VisitLog.WriteBehind.Channel
import VisitLog.WriteBehind.Schedule
import VisitLog.WriteBehind.Worker
import VisitLog.Proofs.KeptText
import VisitLog.Proofs.Queries
import VisitLog.Proofs.ById
import VisitLog.Proofs.Selection
import VisitLog.Proofs.Sorting
import VisitLog.Proofs.Listing
import VisitLog.Proofs.Simulation
import VisitLog.Proofs.Merge
import VisitLog.Proofs.Chronology
import VisitLog.Proofs.Expiry
import VisitLog.Proofs.Captures
import VisitLog.Proofs.Pipeline
import VisitLog.Proofs.Atomicity
import VisitLog.Proofs.Timelines
import VisitLog.Proofs.Hiding
import VisitLog.Proofs.Lifecycle
import VisitLog.Proofs.Scheduling
import VisitLog.Proofs.Requests
import VisitLog.Proofs.Persistence
import VisitLog.Proofs.Agreement
import VisitLog.Proofs.Visibility
import VisitLog.Proofs.Confinement
import VisitLog.Proofs.Admission
import VisitLog.Proofs.Counting
import VisitLog.Proofs.Markup
import VisitLog.Proofs.Placeholders
import VisitLog.Proofs.Pages
import VisitLog.Proofs.Isolation
import VisitLog.Proofs.Statements
import VisitLog.Proofs.Repair
import VisitLog.Proofs.Convergence
import VisitLog.Proofs.Forms
import VisitLog.Proofs.Links
import VisitLog.Proofs.Readings
import VisitLog.Proofs.CalendarDays
import VisitLog.Proofs.DailyCounts
import VisitLog.Proofs.WellFormed
import VisitLog.Proofs.Batches
import VisitLog.Proofs.Intake
import VisitLog.Proofs.PathSearch
import VisitLog.Proofs.Liveness
import VisitLog.Proofs.Sessions
import VisitLog.Proofs.VisitOrder
import VisitLog.Proofs.Grouping
import VisitLog.Proofs.Fingerprints
import VisitLog.Proofs.Bounds
import VisitLog.Proofs.Addresses
import VisitLog.Proofs.ClientAddresses
import VisitLog.Proofs.Normalization
import VisitLog.Proofs.Ranges
import VisitLog.Proofs.BlankParameters
import VisitLog.Proofs.Hyperlinks
import VisitLog.Proofs.LinkTargets
import VisitLog.Proofs.PageLinks
import VisitLog.Proofs.AgentFields
import VisitLog.Proofs.Changes
import VisitLog.Proofs.Identifiers
