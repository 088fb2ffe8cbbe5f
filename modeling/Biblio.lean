import Biblio.Cache
import Biblio.Capability
import Biblio.Clock
import Biblio.Config.Address
import Biblio.Config.Basic
import Biblio.Config.Environment
import Biblio.Config.Load
import Biblio.Config.Redaction
import Biblio.Config.Tree
import Biblio.Config.Validation
import Biblio.Decimal.Binary
import Biblio.Decimal.Digits
import Biblio.Decimal.Fixed
import Biblio.Decimal.Nearest
import Biblio.Decimal.Shortest
import Biblio.Definition.Basic
import Biblio.Definition.Validation
import Biblio.Distinct
import Biblio.Entity
import Biblio.Entity.Codec
import Biblio.Gathering.Error
import Biblio.Gathering.Failover
import Biblio.Gathering.Merge
import Biblio.Gathering.Search
import Biblio.Health.Basic
import Biblio.Health.Codec
import Biblio.Health.Tracking
import Biblio.Http.Api
import Biblio.Http.MediaType
import Biblio.Http.Resource
import Biblio.Http.Response
import Biblio.Http.Target
import Biblio.Json.Basic
import Biblio.Json.Decoder
import Biblio.Json.Document
import Biblio.Json.Printer
import Biblio.Json.Reader
import Biblio.Main
import Biblio.Metrics.PathLabel
import Biblio.Metrics.Series
import Biblio.Moment.Basic
import Biblio.Moment.Calendar
import Biblio.Moment.Text
import Biblio.OpenLibrary.Config
import Biblio.OpenLibrary.Documents
import Biblio.OpenLibrary.Lookup
import Biblio.OpenLibrary.Source
import Biblio.Proofs.Cache.History
import Biblio.Proofs.Cache.Live
import Biblio.Proofs.Config.Headroom
import Biblio.Proofs.Config.Redaction
import Biblio.Proofs.Config.Seeds
import Biblio.Proofs.Decimal.Digits
import Biblio.Proofs.Gathering.AllAnswers
import Biblio.Proofs.Gathering.Distinct
import Biblio.Proofs.Gathering.EmptyIdentifiers
import Biblio.Proofs.Gathering.FailsOver
import Biblio.Proofs.Gathering.Failures
import Biblio.Proofs.Gathering.FirstAnswer
import Biblio.Proofs.Gathering.Lookups
import Biblio.Proofs.Gathering.Merges
import Biblio.Proofs.Gathering.Provenance
import Biblio.Proofs.Gathering.Queries
import Biblio.Proofs.Gathering.Spellings
import Biblio.Proofs.Health.Backoff
import Biblio.Proofs.Health.History
import Biblio.Proofs.Health.Suspension
import Biblio.Proofs.Json.Literal
import Biblio.Proofs.Json.RoundTrip
import Biblio.Proofs.Json.SelfEqual
import Biblio.Proofs.Metrics.PathLabel
import Biblio.Proofs.Metrics.Segments
import Biblio.Proofs.Moment.Calendar
import Biblio.Proofs.Moment.Order
import Biblio.Proofs.Moment.RoundTrip
import Biblio.Proofs.OpenLibrary.Address
import Biblio.Proofs.OpenLibrary.BookLookup
import Biblio.Proofs.OpenLibrary.ChangeFeed
import Biblio.Proofs.OpenLibrary.Lookup
import Biblio.Proofs.OpenLibrary.Settings
import Biblio.Proofs.Provider.Accounting
import Biblio.Proofs.Provider.ActiveTime
import Biblio.Proofs.Provider.CacheContents
import Biblio.Proofs.Provider.CallCounts
import Biblio.Proofs.Provider.Consultation
import Biblio.Proofs.Provider.Found
import Biblio.Proofs.Provider.Inquiry
import Biblio.Proofs.Provider.Mirror
import Biblio.Proofs.Provider.Observed
import Biblio.Proofs.Provider.Recall
import Biblio.Proofs.Provider.Reply
import Biblio.Proofs.Provider.Requests
import Biblio.Proofs.Provider.Room
import Biblio.Proofs.Provider.Sharing
import Biblio.Proofs.Provider.Slots
import Biblio.Proofs.Provider.TitleSearch
import Biblio.Proofs.Registry.Changes
import Biblio.Proofs.Registry.Current
import Biblio.Proofs.Registry.Finding
import Biblio.Proofs.Registry.Instances
import Biblio.Proofs.Registry.Names
import Biblio.Proofs.Registry.Objections
import Biblio.Proofs.Registry.Order
import Biblio.Proofs.Registry.OrphanRows
import Biblio.Proofs.Registry.Priorities
import Biblio.Proofs.Registry.Refusals
import Biblio.Proofs.Registry.Seeding
import Biblio.Proofs.Registry.Selection
import Biblio.Proofs.Relevance.AuthorScore
import Biblio.Proofs.Relevance.Closeness
import Biblio.Proofs.Relevance.Containment
import Biblio.Proofs.Relevance.Exact
import Biblio.Proofs.Relevance.NameMatch
import Biblio.Proofs.Relevance.Ranking
import Biblio.Proofs.Relevance.Survivors
import Biblio.Proofs.SearchTerm.Grammar
import Biblio.Proofs.Service.Frame
import Biblio.Proofs.Service.HealthRecords
import Biblio.Proofs.Service.Run
import Biblio.Proofs.Source.Journal
import Biblio.Proofs.Source.Phases
import Biblio.Proofs.Store.Catalogue
import Biblio.Proofs.Store.Health
import Biblio.Proofs.Store.HealthRows
import Biblio.Proofs.Store.Reached
import Biblio.Proofs.Text.Capitals
import Biblio.Proofs.Text.Casing
import Biblio.Proofs.Text.LowerCase
import Biblio.Proofs.Text.NormalForms
import Biblio.Proofs.Text.Number
import Biblio.Proofs.Text.Octets
import Biblio.Proofs.Text.Restyled
import Biblio.Proofs.Text.Words
import Biblio.Proofs.Text.Wordwise
import Biblio.Proofs.Throttle.GivingUp
import Biblio.Proofs.Throttle.Meter
import Biblio.Proofs.Throttle.Overlaps
import Biblio.Proofs.Throttle.Schedule
import Biblio.Proofs.Throttle.SlidingWindow
import Biblio.Provider.Basic
import Biblio.Provider.Lookup
import Biblio.Provider.TimeLimit
import Biblio.Registry.Changes
import Biblio.Registry.Error
import Biblio.Registry.Factory
import Biblio.Registry.Selection
import Biblio.Relevance.Gate
import Biblio.Relevance.Match
import Biblio.Relevance.Rank
import Biblio.Relevance.Scale
import Biblio.Relevance.Score
import Biblio.Sample
import Biblio.SearchTerm
import Biblio.Server.Console
import Biblio.Server.Folder
import Biblio.Server.Startup
import Biblio.Service.State
import Biblio.Source.Activity
import Biblio.Source.Basic
import Biblio.Source.Error
import Biblio.Source.Script
import Biblio.Span
import Biblio.Store.Basic
import Biblio.Table
import Biblio.Text.Blank
import Biblio.Text.Case
import Biblio.Text.CaseTable
import Biblio.Text.Infix
import Biblio.Text.Key
import Biblio.Text.Order
import Biblio.Text.PrintTable
import Biblio.Text.Quoted
import Biblio.Text.Utf8
import Biblio.Throttle.Limiter
import Biblio.Throttle.Meter
import Biblio.Throttle.Trial
import Biblio.Toml.Document
import Biblio.Toml.Lexeme
import Biblio.Toml.Number
import Biblio.Toml.Value
