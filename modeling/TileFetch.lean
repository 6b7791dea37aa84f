import TileFetch.Auth.Cache
import TileFetch.Auth.Calls
import TileFetch.Auth.Context
import TileFetch.Auth.Policy
import TileFetch.Auth.Slot
import TileFetch.Broker.Fault
import TileFetch.Broker.Fetches
import TileFetch.Broker.Telemetry
import TileFetch.Client.Fault
import TileFetch.Client.Outgoing
import TileFetch.Client.Request
import TileFetch.Client.Settings
import TileFetch.Dict
import TileFetch.Domain.ClassTable
import TileFetch.Domain.Composition
import TileFetch.Domain.CompositionTable
import TileFetch.Domain.Label
import TileFetch.Domain.Mapping
import TileFetch.Domain.MappingTable
import TileFetch.Domain.Punycode
import TileFetch.Json.Basic
import TileFetch.Json.Decoder
import TileFetch.Json.Fault
import TileFetch.Json.Reader
import TileFetch.Json.Record
import TileFetch.Json.Row
import TileFetch.Json.Writer
import TileFetch.Messages
import TileFetch.Number.Binary64
import TileFetch.Number.Shortest
import TileFetch.Proofs.Auth.History
import TileFetch.Provider.Config
import TileFetch.Provider.Exchange
import TileFetch.Provider.Failure
import TileFetch.Provider.Public
import TileFetch.Provider.Spec
import TileFetch.Provider.Tokens
import TileFetch.Simulation.BrokerRun
import TileFetch.Simulation.BrokerSession
import TileFetch.Simulation.CacheRun
import TileFetch.Simulation.CacheSession
import TileFetch.Simulation.Counting
import TileFetch.Simulation.Guard
import TileFetch.Simulation.Numbering
import TileFetch.Simulation.ProviderSession
import TileFetch.Simulation.Script
import TileFetch.Simulation.Service
import TileFetch.Simulation.Tasks
import TileFetch.Simulation.World
import TileFetch.Template.Scan
import TileFetch.Template.UrlTemplate
import TileFetch.Text.Base64
import TileFetch.Text.CharClass
import TileFetch.Text.Hidden
import TileFetch.Text.Quoted
import TileFetch.Text.Shown
import TileFetch.Text.Table
import TileFetch.Text.Utf8
import TileFetch.Tile.Image
import TileFetch.Tile.Layer
import TileFetch.Tile.Request
import TileFetch.Time.Calendar
import TileFetch.Time.Instant
import TileFetch.Time.Span
import TileFetch.Url.Basic
import TileFetch.Url.Host
import TileFetch.Url.Parser
import TileFetch.Url.Percent
import TileFetch.Proofs.Auth.Moves
import TileFetch.Proofs.Auth.SlotInvariant
import TileFetch.Proofs.Auth.Reachable
import TileFetch.Proofs.Auth.SlotLaw
import TileFetch.Proofs.Auth.Leader
import TileFetch.Proofs.Auth.Returns
import TileFetch.Proofs.Auth.SingleFlight
import TileFetch.Proofs.Broker.History
import TileFetch.Proofs.Broker.Moves
import TileFetch.Proofs.Broker.Retry
import TileFetch.Proofs.Auth.Bypass
import TileFetch.Proofs.Auth.Accounting
import TileFetch.Proofs.Auth.Cancellation
import TileFetch.Proofs.Auth.Renewal
import TileFetch.Proofs.Broker.Expiry
import TileFetch.Proofs.Auth.Demand
import TileFetch.Proofs.Auth.FailedCycle
import TileFetch.Proofs.Broker.Outcome
import TileFetch.Proofs.Broker.Rejection
import TileFetch.Proofs.Template.Expansion
import TileFetch.Proofs.Template.Rendering
import TileFetch.Proofs.Url.Authority
import TileFetch.Proofs.Url.Origin
import TileFetch.Proofs.Template.Server
import TileFetch.Proofs.Url.Percent
import TileFetch.Proofs.Url.Segments
import TileFetch.Proofs.Template.LayerSegment
import TileFetch.Proofs.Broker.Telemetry
import TileFetch.Proofs.Auth.Schedule
import TileFetch.Proofs.Auth.Usable
import TileFetch.Simulation.Serving
import TileFetch.Proofs.Serving.Moves
import TileFetch.Proofs.Serving.Turns
import TileFetch.Proofs.Serving.Ledger
import TileFetch.Proofs.Provider.Faults
import TileFetch.Proofs.Serving.Requests
import TileFetch.Proofs.Serving.Answers
import TileFetch.Proofs.Serving.Effects
import TileFetch.Proofs.Counting.Tokens
import TileFetch.Proofs.Counting.Invariant
import TileFetch.Proofs.Counting.Published
import TileFetch.Proofs.Counting.Alone
import TileFetch.Proofs.Counting.Convergence
import TileFetch.Proofs.Serving.Seeking
import TileFetch.Proofs.Serving.Tasks
import TileFetch.Proofs.Serving.Sessions
import TileFetch.Proofs.Client.Headers
import TileFetch.Proofs.Provider.TokenUse
import TileFetch.Proofs.Text.Utf8
import TileFetch.Proofs.Json.Grammar
import TileFetch.Proofs.Json.Readers
import TileFetch.Proofs.Json.Texts
import TileFetch.Proofs.Json.Numbers
import TileFetch.Proofs.Json.Skip
import TileFetch.Proofs.Json.Decoders
import TileFetch.Proofs.Json.Records
import TileFetch.Proofs.Json.Fields
import TileFetch.Proofs.Provider.TokenResponse
import TileFetch.Proofs.Dict
import TileFetch.Proofs.Json.Objects
import TileFetch.Proofs.Template.Messages
import TileFetch.Proofs.Provider.Schema
import TileFetch.Proofs.Text.Base64
import TileFetch.Proofs.Provider.Credentials
import TileFetch.Simulation.Clocked
import TileFetch.Proofs.Auth.SharedFailure
import TileFetch.Proofs.Serving.Deadlines
import TileFetch.Proofs.Serving.Waiters
import TileFetch.Proofs.Serving.Timeouts
import TileFetch.Proofs.Text.Lossy
import TileFetch.Proofs.Client.Preview
import TileFetch.Proofs.Json.Written
import TileFetch.Proofs.Json.Taken
import TileFetch.Proofs.Json.Yielded
import TileFetch.Proofs.Tile.Layer
import TileFetch.Proofs.Tile.Request
import TileFetch.Proofs.Time.Parts
import TileFetch.Proofs.Auth.Documents
import TileFetch.Proofs.Client.Settings
import TileFetch.Proofs.Template.Scanner
import TileFetch.Proofs.Auth.Rounds
