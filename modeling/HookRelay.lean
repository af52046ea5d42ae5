import HookRelay.Admission.Basic
import HookRelay.Admission.Format
import HookRelay.Cluster.Memory
import HookRelay.Cluster.Metadata
import HookRelay.Cluster.Request
import HookRelay.Cluster.Resource
import HookRelay.Cluster.Service
import HookRelay.CommandLine.Reader
import HookRelay.Condition.Basic
import HookRelay.Condition.Set
import HookRelay.Controller.Basic
import HookRelay.Controller.Finalizer
import HookRelay.Controller.Server
import HookRelay.Controller.Settings
import HookRelay.Controller.Wiring
import HookRelay.Credential.Basic
import HookRelay.Credential.Memory
import HookRelay.Credential.Stored
import HookRelay.Decimal.Shortest
import HookRelay.Decimal.Whole
import HookRelay.Delivery.Adapter
import HookRelay.Delivery.Sender
import HookRelay.Delivery.Settings
import HookRelay.Delivery.Translate
import HookRelay.Event.Category
import HookRelay.Event.Header
import HookRelay.Hook.Basic
import HookRelay.Hook.Rest
import HookRelay.Hook.Store
import HookRelay.Hook.Sync
import HookRelay.Http.MediaType
import HookRelay.Http.Message
import HookRelay.Http.Network
import HookRelay.Http.Probes
import HookRelay.Idna.Domain
import HookRelay.Idna.Label
import HookRelay.Idna.LabelTable
import HookRelay.Idna.Mapping
import HookRelay.Idna.MappingTable
import HookRelay.Idna.NormalForm
import HookRelay.Idna.NormalTable
import HookRelay.Idna.Punycode
import HookRelay.Json.Basic
import HookRelay.Json.Decode
import HookRelay.Json.Document
import HookRelay.Json.Fault
import HookRelay.Json.Merge
import HookRelay.Json.Number
import HookRelay.Json.Patch
import HookRelay.Json.Printer
import HookRelay.Main
import HookRelay.Manifest.Schema
import HookRelay.Manifest.Source
import HookRelay.Metrics
import HookRelay.Notice.Basic
import HookRelay.Notice.Cluster
import HookRelay.Pass.Basic
import HookRelay.Pass.Converge
import HookRelay.Pass.Finalize
import HookRelay.Proofs.Admission.Agreement
import HookRelay.Proofs.Condition.Advance
import HookRelay.Proofs.Condition.Listed
import HookRelay.Proofs.Condition.Operations
import HookRelay.Proofs.Condition.Readiness
import HookRelay.Proofs.Condition.Regular
import HookRelay.Proofs.Condition.Settled
import HookRelay.Proofs.Condition.Untouched
import HookRelay.Proofs.Controller.Backoff
import HookRelay.Proofs.Controller.Entries
import HookRelay.Proofs.Controller.Lifetime
import HookRelay.Proofs.Controller.LostHooks
import HookRelay.Proofs.Controller.OneSource
import HookRelay.Proofs.Controller.Saving
import HookRelay.Proofs.Controller.Storing
import HookRelay.Proofs.Credential.Available
import HookRelay.Proofs.Credential.Remembered
import HookRelay.Proofs.Delivery.Advertised
import HookRelay.Proofs.Delivery.Answered
import HookRelay.Proofs.Delivery.Carried
import HookRelay.Proofs.Delivery.Checked
import HookRelay.Proofs.Delivery.Forwarded
import HookRelay.Proofs.Delivery.Started
import HookRelay.Proofs.Delivery.Translated
import HookRelay.Proofs.Event.Named
import HookRelay.Proofs.Event.Title
import HookRelay.Proofs.Hook.Answer
import HookRelay.Proofs.Hook.Endpoint
import HookRelay.Proofs.Hook.Exact
import HookRelay.Proofs.Hook.Keeping
import HookRelay.Proofs.Hook.Requested
import HookRelay.Proofs.Hook.Standing
import HookRelay.Proofs.Hook.Store
import HookRelay.Proofs.Hook.Subscribed
import HookRelay.Proofs.Hook.Written
import HookRelay.Proofs.Idna.Letters
import HookRelay.Proofs.Json.Ascending
import HookRelay.Proofs.Json.Keyed
import HookRelay.Proofs.Json.ReadBack
import HookRelay.Proofs.Json.Record
import HookRelay.Proofs.Json.Reread
import HookRelay.Proofs.Pass.Again
import HookRelay.Proofs.Pass.Calls
import HookRelay.Proofs.Pass.Discretion
import HookRelay.Proofs.Pass.Ends
import HookRelay.Proofs.Pass.Exact
import HookRelay.Proofs.Pass.Framed
import HookRelay.Proofs.Pass.History
import HookRelay.Proofs.Pass.InOrder
import HookRelay.Proofs.Pass.OnAdapter
import HookRelay.Proofs.Pass.OnHook
import HookRelay.Proofs.Pass.OneAdapter
import HookRelay.Proofs.Pass.OneHook
import HookRelay.Proofs.Pass.Parting
import HookRelay.Proofs.Pass.Readiness
import HookRelay.Proofs.Pass.Repeated
import HookRelay.Proofs.Pass.Scopes
import HookRelay.Proofs.Pass.Served
import HookRelay.Proofs.Pass.Simulation
import HookRelay.Proofs.Pass.Stabilisation
import HookRelay.Proofs.Pass.Steady
import HookRelay.Proofs.Pass.TakingDown
import HookRelay.Proofs.Pass.Throughout
import HookRelay.Proofs.Pass.Transitions
import HookRelay.Proofs.Pass.Unaddressed
import HookRelay.Proofs.Pass.Visits
import HookRelay.Proofs.Pass.Wiring
import HookRelay.Proofs.Receiver.Kept
import HookRelay.Proofs.Receiver.Owned
import HookRelay.Proofs.Receiver.Plan
import HookRelay.Proofs.Receiver.Published
import HookRelay.Proofs.Retry.Delays
import HookRelay.Proofs.Retry.Interleaved
import HookRelay.Proofs.Sink.Accepted
import HookRelay.Proofs.Sink.Admitted
import HookRelay.Proofs.Source.ReadBack
import HookRelay.Proofs.Source.Recorded
import HookRelay.Proofs.Text.Bytes
import HookRelay.Proofs.Text.Parts
import HookRelay.Proofs.Text.Percent
import HookRelay.Proofs.Text.Runs
import HookRelay.Proofs.Url.Cleaned
import HookRelay.Proofs.Url.Hosted
import HookRelay.Proofs.Url.Path
import HookRelay.Proofs.Url.Reread
import HookRelay.Proofs.Url.Scheme
import HookRelay.Proofs.Url.Segment
import HookRelay.Proofs.Url.Trimmed
import HookRelay.Proofs.Url.WideBlanks
import HookRelay.Proofs.Watch.Missing
import HookRelay.Proofs.Watch.Throttled
import HookRelay.Proofs.World.Drift
import HookRelay.Proofs.World.InMemory
import HookRelay.Proofs.World.Simulation
import HookRelay.Receiver.Basic
import HookRelay.Receiver.Memory
import HookRelay.Receiver.Service
import HookRelay.Retry.Fibonacci
import HookRelay.Retry.Policy
import HookRelay.Retry.Registry
import HookRelay.Sink.Basic
import HookRelay.Sink.Cluster
import HookRelay.Sink.Memory
import HookRelay.Source.Basic
import HookRelay.Source.Format
import HookRelay.Source.Scope
import HookRelay.Source.Stored
import HookRelay.Source.Validity
import HookRelay.Text.Base64
import HookRelay.Text.Blank
import HookRelay.Text.Lossy
import HookRelay.Text.Percent
import HookRelay.Text.Printable
import HookRelay.Text.Quoted
import HookRelay.Text.RangeTable
import HookRelay.Time.Instant
import HookRelay.Time.Reading
import HookRelay.Url.Basic
import HookRelay.Url.Host
import HookRelay.Url.Reader
import HookRelay.Watch.Failure
import HookRelay.World.Act
import HookRelay.World.InMemory
import HookRelay.Yaml.Printer
