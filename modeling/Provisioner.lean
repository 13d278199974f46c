import Provisioner.Acceptance
import Provisioner.Configuration
import Provisioner.Decimal.Double
import Provisioner.Decimal.Notation
import Provisioner.Decimal.Shortest
import Provisioner.Diagnostic
import Provisioner.Duration
import Provisioner.Error
import Provisioner.Http.Client
import Provisioner.Http.ErrorText
import Provisioner.Http.Exchange
import Provisioner.Http.Retry
import Provisioner.ImportKey
import Provisioner.Json.Basic
import Provisioner.Json.Decoder
import Provisioner.Json.Fault
import Provisioner.Json.Printer
import Provisioner.Json.Reader
import Provisioner.Keyed
import Provisioner.Kind
import Provisioner.Kinds.Body
import Provisioner.Kinds.Choice
import Provisioner.Kinds.Connector
import Provisioner.Kinds.Environment
import Provisioner.Kinds.FlinkComputePool
import Provisioner.Kinds.KafkaCluster
import Provisioner.Kinds.KafkaTopic
import Provisioner.Kinds.Network
import Provisioner.Kinds.Reference
import Provisioner.Kinds.ServiceAccount
import Provisioner.Lifecycle
import Provisioner.LifecycleState
import Provisioner.Operation
import Provisioner.PhaseTable
import Provisioner.Plan
import Provisioner.Proofs.Conformance
import Provisioner.Proofs.Decimal.Interval
import Provisioner.Proofs.Decimal.Notation
import Provisioner.Proofs.Decimal.Shortest
import Provisioner.Proofs.Http.Accepted
import Provisioner.Proofs.Http.Address
import Provisioner.Proofs.Http.Conversation
import Provisioner.Proofs.Http.Endpoint
import Provisioner.Proofs.Http.ErrorText
import Provisioner.Proofs.Http.Failures
import Provisioner.Proofs.Http.Leads
import Provisioner.Proofs.Http.Prompt
import Provisioner.Proofs.Http.Replay
import Provisioner.Proofs.Http.Requests
import Provisioner.Proofs.Http.Retries
import Provisioner.Proofs.Http.Stopping
import Provisioner.Proofs.Http.Traces
import Provisioner.Proofs.Http.Transcript
import Provisioner.Proofs.Http.Url
import Provisioner.Proofs.ImportKey
import Provisioner.Proofs.Json.Codec
import Provisioner.Proofs.Json.Compact
import Provisioner.Proofs.Json.Fields
import Provisioner.Proofs.Json.Same
import Provisioner.Proofs.Keyed
import Provisioner.Proofs.Kinds.Accepted
import Provisioner.Proofs.Kinds.Address
import Provisioner.Proofs.Kinds.Alterations
import Provisioner.Proofs.Kinds.Api
import Provisioner.Proofs.Kinds.Canonical
import Provisioner.Proofs.Kinds.Channels
import Provisioner.Proofs.Kinds.Checks
import Provisioner.Proofs.Kinds.Classified
import Provisioner.Proofs.Kinds.ConnectorSettings
import Provisioner.Proofs.Kinds.Deliveries
import Provisioner.Proofs.Kinds.Echo
import Provisioner.Proofs.Kinds.Fields
import Provisioner.Proofs.Kinds.Mirrors
import Provisioner.Proofs.Kinds.Padding
import Provisioner.Proofs.Kinds.Place
import Provisioner.Proofs.Kinds.Presence
import Provisioner.Proofs.Kinds.Readable
import Provisioner.Proofs.Kinds.Recheck
import Provisioner.Proofs.Kinds.Refresh
import Provisioner.Proofs.Kinds.RoundTrip
import Provisioner.Proofs.Kinds.Route
import Provisioner.Proofs.Kinds.TopicSettings
import Provisioner.Proofs.Kinds.Veiled
import Provisioner.Proofs.Lifecycle.Carried
import Provisioner.Proofs.Lifecycle.Configured
import Provisioner.Proofs.Lifecycle.Conversation
import Provisioner.Proofs.Lifecycle.Delivered
import Provisioner.Proofs.Lifecycle.Failures
import Provisioner.Proofs.Lifecycle.Gone
import Provisioner.Proofs.Lifecycle.Halted
import Provisioner.Proofs.Lifecycle.Imported
import Provisioner.Proofs.Lifecycle.Mirrored
import Provisioner.Proofs.Lifecycle.Monotone
import Provisioner.Proofs.Lifecycle.Named
import Provisioner.Proofs.Lifecycle.Nulls
import Provisioner.Proofs.Lifecycle.Order
import Provisioner.Proofs.Lifecycle.Planned
import Provisioner.Proofs.Lifecycle.Prompt
import Provisioner.Proofs.Lifecycle.Recorded
import Provisioner.Proofs.Lifecycle.Refresh
import Provisioner.Proofs.Lifecycle.Refused
import Provisioner.Proofs.Lifecycle.Reimported
import Provisioner.Proofs.Lifecycle.Replacement
import Provisioner.Proofs.Lifecycle.Requested
import Provisioner.Proofs.Lifecycle.Requests
import Provisioner.Proofs.Lifecycle.Runs
import Provisioner.Proofs.Lifecycle.Secrets
import Provisioner.Proofs.Lifecycle.Separation
import Provisioner.Proofs.Lifecycle.Settled
import Provisioner.Proofs.Lifecycle.Stopping
import Provisioner.Proofs.Lifecycle.Target
import Provisioner.Proofs.Lifecycle.Told
import Provisioner.Proofs.Lifecycle.Unchanged
import Provisioner.Proofs.Lifecycle.Withheld
import Provisioner.Proofs.Operation.Outcome
import Provisioner.Proofs.Operation.Refusals
import Provisioner.Proofs.Plan.Difference
import Provisioner.Proofs.Plan.Equivalence
import Provisioner.Proofs.Plan.Matching
import Provisioner.Proofs.Plan.Merge
import Provisioner.Proofs.Plan.Nulls
import Provisioner.Proofs.Plan.Replan
import Provisioner.Proofs.Plan.Unchanged
import Provisioner.Proofs.Plan.Unordered
import Provisioner.Proofs.Provider.Agreement
import Provisioner.Proofs.Provider.Calls
import Provisioner.Proofs.Provider.Configuration
import Provisioner.Proofs.Provider.Endpoint
import Provisioner.Proofs.Provider.Foretold
import Provisioner.Proofs.Provider.LookUp
import Provisioner.Proofs.Provider.Refused
import Provisioner.Proofs.Provider.Secrecy
import Provisioner.Proofs.Provider.Separation
import Provisioner.Proofs.Provider.Steps
import Provisioner.Proofs.Provider.Stopping
import Provisioner.Proofs.Redaction
import Provisioner.Proofs.Settings
import Provisioner.Proofs.Shape
import Provisioner.Proofs.Text.Percent
import Provisioner.Proofs.Validation
import Provisioner.Proofs.Wait.Course
import Provisioner.Proofs.Wait.Outcome
import Provisioner.Proofs.Wait.Schedule
import Provisioner.Proofs.Wait.Timeline
import Provisioner.Provider
import Provisioner.Redaction
import Provisioner.Schema.Basic
import Provisioner.Schema.Encoding
import Provisioner.Session
import Provisioner.Settings
import Provisioner.Text.Blank
import Provisioner.Text.Hidden
import Provisioner.Text.Percent
import Provisioner.Text.Quoted
import Provisioner.Validation
import Provisioner.Wait
