import ClusterLedger.Number
import ClusterLedger.Number.Decimal
import ClusterLedger.Text.Printable
import ClusterLedger.Text.Digit
import ClusterLedger.Text.Blank
import ClusterLedger.Text.Hex
import ClusterLedger.Text.Quoted
import ClusterLedger.Text.Utf8
import ClusterLedger.Text.Base64
import ClusterLedger.Assoc
import ClusterLedger.Document
import ClusterLedger.Document.Literal
import ClusterLedger.Value
import ClusterLedger.Fault
import ClusterLedger.Document.Access
import ClusterLedger.Document.OfValue
import ClusterLedger.Yaml.Implicit
import ClusterLedger.Yaml.Scalar
import ClusterLedger.Yaml.Pen
import ClusterLedger.Yaml.ScalarText
import ClusterLedger.Yaml.Stream
import ClusterLedger.Text.Split
import ClusterLedger.Redaction
import ClusterLedger.Event
import ClusterLedger.Projection
import ClusterLedger.Record.Checked
import ClusterLedger.Record.WholeText
import ClusterLedger.Record.Field
import ClusterLedger.Tracking.ResourceMap
import ClusterLedger.Tracking.Rename
import ClusterLedger.Number.Quantity
import ClusterLedger.Resource
import ClusterLedger.Api.Label
import ClusterLedger.Api.Definition
import ClusterLedger.Cluster.Reference
import ClusterLedger.Cluster.NodeGroup
import ClusterLedger.Cluster.Machine
import ClusterLedger.Cluster.MachineTemplate
import ClusterLedger.Cluster.NodePool
import ClusterLedger.Cluster.Release
import ClusterLedger.Text.Json
import ClusterLedger.Settings.Path
import ClusterLedger.Settings.Reference
import ClusterLedger.Settings.File
import ClusterLedger.Settings
import ClusterLedger.Api.Server
import ClusterLedger.Action
import ClusterLedger.Api.Client
import ClusterLedger.Cluster.Members
import ClusterLedger.Cluster.Topology
import ClusterLedger.Cluster.Rollout
import ClusterLedger.Cluster.Collection
import ClusterLedger.Cluster.Credentials
import ClusterLedger.Reconciler
import ClusterLedger.Proofs.Redaction
import ClusterLedger.Proofs.LegacyMetadata
import ClusterLedger.Proofs.Halves
import ClusterLedger.Proofs.Tracking.Valid
import ClusterLedger.Proofs.Tracking.Filing
import ClusterLedger.Proofs.Tracking.History
import ClusterLedger.Proofs.Tracking.Settling
import ClusterLedger.Proofs.Actions
import ClusterLedger.Proofs.Rejoining
import ClusterLedger.Proofs.Connection.Operations
import ClusterLedger.Proofs.Connection.History
import ClusterLedger.Proofs.Connection.Handles
import ClusterLedger.Proofs.Connection.Failing
import ClusterLedger.Proofs.Secrecy.Blanking
import ClusterLedger.Proofs.Secrecy.Values
import ClusterLedger.Proofs.Secrecy.Readings
import ClusterLedger.Proofs.Secrecy.Servers
import ClusterLedger.Proofs.Secrecy.Inquiries
import ClusterLedger.Proofs.Secrecy.ServerMetadata
import ClusterLedger.Proofs.Framing.Lines
import ClusterLedger.Proofs.Framing.Pages
import ClusterLedger.Proofs.Framing.Scalars
import ClusterLedger.Proofs.Framing.Streams
import ClusterLedger.Proofs.Reordering.Documents
import ClusterLedger.Proofs.Reordering.Values
import ClusterLedger.Proofs.Consulting.Operations
import ClusterLedger.Proofs.Consulting.Refusals
import ClusterLedger.Proofs.Consulting.Discovery
import ClusterLedger.Proofs.Connection.Caching
import ClusterLedger.Proofs.Consulting.Freshness
import ClusterLedger.Proofs.Redaction.Outlines
import ClusterLedger.Proofs.Tracking.Detecting
import ClusterLedger.Proofs.Consulting.Pools
import ClusterLedger.Proofs.Consulting.Rollouts
import ClusterLedger.Proofs.Projecting
import ClusterLedger.Proofs.Resolving
import ClusterLedger.Proofs.Undecodable
import ClusterLedger.Proofs.Consulting.Stock
import ClusterLedger.Proofs.Consulting.Collecting
import ClusterLedger.Proofs.Quantities.Magnitudes
import ClusterLedger.Proofs.Quantities.Numerals
import ClusterLedger.Proofs.Quantities.Texts
import ClusterLedger.Proofs.Quantities.Suffixes
import ClusterLedger.Proofs.Additions
import ClusterLedger.Proofs.Quantities.DiskSizes
import ClusterLedger.Proofs.Nulls.Nearness
import ClusterLedger.Proofs.Nulls.Readers
import ClusterLedger.Proofs.Nulls.Defaults
import ClusterLedger.Proofs.Nulls.Explicit
import ClusterLedger.Proofs.Advising
import ClusterLedger.Proofs.Connection.Access
import ClusterLedger.Proofs.Connection.Containment
import ClusterLedger.Proofs.Selectors
import ClusterLedger.Proofs.Objects
import ClusterLedger.Proofs.Consulting.Instances
import ClusterLedger.Proofs.Consulting.References
import ClusterLedger.Proofs.Connection.Closing
import ClusterLedger.Proofs.Tracking.Draining
import ClusterLedger.Proofs.Conversion
import ClusterLedger.Proofs.Describing
import ClusterLedger.Proofs.Tracking.Accepting
import ClusterLedger.Proofs.Consulting.Searches
import ClusterLedger.Proofs.Contexts
import ClusterLedger.Proofs.Overlays
