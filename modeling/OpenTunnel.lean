import OpenTunnel.Tasks.Allotment
import OpenTunnel.Tasks.Contract
import OpenTunnel.Tasks.Discipline
import OpenTunnel.Tasks.Ghost
import OpenTunnel.Tasks.Journal
import OpenTunnel.Tasks.Prog
import OpenTunnel.Tasks.Sequential
import OpenTunnel.Tasks.Steps
import OpenTunnel.Tasks.System
import OpenTunnel.Tasks.Table
import OpenTunnel.Tasks.Trace
import OpenTunnel.Tasks.Watch
import OpenTunnel.Formats.BigEndian
import OpenTunnel.Formats.Fields
import OpenTunnel.Formats.Incremental
import OpenTunnel.Formats.Json
import OpenTunnel.Formats.JsonText
import OpenTunnel.Formats.Numerals
import OpenTunnel.Formats.Paging
import OpenTunnel.Formats.Pattern
import OpenTunnel.Formats.Split
import OpenTunnel.Formats.Stream
import OpenTunnel.Formats.Utf8
import OpenTunnel.Model.Accept
import OpenTunnel.Model.Acme
import OpenTunnel.Model.Act
import OpenTunnel.Model.Address
import OpenTunnel.Model.Backpressure
import OpenTunnel.Model.Bridges
import OpenTunnel.Model.Channels
import OpenTunnel.Model.Client
import OpenTunnel.Model.ConnIds
import OpenTunnel.Model.Control
import OpenTunnel.Model.Cooldown
import OpenTunnel.Model.Download
import OpenTunnel.Model.Draining
import OpenTunnel.Model.Forward
import OpenTunnel.Model.Handshake
import OpenTunnel.Model.Hello
import OpenTunnel.Model.Jobs
import OpenTunnel.Model.JsNames
import OpenTunnel.Model.JsProxyHeader
import OpenTunnel.Model.JsTunnel
import OpenTunnel.Model.Mesh
import OpenTunnel.Model.MeshPair
import OpenTunnel.Model.MeshWire
import OpenTunnel.Model.Migration
import OpenTunnel.Model.Names
import OpenTunnel.Model.Network
import OpenTunnel.Model.PeerAuth
import OpenTunnel.Model.Profile
import OpenTunnel.Model.ProxyHeader
import OpenTunnel.Model.Rates
import OpenTunnel.Model.ReadBatches
import OpenTunnel.Model.Record
import OpenTunnel.Model.Relay
import OpenTunnel.Model.Replication
import OpenTunnel.Model.Retry
import OpenTunnel.Model.RetrySchedule
import OpenTunnel.Model.Routines
import OpenTunnel.Model.Routing
import OpenTunnel.Model.Runner
import OpenTunnel.Model.Sample
import OpenTunnel.Model.Schedule
import OpenTunnel.Model.Service
import OpenTunnel.Model.Splice
import OpenTunnel.Model.Statements
import OpenTunnel.Model.Store
import OpenTunnel.Model.Supervisor
import OpenTunnel.Model.Sweep
import OpenTunnel.Model.WebSocket
import OpenTunnel.Model.World
import OpenTunnel.Proofs.Abandonment
import OpenTunnel.Proofs.Accept
import OpenTunnel.Proofs.Accepted
import OpenTunnel.Proofs.Acme
import OpenTunnel.Proofs.Address
import OpenTunnel.Proofs.Alarms
import OpenTunnel.Proofs.Announcements
import OpenTunnel.Proofs.AttachAnswers
import OpenTunnel.Proofs.Backpressure
import OpenTunnel.Proofs.Channels
import OpenTunnel.Proofs.Claims
import OpenTunnel.Proofs.Coherence
import OpenTunnel.Proofs.Completion
import OpenTunnel.Proofs.ConnIds
import OpenTunnel.Proofs.Consults
import OpenTunnel.Proofs.Control
import OpenTunnel.Proofs.Cooldown
import OpenTunnel.Proofs.Deletions
import OpenTunnel.Proofs.Download
import OpenTunnel.Proofs.DownloadFidelity
import OpenTunnel.Proofs.Draining
import OpenTunnel.Proofs.ErrorAnswers
import OpenTunnel.Proofs.Executions
import OpenTunnel.Proofs.Footprint
import OpenTunnel.Proofs.Forward
import OpenTunnel.Proofs.Frame
import OpenTunnel.Proofs.Generations
import OpenTunnel.Proofs.Handshake
import OpenTunnel.Proofs.Hello
import OpenTunnel.Proofs.HelloRecords
import OpenTunnel.Proofs.JsAddress
import OpenTunnel.Proofs.JsNames
import OpenTunnel.Proofs.JsTunnel
import OpenTunnel.Proofs.Leases
import OpenTunnel.Proofs.MeshIndex
import OpenTunnel.Proofs.MeshPair
import OpenTunnel.Proofs.MeshWire
import OpenTunnel.Proofs.Migration
import OpenTunnel.Proofs.Orders
import OpenTunnel.Proofs.PeerAuth
import OpenTunnel.Proofs.ProxyHeaders
import OpenTunnel.Proofs.ProxyRoundTrip
import OpenTunnel.Proofs.RateBound
import OpenTunnel.Proofs.ReadBatches
import OpenTunnel.Proofs.Records
import OpenTunnel.Proofs.Relay
import OpenTunnel.Proofs.Replication
import OpenTunnel.Proofs.Requeues
import OpenTunnel.Proofs.ResetNotices
import OpenTunnel.Proofs.Resets
import OpenTunnel.Proofs.RetryAfter
import OpenTunnel.Proofs.RetrySchedule
import OpenTunnel.Proofs.Revisions
import OpenTunnel.Proofs.RouteNames
import OpenTunnel.Proofs.Runner
import OpenTunnel.Proofs.Schedule
import OpenTunnel.Proofs.Slots
import OpenTunnel.Proofs.Splice
import OpenTunnel.Proofs.Storage
import OpenTunnel.Proofs.Supervisor
import OpenTunnel.Proofs.Sweep
import OpenTunnel.Proofs.Uploads
import OpenTunnel.Proofs.WebSocketReader
import OpenTunnel.Proofs.WebSocketWriter
