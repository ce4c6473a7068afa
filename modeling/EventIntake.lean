import EventIntake.Capability.Acquisition
import EventIntake.Capability.ControlPlane
import EventIntake.Capability.EventIndex
import EventIntake.Capability.Informer
import EventIntake.Capability.Listing
import EventIntake.Capability.Refresh
import EventIntake.Capability.Source
import EventIntake.Command.Arguments
import EventIntake.Command.Course
import EventIntake.Contract.Exchange
import EventIntake.Contract.Fingerprint
import EventIntake.Contract.Publisher
import EventIntake.Contract.Sha256
import EventIntake.Contract.Watch
import EventIntake.Contract.WatchLoop
import EventIntake.Files.Tree
import EventIntake.Http.Status
import EventIntake.Ingress.Forwarding
import EventIntake.Ingress.Request
import EventIntake.Ingress.Server
import EventIntake.Journal
import EventIntake.Json.Reading
import EventIntake.Json.Value
import EventIntake.Lifecycle.Action
import EventIntake.Lifecycle.Bootstrap
import EventIntake.Lifecycle.ClosePass
import EventIntake.Lifecycle.Coordinator
import EventIntake.Lifecycle.Progress
import EventIntake.Lifecycle.Session
import EventIntake.Lifecycle.Stage
import EventIntake.Lifecycle.Work
import EventIntake.Main
import EventIntake.Messaging.Bus
import EventIntake.Messaging.Message
import EventIntake.Net.Address
import EventIntake.Net.Network
import EventIntake.Number.Binary64
import EventIntake.Number.Decimal
import EventIntake.Number.Integer
import EventIntake.Properties.Basic
import EventIntake.Properties.Text
import EventIntake.Properties.Typed
import EventIntake.Receiver.Host
import EventIntake.Receiver.Running
import EventIntake.Receiver.Startup
import EventIntake.Settings.Basic
import EventIntake.Settings.Document
import EventIntake.Settings.Environment
import EventIntake.Settings.Load
import EventIntake.Settings.Options
import EventIntake.Settings.Tracing
import EventIntake.Settings.Validation
import EventIntake.Text.Blank
import EventIntake.Text.Canonical
import EventIntake.Text.Canonical.Table
import EventIntake.Text.Direction
import EventIntake.Text.Hidden
import EventIntake.Text.Joining
import EventIntake.Text.Mark
import EventIntake.Text.Quoted
import EventIntake.Text.Table
import EventIntake.Time.Due
import EventIntake.Time.Duration
import EventIntake.Time.Ticker
import EventIntake.Toml.Document
import EventIntake.Toml.Scalar
import EventIntake.Toml.Spacing
import EventIntake.Toml.Table
import EventIntake.Toml.Text
import EventIntake.Toml.Value
import EventIntake.Url.Basic
import EventIntake.Url.Domain
import EventIntake.Url.Domain.Punycode
import EventIntake.Url.Domain.Table
import EventIntake.Url.Encoding
import EventIntake.Url.Host
import EventIntake.Url.Reading
import EventIntake.Proofs.Lifecycle.Effect
import EventIntake.Proofs.Lifecycle.Turn
import EventIntake.Proofs.Lifecycle.Process
import EventIntake.Proofs.Lifecycle.Ledger
import EventIntake.Proofs.Lifecycle.Handover
import EventIntake.Proofs.Lifecycle.StateMachine
import EventIntake.Proofs.Lifecycle.Weight
import EventIntake.Proofs.Lifecycle.Settling
import EventIntake.Proofs.Lifecycle.Course
import EventIntake.Proofs.Lifecycle.Forecast
import EventIntake.Proofs.Lifecycle.Beside
import EventIntake.Proofs.Lifecycle.Teardown
import EventIntake.Proofs.Lifecycle.Shutdown
import EventIntake.Proofs.Lifecycle.Bodies
import EventIntake.Proofs.Lifecycle.Phases
import EventIntake.Proofs.Lifecycle.Serving
import EventIntake.Proofs.Messaging.Delivery
import EventIntake.Proofs.Contract.Propagation
import EventIntake.Proofs.Lifecycle.Deployments
import EventIntake.Proofs.Lifecycle.Launching
import EventIntake.Proofs.Receiver.Launch
import EventIntake.Proofs.Receiver.Teardown
import EventIntake.Proofs.Receiver.Degradation
import EventIntake.Proofs.Contract.Checks
import EventIntake.Proofs.Settings.Items
import EventIntake.Proofs.Settings.Overlay
import EventIntake.Proofs.Settings.Resolution
import EventIntake.Proofs.Settings.Sections
import EventIntake.Proofs.Receiver.Deployment
import EventIntake.Proofs.Lifecycle.Succession
import EventIntake.Proofs.Lifecycle.Enrolment
import EventIntake.Proofs.Contract.Loop
import EventIntake.Proofs.Receiver.Enrolment
import EventIntake.Proofs.Receiver.Retirement
import EventIntake.Proofs.Capability.Index
import EventIntake.Proofs.Contract.Vigil
import EventIntake.Proofs.Capability.Refreshing
import EventIntake.Proofs.Capability.Snapshot
import EventIntake.Proofs.Ingress.Fields
import EventIntake.Proofs.Ingress.Forwarding
import EventIntake.Proofs.Text.Lines
import EventIntake.Proofs.Properties.Entries
import EventIntake.Proofs.Properties.Written
import EventIntake.Proofs.Number.Naturals
import EventIntake.Proofs.Settings.Stopping
import EventIntake.Proofs.Settings.Constraints
import EventIntake.Proofs.Receiver.Deadlines
import EventIntake.Proofs.Contract.Families
import EventIntake.Proofs.Contract.Publication
import EventIntake.Proofs.Lifecycle.Endings
import EventIntake.Proofs.Lifecycle.Custody
import EventIntake.Proofs.Lifecycle.Accounts
import EventIntake.Proofs.Properties.Assignments
import EventIntake.Proofs.Settings.BodyLimit
import EventIntake.Proofs.Settings.Blanks
