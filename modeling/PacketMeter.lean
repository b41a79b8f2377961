import PacketMeter.Bytes.LittleEndian
import PacketMeter.Capture.Bridge
import PacketMeter.Capture.Connect
import PacketMeter.Capture.Host
import PacketMeter.Capture.Reader
import PacketMeter.Channel
import PacketMeter.Channel.Handles
import PacketMeter.ClockTime
import PacketMeter.CommandLine
import PacketMeter.CommandLine.Grammar
import PacketMeter.CommandLine.Value
import PacketMeter.Config
import PacketMeter.Duration
import PacketMeter.Endpoint
import PacketMeter.Engine.Command
import PacketMeter.Engine.Device
import PacketMeter.Engine.Process
import PacketMeter.Engine.Rig
import PacketMeter.Failure
import PacketMeter.Fault
import PacketMeter.Fault.Kind
import PacketMeter.Fault.System
import PacketMeter.FileSystem
import PacketMeter.Filter
import PacketMeter.Frame
import PacketMeter.Frame.File
import PacketMeter.Frame.Stream
import PacketMeter.Json
import PacketMeter.Json.Fields
import PacketMeter.Json.Float
import PacketMeter.Json.Parser
import PacketMeter.Main
import PacketMeter.Net.Address
import PacketMeter.Number.Binary64
import PacketMeter.Number.Shortest
import PacketMeter.Number.Tenths
import PacketMeter.Path
import PacketMeter.Pattern
import PacketMeter.Pattern.CharSet
import PacketMeter.Pattern.Parser
import PacketMeter.Program.Bare
import PacketMeter.Program.Capture
import PacketMeter.Program.Event
import PacketMeter.Program.Listing
import PacketMeter.Program.Problem
import PacketMeter.Program.Replay
import PacketMeter.Program.Request
import PacketMeter.Record
import PacketMeter.Record.Json
import PacketMeter.Rehearsal.BridgeRun
import PacketMeter.Rehearsal.Clock
import PacketMeter.Rehearsal.Ledger
import PacketMeter.Rehearsal.Machine
import PacketMeter.Rehearsal.Script
import PacketMeter.Rehearsal.SessionRun
import PacketMeter.Rehearsal.Site
import PacketMeter.Rehearsal.Stage
import PacketMeter.Rehearsal.Wire
import PacketMeter.Session.Controller
import PacketMeter.Session.Subscription
import PacketMeter.Signal
import PacketMeter.Stats.Aggregator
import PacketMeter.Stats.Feed
import PacketMeter.Stats.Publisher
import PacketMeter.Stats.Ranking
import PacketMeter.Stats.Rates
import PacketMeter.Stats.Service
import PacketMeter.Stats.Snapshot
import PacketMeter.Stats.Source
import PacketMeter.Stats.Tally
import PacketMeter.Text.Blank
import PacketMeter.Text.CaseFold
import PacketMeter.Text.CaseTable
import PacketMeter.Text.Decimal
import PacketMeter.Text.Lowercase
import PacketMeter.Text.Search
import PacketMeter.Text.Utf8
import PacketMeter.Text.WordTable
import PacketMeter.Proofs.Channel.Action
import PacketMeter.Proofs.Channel.History
import PacketMeter.Proofs.Channel.Waiting
import PacketMeter.Proofs.Channel.Ownership
import PacketMeter.Proofs.Channel.Steps
import PacketMeter.Proofs.Channel.Runs
import PacketMeter.Proofs.Channel.Delivery
import PacketMeter.Proofs.Channel.Wakeup
import PacketMeter.Proofs.Channel.Ending
import PacketMeter.Proofs.Channel.Renumbering
import PacketMeter.Proofs.Frame.TextField
import PacketMeter.Proofs.Frame.Codec
import PacketMeter.Proofs.Frame.File
import PacketMeter.Proofs.Frame.Reencoding
import PacketMeter.Proofs.Frame.NormalForm
import PacketMeter.Proofs.Frame.Acceptance
import PacketMeter.Proofs.Frame.Padding
import PacketMeter.Proofs.Frame.Arrival
import PacketMeter.Proofs.Frame.Buffer
import PacketMeter.Proofs.Frame.Reassembly
import PacketMeter.Proofs.Frame.Saving
import PacketMeter.Proofs.Frame.Loading
import PacketMeter.Proofs.Capture.Forwarding
import PacketMeter.Proofs.Capture.Activity
import PacketMeter.Proofs.Capture.Calls
import PacketMeter.Proofs.Capture.Balance
import PacketMeter.Proofs.Session.Action
import PacketMeter.Proofs.Stats.Ranking
import PacketMeter.Proofs.Stats.Selection
import PacketMeter.Proofs.Stats.Counting
import PacketMeter.Proofs.Stats.Feeds
import PacketMeter.Proofs.Stats.Sources
import PacketMeter.Proofs.Stats.Switching
import PacketMeter.Proofs.Stats.Reading
import PacketMeter.Proofs.Stats.Enabling
import PacketMeter.Proofs.Stats.Restarting
import PacketMeter.Proofs.Stats.Publishing
import PacketMeter.Proofs.Session.Lifecycle
import PacketMeter.Proofs.Capture.Sending
import PacketMeter.Proofs.Session.Numbering
import PacketMeter.Proofs.Session.Teardown
import PacketMeter.Proofs.Channel.Targets
import PacketMeter.Proofs.Session.Traffic
import PacketMeter.Proofs.Session.Subscribers
import PacketMeter.Proofs.Capture.Renumbering
import PacketMeter.Proofs.Session.Renumbering
import PacketMeter.Proofs.Session.FailedStart
import PacketMeter.Proofs.Session.Closing
import PacketMeter.Proofs.Session.Accounting
import PacketMeter.Proofs.Session.Filtering
import PacketMeter.Proofs.Program.Replaying
import PacketMeter.Proofs.Stats.RateHistory
import PacketMeter.Proofs.Text.Casing
import PacketMeter.Proofs.Filter.Grammar
import PacketMeter.Proofs.Filter.Matching
import PacketMeter.Proofs.Net.Endpoints
import PacketMeter.Proofs.Record.Timestamps
import PacketMeter.Proofs.Engine.Children
import PacketMeter.Proofs.Path.Joining
import PacketMeter.Proofs.FileSystem.Changes
import PacketMeter.Proofs.Signal.Marking
