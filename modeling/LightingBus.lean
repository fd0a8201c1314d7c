import LightingBus.Bytes
import LightingBus.CommandClass
import LightingBus.Controller.Basic
import LightingBus.Controller.Parameters
import LightingBus.Controller.Search
import LightingBus.Discovery
import LightingBus.Format.Basic
import LightingBus.Format.Packing
import LightingBus.Format.Records
import LightingBus.Format.Written
import LightingBus.Hex
import LightingBus.Line.Engine.Basic
import LightingBus.Line.Engine.Events
import LightingBus.Line.Engine.Receiving
import LightingBus.Line.Engine.Sending
import LightingBus.Line.FrameBuffer
import LightingBus.Line.Port.Basic
import LightingBus.Line.Port.Waiting
import LightingBus.Line.Timing
import LightingBus.Line.Transport
import LightingBus.NackReason
import LightingBus.Packet.Basic
import LightingBus.Packet.Codec
import LightingBus.Packet.DiscoveryReply
import LightingBus.Parameter.DataType
import LightingBus.Parameter.Definition
import LightingBus.Parameter.Instance
import LightingBus.Parameter.Key
import LightingBus.Parameter.Persistence
import LightingBus.Parameter.Store
import LightingBus.Payload.Label
import LightingBus.Payload.ParameterValue
import LightingBus.Payload.Values
import LightingBus.Pid
import LightingBus.Proofs.Controller.Preservation
import LightingBus.Proofs.Controller.StaleFaults
import LightingBus.Proofs.Discovery.ResponderBus
import LightingBus.Proofs.Discovery.SearchBus
import LightingBus.Proofs.Discovery.Sweep
import LightingBus.Proofs.Format.Records
import LightingBus.Proofs.Format.RoundTrip
import LightingBus.Proofs.Format.Validation
import LightingBus.Proofs.Line.Agreement
import LightingBus.Proofs.Line.Breaks
import LightingBus.Proofs.Line.Delivery
import LightingBus.Proofs.Line.Invariant
import LightingBus.Proofs.Line.Marks
import LightingBus.Proofs.Line.PendingFaults
import LightingBus.Proofs.Line.Receiving
import LightingBus.Proofs.Line.Reception
import LightingBus.Proofs.Line.Sending
import LightingBus.Proofs.Line.Tasks
import LightingBus.Proofs.Line.Transmission
import LightingBus.Proofs.Packet.DiscoveryReply
import LightingBus.Proofs.Packet.RoundTrip
import LightingBus.Proofs.Parameter.Changes
import LightingBus.Proofs.Parameter.Invariant
import LightingBus.Proofs.Parameter.Layout
import LightingBus.Proofs.Parameter.Persistence
import LightingBus.Proofs.Parameter.Refinement
import LightingBus.Proofs.Parameter.Saving
import LightingBus.Proofs.Parameter.Table
import LightingBus.Proofs.Responder.Discovery
import LightingBus.Proofs.Responder.FanOut
import LightingBus.Proofs.Responder.Promises
import LightingBus.Proofs.Responder.QueuedValues
import LightingBus.Proofs.Responder.Reachable
import LightingBus.Proofs.Responder.Responses
import LightingBus.Proofs.Responder.Running
import LightingBus.Receiver
import LightingBus.Registry
import LightingBus.Responder.Basic
import LightingBus.Responder.Definitions
import LightingBus.Responder.Dispatch
import LightingBus.Responder.Handlers
import LightingBus.Responder.Operations
import LightingBus.Simulation.Bench
import LightingBus.Simulation.Handlers
import LightingBus.Simulation.Line
import LightingBus.Simulation.SearchBus
import LightingBus.Simulation.Storage
import LightingBus.Simulation.World
import LightingBus.Uid
import LightingBus.Proofs.Responder.Refusals
import LightingBus.Proofs.Responder.FanOutVerdicts
import LightingBus.Proofs.Responder.Bookkeeping
import LightingBus.Proofs.Responder.Mirrors
import LightingBus.Proofs.Parameter.Restoring
import LightingBus.Proofs.Responder.Personalities
import LightingBus.Proofs.Discovery.Calls
import LightingBus.Proofs.Discovery.Cost
import LightingBus.Proofs.Packet.Damage
import LightingBus.Proofs.Responder.Muting
import LightingBus.Proofs.Packet.Overlaps
import LightingBus.Proofs.Line.EarlyEnds
import LightingBus.Proofs.Responder.Unreported
import LightingBus.Proofs.Responder.Reports
import LightingBus.Proofs.Payload.Labels
import LightingBus.Proofs.Payload.RoundTrip
import LightingBus.Proofs.Responder.Adoption
import LightingBus.Proofs.Responder.Answers
import LightingBus.Proofs.Responder.Labels
import LightingBus.Proofs.Responder.Summaries
import LightingBus.Proofs.Line.Guards
import LightingBus.Proofs.Line.Deadlines
import LightingBus.Proofs.Line.Turnaround
import LightingBus.Proofs.Line.TurnaroundWaits
import LightingBus.Proofs.Controller.Returns
import LightingBus.Proofs.Controller.Replies
import LightingBus.Proofs.Controller.MuteVerdicts
import LightingBus.Proofs.Controller.Turnaround
import LightingBus.Proofs.Format.Grammar
import LightingBus.Proofs.Format.Matching
import LightingBus.Proofs.Line.BitTimes
import LightingBus.Proofs.Responder.Sensors
import LightingBus.Proofs.Packet.Addresses
import LightingBus.Proofs.Responder.StatusReports
import LightingBus.Proofs.Line.Starts
import LightingBus.Proofs.Receiver.Polling
