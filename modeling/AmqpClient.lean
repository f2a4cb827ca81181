import AmqpClient.Frame.Intake
import AmqpClient.Command.Transmission
import AmqpClient.Topology
import AmqpClient.Channel.Ids
import AmqpClient.Negotiation
import AmqpClient.Channel.Notice
import AmqpClient.Address
import AmqpClient.Recovery.Rehearsal
import AmqpClient.Channel.Mail
import AmqpClient.Channel.Request
import AmqpClient.Recovery
import AmqpClient.Connection
import AmqpClient.Connection.Call
import AmqpClient.Connection.Handshake
import AmqpClient.Connection.Inbound
import AmqpClient.Connection.Live
import AmqpClient.Recovery.Network
import AmqpClient.Proofs.Content.Reading
import AmqpClient.Proofs.Command.Grammar
import AmqpClient.Proofs.Command.Writing
import AmqpClient.Proofs.Outlet
import AmqpClient.Proofs.Command.Sending
import AmqpClient.Proofs.Frame.Encoding
import AmqpClient.Proofs.Frame.Delivery
import AmqpClient.Proofs.Frame.Reassembly
import AmqpClient.Proofs.Command.RoundTrip
import AmqpClient.Proofs.Topology.Catalog
import AmqpClient.Proofs.Topology.Renaming
import AmqpClient.Proofs.Topology.Forgetting
import AmqpClient.Proofs.Topology.Aliases
import AmqpClient.Proofs.Topology.Tracing
import AmqpClient.Proofs.Topology.Reissuing
import AmqpClient.Proofs.Registry
import AmqpClient.Proofs.Recovery.Transcript
import AmqpClient.Proofs.Recovery.Replay
import AmqpClient.Proofs.Recovery.Reachability
import AmqpClient.Proofs.Recovery.Viewing
import AmqpClient.Proofs.Recovery.Hearing
import AmqpClient.Proofs.Recovery.Discipline
import AmqpClient.Proofs.Recovery.Exactness
import AmqpClient.Proofs.Recovery.Fairness
import AmqpClient.Proofs.Recovery.Identity
import AmqpClient.Proofs.Recovery.Attending
import AmqpClient.Proofs.Recovery.Bookkeeping
import AmqpClient.Proofs.Topology.Moving
import AmqpClient.Proofs.Topology.Retagging
import AmqpClient.Proofs.Topology.Addressing
import AmqpClient.Proofs.Recovery.Attempt
import AmqpClient.Proofs.Recovery.Mirroring
import AmqpClient.Proofs.Recovery.Freshness
import AmqpClient.Proofs.Recovery.Posting
import AmqpClient.Proofs.Recovery.Tagging
import AmqpClient.Proofs.Recovery.Separation
import AmqpClient.Proofs.Connection.Treatment
import AmqpClient.Proofs.Connection.Motion
import AmqpClient.Proofs.Connection.Operation
import AmqpClient.Proofs.Connection.Commotion
import AmqpClient.Proofs.Recovery.Serving
import AmqpClient.Proofs.Recovery.Succession
import AmqpClient.Proofs.Recovery.Receivers
import AmqpClient.Proofs.Recovery.Keeping
import AmqpClient.Proofs.Recovery.Reviving
import AmqpClient.Proofs.Recovery.Parting
import AmqpClient.Proofs.Connection.Deeds
import AmqpClient.Proofs.Connection.Asking
import AmqpClient.Proofs.Connection.Sorting
import AmqpClient.Proofs.Connection.Acts
import AmqpClient.Proofs.Connection.Interleaving
import AmqpClient.Proofs.Connection.Following
import AmqpClient.Proofs.Connection.Closing
import AmqpClient.Proofs.Recovery.Wiring
import AmqpClient.Proofs.Recovery.Relaying
import AmqpClient.Proofs.Topology.Cascade
import AmqpClient.Proofs.Command.Forwarding
import AmqpClient.Proofs.Command.HandingOut
import AmqpClient.Proofs.Command.Supplied
import AmqpClient.Proofs.Command.Fitting
import AmqpClient.Proofs.Command.Refusal
import AmqpClient.Proofs.Command.Spilling
import AmqpClient.Content.Directory
import AmqpClient.Command.Custody
import AmqpClient.Proofs.Frame.Listening
import AmqpClient.Proofs.Connection.Opening
import AmqpClient.Proofs.Topology.Naming
import AmqpClient.Proofs.Topology.Operations
import AmqpClient.Proofs.Topology.Aftermath
import AmqpClient.Proofs.Topology.Finding
import AmqpClient.Proofs.Topology.Leading
import AmqpClient.Proofs.Topology.Substituting
import AmqpClient.Proofs.Command.Delimiting
import AmqpClient.Proofs.Topology.Cancelling
import AmqpClient.Proofs.Channel.Claiming
import AmqpClient.Proofs.Channel.Rotation
import AmqpClient.Proofs.Connection.Crossing
import AmqpClient.Proofs.Bytes
import AmqpClient.Proofs.Field.Ordering
import AmqpClient.Proofs.Field.Reading
import AmqpClient.Proofs.Method.Reading
import AmqpClient.Proofs.Content.Heading
import AmqpClient.Proofs.Declaration
import AmqpClient.Proofs.Registry.Snapshot
import AmqpClient.Proofs.Connection.Lingering
import AmqpClient.Proofs.Outlet.Writing
import AmqpClient.Proofs.Frame.Codec
import AmqpClient.Content.Stored
import AmqpClient.Proofs.Content.Depositing
import AmqpClient.Proofs.Content.Readers
import AmqpClient.Proofs.Content.ReadingOut
import AmqpClient.Proofs.Field.Comparing
import AmqpClient.Proofs.Topology.Binding
import AmqpClient.Proofs.Negotiation
import AmqpClient.Proofs.Command.Limiting
import AmqpClient.Proofs.Connection.Working
import AmqpClient.Proofs.Connection.Limiting
import AmqpClient.Proofs.Connection.Using
import AmqpClient.Proofs.Connection.Honouring
