import Lightyear.Serial
import Lightyear.Ids
import Lightyear.Ring
import Lightyear.AckBits
import Lightyear.Header
import Lightyear.AckSoundness
import Lightyear.PacketOutcomes
import Lightyear.PacketStatistics
import Lightyear.Calls
import Lightyear.Codec
import Lightyear.Serde
import Lightyear.ToBytes
import Lightyear.Packets
import Lightyear.PacketBuilder
import Lightyear.ReceiveLoop
import Lightyear.Batches
import Lightyear.PacketParse
import Lightyear.Packing
import Lightyear.Maps
import Lightyear.EntityMap
import Lightyear.Chunks
import Lightyear.Runs
import Lightyear.Message
import Lightyear.Compression
import Lightyear.Fragments
import Lightyear.Reassembly
import Lightyear.Receive
import Lightyear.Sequenced
import Lightyear.SequencedBuffers
import Lightyear.SendReliable
import Lightyear.ReliableLink
import Lightyear.OrderedReliable
import Lightyear.ReadyBuffer
import Lightyear.Timeline
import Lightyear.UnorderedReliable
import Lightyear.TransportReceive
import Lightyear.Netcode.Crypto
import Lightyear.Netcode.Replay
import Lightyear.Netcode.Integers
import Lightyear.Netcode.Token
import Lightyear.Netcode.TokenRoundTrip
import Lightyear.Netcode.Packet
import Lightyear.Netcode.PacketRead
import Lightyear.Netcode.PacketRoundTrip
import Lightyear.Netcode.Time
import Lightyear.Netcode.Nonces
import Lightyear.Netcode.Server
import Lightyear.Netcode.Sessions
import Lightyear.Netcode.ServerSessions
import Lightyear.Netcode.ServerTables
import Lightyear.Netcode.ServerCallbacks
import Lightyear.Netcode.ServerNonces
import Lightyear.Netcode.Acceptance
import Lightyear.Netcode.Client
import Lightyear.Netcode.ClientNonces
import Lightyear.Netcode.Delivery
import Lightyear.Netcode.Dispatch
import Lightyear.Sorted
import Lightyear.Tick
import Lightyear.HistoryBuffer
import Lightyear.ConfirmedHistory
import Lightyear.DiffHistory
import Lightyear.DiffSoundness
import Lightyear.DiffWire
import Lightyear.InputBuffer
import Lightyear.InputMessage
import Lightyear.InputUpdate
import Lightyear.NativeInputs
import Lightyear.InputLookahead
import Lightyear.InputDelivery
import Lightyear.InputClient
import Lightyear.LeafwingInputs
import Lightyear.BeiInputs
import Lightyear.InputRoundTrip
import Lightyear.P2P.Session
import Lightyear.P2P.Drive
import Lightyear.P2P.Agreement
import Lightyear.Prediction.Manager
import Lightyear.Prediction.Registry
import Lightyear.Prediction.Rollback
import Lightyear.Prediction.System
import Lightyear.Prediction.Mismatches
import Lightyear.Prediction.Despawns
import Lightyear.Prediction.Detection
import Lightyear.Prediction.Replay
import Lightyear.Prediction.Lifetimes
import Lightyear.Prediction.Shift
import Lightyear.Deterministic.CatchUp
import Lightyear.Deterministic.CatchUpClient
import Lightyear.Deterministic.LateJoin
import Lightyear.Xor
import Lightyear.Deterministic.Checksum
import Lightyear.Deterministic.PendingChecksums
import Lightyear.Sync.PredictionWindow
import Lightyear.Sync.Ping
import Lightyear.Connection.NetworkTarget
import Lightyear.Connection.NetworkTopology
import Lightyear.Replication.Visibility
import Lightyear.Replication.Targets
import Lightyear.Replication.Control
import Lightyear.Forest
import Lightyear.Replication.Hierarchy
import Lightyear.Replication.CheckpointMap
import Lightyear.Replication.ManualVisibility
import Lightyear.Attempts
import Lightyear.Messages.Send
import Lightyear.Interpolation.HistoryUpkeep
import Lightyear.Greedy
import Lightyear.Interpolation.Rules
import Lightyear.Prediction.Protection
import Lightyear.Replication.PreSpawned
import Lightyear.DiffInvariant
import Lightyear.Netcode.ReplayWindow
import Lightyear.Netcode.TokenReuse
import Lightyear.PacketBatch
import Lightyear.FragmentPanics
import Lightyear.FragmentRejection
import Lightyear.SendUnreliable
import Lightyear.ReliableRetention
import Lightyear.UnreliableFlow
import Lightyear.FragmentAcks
import Lightyear.FragmentSizes
import Lightyear.Allocation
import Lightyear.InputLookup
import Lightyear.NativeBuild
import Lightyear.InputAnchors
import Lightyear.InputPopping
import Lightyear.ConfirmedEntries
import Lightyear.HistoryResolution
import Lightyear.InputReplay
import Lightyear.InputFinality
