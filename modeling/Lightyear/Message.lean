import Lightyear.Ids

/-!
The messages of `packet/message.rs` and the errors of the transport crate.
-/
namespace Lightyear.Message
open Lightyear.Ids

abbrev Byte := UInt8
abbrev Bytes := List Byte

/-- The largest length of a Rust slice, and so of a `Bytes`. -/
def isize_max : Nat := 2 ^ 63 - 1

/-- `usize` of a 64-bit target. -/
def usize_max : Nat := 2 ^ 64 - 1

/-- `Duration`, in nanoseconds. -/
abbrev Duration := Nat

/-- `Tick(u32)` -/
abbrev Tick := BitVec 32
abbrev ChannelId := BitVec 16

/-- `FragmentIndex(u64)` -/
abbrev FragmentIndex := Nat

inductive FragmentCompression where
  | None
  | Lz4
deriving DecidableEq, Repr

def FragmentCompression.as_str : FragmentCompression → String
  | .None => "none"
  | .Lz4 => "lz4"

structure SingleData where
  id : Option MessageId
  bytes : Bytes
deriving DecidableEq, Repr

structure FragmentData where
  message_id : MessageId
  fragment_id : FragmentIndex
  num_fragments : FragmentIndex
  compression : Option FragmentCompression
  bytes : Bytes
deriving DecidableEq, Repr

inductive MessageData where
  | Single (data : SingleData)
  | Fragment (data : FragmentData)
deriving DecidableEq, Repr

def MessageData.message_id : MessageData → Option MessageId
  | .Single data => data.id
  | .Fragment data => some data.message_id

/-- The key of a candidate within its channel. -/
inductive SendMessageKey where
  | UnreliableSingle (index : Nat)
  | UnreliableFragment (index : Nat)
  | ReliableSingle (id : MessageId)
  | ReliableFragment (id : MessageId) (fragment_id : FragmentIndex)
deriving DecidableEq, Repr

structure MessageAck where
  message_id : MessageId
  fragment_id : Option FragmentIndex
deriving DecidableEq, Repr

inductive SerializationError where
  | Io
  | InvalidPacketType
  | InvalidValue
  | SubtractionOverflow
deriving DecidableEq, Repr

inductive ChannelReceiveError where
  | MissingMessageId
  | InvalidFragmentCount (num_fragments : Nat)
  | InvalidFragmentIndex (fragment_index num_fragments : Nat)
  | FragmentCountMismatch (expected actual : Nat)
  | FragmentedMessageSizeOverflow
  | FragmentCompressionMismatch (expected actual : String)
  | MissingFragmentCompression
  | UnsupportedFragmentCompression (compression : String)
  | FragmentDecompressionFailed
  | FragmentDecompressedPayloadTooLarge (actual limit : Nat)
  | InvalidNonFinalFragmentSize (actual expected : Nat)
  | InvalidFinalFragmentSize (actual max : Nat)
deriving DecidableEq, Repr

inductive PacketError where
  | Serialization (error : SerializationError)
  | ChannelNotFound
  | ChannelReceiveError (error : ChannelReceiveError)
  | UnsupportedCompression
  | CompressionFailed
  | DecompressionFailed
  | DecompressedPayloadTooLarge (actual limit : Nat)
  | PacketTooLarge (actual mtu : Nat)
  | MtuTooSmall (actual min : Nat)
deriving DecidableEq, Repr

end Lightyear.Message
