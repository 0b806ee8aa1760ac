import Lightyear.Compression
import Lightyear.Serde

/-!
`packet/packet.rs`, the packet half of `packet/compression.rs`, and the candidates of
`packet/message.rs` that packets are built from.
-/
namespace Lightyear.Packets
open Codec
open Lightyear.Ids Lightyear.Message Lightyear.Compression Lightyear.Header Lightyear.Serde

/-- The `TypeId` of a channel. -/
abbrev ChannelKind := Nat

/-- The age of the message and its own priority, which only order the candidates, are left out.
    An effective priority is the bit pattern of its `f32`: `total_cmp` tells two patterns apart. -/
structure SendCandidate where
  channel_kind : ChannelKind
  channel_id : ChannelId
  key : SendMessageKey
  data : MessageData
  effective_priority : BitVec 32
deriving DecidableEq, Repr

structure SendCommit where
  channel_kind : ChannelKind
  key : SendMessageKey
deriving DecidableEq, Repr

structure MessageMetadata where
  channel : ChannelId
  message : Option MessageId
  fragment_index : Option FragmentIndex
  commit : SendCommit
deriving DecidableEq, Repr

structure PacketCompressionInfo where
  original_len : Nat
  compressed_len : Nat
deriving DecidableEq, Repr

structure Packet where
  payload : Bytes
  messages : List MessageMetadata
  packet_id : PacketId
  compression : Option PacketCompressionInfo
deriving DecidableEq, Repr

/-- `HEADER_BYTES` -/
def HEADER_BYTES : Nat := PacketHeader.BYTES

/-- `Packet::record_message_metadata` -/
def Packet.record_message_metadata (self : Packet) (channel : ChannelId) (message : Option MessageId)
    (fragment_index : Option FragmentIndex) (commit : SendCommit) : Packet :=
  { self with messages := self.messages ++ [⟨channel,message,fragment_index,commit⟩] }

/-- `write_to_payload` -/
def write_to_payload (value : Written) (payload : Bytes) : Except PacketError Bytes :=
  match value with
  | .ok bytes => .ok (payload ++ bytes)
  | .error error => .error (.Serialization error)

theorem write_ok {value : Written} (ok : value = .ok (written value)) (payload : Bytes) :
    write_to_payload value payload = .ok (payload ++ written value) := by
  rw [ok]
  rfl

/-- `FIXED_FRAGMENT_PACKET_BYTES`: the header, the longest channel id, the message id, the longest fragment index
    and count, and the compression of the first fragment. -/
def FIXED_FRAGMENT_PACKET_BYTES : Nat := HEADER_BYTES + (varint_len 65535 + 2 + 8 + 8 + 1)

/-- The loop of `fragment_size_for_min_mtu`. Sizes that are no varint, where it panics, have no result. -/
def largest_fragment (available : Nat) : Nat → Option Nat
  | 0 => none
  | below + 1 =>
    let fragment_size := below + 1
    if varint_len fragment_size = 0 then none
    else if fragment_size ≤ available - varint_len fragment_size then some fragment_size
    else largest_fragment available below

def fragment_size_for_min_mtu (min_mtu : Nat) : Option Nat :=
  if min_mtu < FIXED_FRAGMENT_PACKET_BYTES then none
  else largest_fragment (min_mtu - FIXED_FRAGMENT_PACKET_BYTES) (min_mtu - FIXED_FRAGMENT_PACKET_BYTES)

namespace PacketType
def is_compressed : PacketType → Bool
  | .DataCompressed | .DataFragmentCompressed => true
  | _ => false

def compressed_variant : PacketType → Option PacketType
  | .Data => some .DataCompressed
  | .DataFragment => some .DataFragmentCompressed
  | .DataCompressed | .DataFragmentCompressed | .AckOnly => none

def uncompressed_variant : PacketType → PacketType
  | .Data | .DataCompressed => .Data
  | .DataFragment | .DataFragmentCompressed => .DataFragment
  | .AckOnly => .AckOnly
end PacketType

/-- `CompressionConfig::is_enabled` -/
def is_enabled (self : CompressionConfig) : Bool := self.algorithm.isSome

inductive CompressionOutcome where
  | Disabled
  | AlreadyCompressed
  | TooSmall (payload_len : Nat)
  | TooLargeForDecompressionLimit (payload_len limit : Nat)
  | NotSmaller (original_len compressed_len : Nat)
  | Compressed (original_len compressed_len : Nat)
deriving DecidableEq, Repr

/-- The type in the first byte of a packet. -/
def packet_type_of (packet_payload : Bytes) : Except PacketError PacketType :=
  match PacketType.try_from (packet_payload.headD 0) with
  | .ok packet_type => .ok packet_type
  | .error error => .error (.Serialization error)

/-- The second component is what is written to the output buffer. -/
def evaluate_packet_compression (lz4 : Lz4) (packet_payload : Bytes) (config : CompressionConfig) (mtu : Nat) :
    Except PacketError (CompressionOutcome × Bytes) :=
  match config.algorithm with
  | none => .ok (.Disabled,[])
  | some .Lz4 =>
    if packet_payload.length ≤ HEADER_BYTES then .ok (.TooSmall 0,[])
    else
      match packet_type_of packet_payload with
      | .error error => .error error
      | .ok packet_type =>
        let payload_len := packet_payload.length - HEADER_BYTES
        if (PacketType.compressed_variant packet_type).isNone then .ok (.AlreadyCompressed,[])
        else if payload_len < config.min_payload_size then .ok (.TooSmall payload_len,[])
        else if payload_len > config.max_decompressed_payload_size then
          .ok (.TooLargeForDecompressionLimit payload_len config.max_decompressed_payload_size,[])
        else
          match compress_lz4 lz4 (packet_payload.drop HEADER_BYTES) with
          | .error error => .error error
          | .ok output =>
            let original_len := packet_payload.length
            let compressed_len := HEADER_BYTES + output.length
            if compressed_len ≥ original_len ∨ compressed_len > mtu then
              .ok (.NotSmaller original_len compressed_len,output)
            else .ok (.Compressed original_len compressed_len,output)

/-- Evaluates, and on `Compressed` replaces the body and the packet type. -/
def compress_packet (lz4 : Lz4) (packet : Packet) (config : CompressionConfig) (mtu : Nat) :
    Except PacketError (CompressionOutcome × Packet) :=
  match evaluate_packet_compression lz4 packet.payload config mtu with
  | .error error => .error error
  | .ok (.Compressed original_len compressed_len,output) =>
    match packet_type_of packet.payload with
    | .error error => .error error
    | .ok packet_type =>
      -- The evaluation rejects the types that have no compressed variant.
      let compressed_packet_type := (PacketType.compressed_variant packet_type).getD packet_type
      let payload := (packet.payload.set 0 (PacketType.into compressed_packet_type)).take HEADER_BYTES
      .ok (.Compressed original_len compressed_len,
        { packet with
          payload := payload ++ output.take (compressed_len - HEADER_BYTES)
          compression := some ⟨original_len,compressed_len⟩ })
  | .ok (outcome,_) => .ok (outcome,packet)

theorem varint_len_le (v : Nat) : varint_len v ≤ 8 := by
  unfold varint_len
  split_ifs <;> omega

theorem channel_len_le (channel : ChannelId) : ChannelId.bytes_len channel ≤ 4 := by
  have := channel.isLt
  unfold ChannelId.bytes_len varint_len
  split_ifs <;> omega

theorem varint_len_mono {v w : Nat} (less : v ≤ w) (fits : w < 2 ^ 62) : varint_len v ≤ varint_len w := by
  unfold varint_len
  split_ifs <;> omega

theorem varint_len_ne_zero {v : Nat} : varint_len v ≠ 0 ↔ v < 2 ^ 62 := by
  unfold varint_len
  split_ifs <;> omega

private theorem largest_fragment_spec {available below size : Nat}
    (found : largest_fragment available below = some size) :
    size < 2 ^ 62 ∧ size + varint_len size ≤ available := by
  induction below with
  | zero => cases found
  | succ below ih =>
    rw [largest_fragment] at found
    split at found
    · cases found
    next varint =>
    split at found
    · next fits =>
      cases found
      exact ⟨varint_len_ne_zero.mp varint,by omega⟩
    · exact ih found

/-- A fragment of this size fits into a packet, with its own length and everything else at its longest. -/
theorem fragment_size_spec {min_mtu size : Nat} (found : fragment_size_for_min_mtu min_mtu = some size) :
    size < 2 ^ 62 ∧ 36 + size + varint_len size ≤ min_mtu := by
  have fixed : FIXED_FRAGMENT_PACKET_BYTES = 36 := by decide
  rw [fragment_size_for_min_mtu,fixed] at found
  split at found
  · cases found
  next large =>
  obtain ⟨varint,fits⟩ := largest_fragment_spec found
  exact ⟨varint,by omega⟩

end Lightyear.Packets
