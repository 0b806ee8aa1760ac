import Lightyear.Batches

/-!
What a finished packet is parsed to, compressed or not.
-/
namespace Lightyear.PacketParse
open Codec
open Lightyear.Ids Lightyear.Message Lightyear.Compression Lightyear.Header Lightyear.Serde Lightyear.Packets
open Lightyear.PacketBuilder Lightyear.ReceiveLoop

/-- The receive loop on one packet, with its messages only written down. -/
def parse_packet (lz4 : Lz4) (compression : CompressionConfig) (packet : Bytes) :
    List (ChannelId × MessageData) × Except TransportError Unit :=
  match PacketHeader.from_bytes packet with
  | .error error => ([],.error (.SerializationError error))
  | .ok (header,cursor) => receive_payload record lz4 compression header.packet_type [] cursor

/-- The compressor takes every payload that the configuration lets it have, and its size prefix holds the size. -/
structure Compressible (lz4 : Lz4) (config : CompressionConfig) : Prop where
  size : config.max_decompressed_payload_size < 2 ^ 32
  accepts : ∀ payload, payload.length ≤ config.max_decompressed_payload_size → (lz4.compress_into payload).isSome

theorem Compressible.compress {lz4 : Lz4} {config : CompressionConfig} (compressible : Compressible lz4 config)
    {payload : Bytes} (within : payload.length ≤ config.max_decompressed_payload_size) :
    ∃ output, compress_lz4 lz4 payload = .ok output := by
  obtain ⟨block,made⟩ := Option.isSome_iff_exists.mp (compressible.accepts payload within)
  have small := compressible.size
  exact ⟨to_le_bytes payload.length ++ block,by rw [compress_lz4,if_neg (by omega),made]⟩

/-- The bytes of a header. -/
def head (header : PacketHeader) : Bytes := written (PacketHeader.to_bytes header)

@[simp]
theorem length_head (header : PacketHeader) : (head header).length = HEADER_BYTES := (header_encodes header).length

theorem parse_head (lz4 : Lz4) (compression : CompressionConfig) (header : PacketHeader) (body : Bytes) :
    parse_packet lz4 compression (head header ++ body) =
      receive_payload record lz4 compression header.packet_type [] body := by
  rw [parse_packet,head,(header_encodes header).reads body]

private theorem packet_type_of_head (header : PacketHeader) (body : Bytes) :
    packet_type_of (head header ++ body) = .ok header.packet_type := by
  have type : PacketType.try_from (PacketType.into header.packet_type) = .ok header.packet_type := by
    cases header.packet_type <;> rfl
  simp only [packet_type_of,head,PacketHeader.to_bytes,written_ok,List.cons_append,List.headD_cons,type]

/-- Patching the first byte changes the type and nothing else. -/
private theorem patched_head (header : PacketHeader) (packet_type : PacketType) (body : Bytes) :
    ((head header ++ body).set 0 (PacketType.into packet_type)).take HEADER_BYTES =
      head { header with packet_type := packet_type } := by
  have whole : (head header ++ body).set 0 (PacketType.into packet_type) =
      head { header with packet_type := packet_type } ++ body := rfl
  rw [whole,List.take_left' (length_head _)]

/-- The compressor refuses a body whose size is too large for its prefix. -/
theorem evaluate_oversized (lz4 : Lz4) {compression : CompressionConfig} (mtu : Nat) {header : PacketHeader}
    {body : Bytes}
    (algorithm : compression.algorithm = some .Lz4) (isData : header.packet_type = .Data) (long : 2 ^ 32 ≤ body.length)
    (tried : compression.min_payload_size ≤ body.length)
    (within : body.length ≤ compression.max_decompressed_payload_size) :
    evaluate_packet_compression lz4 (head header ++ body) compression mtu = .error .CompressionFailed := by
  have body_len : (head header ++ body).length - HEADER_BYTES = body.length := by simp
  have body_eq : (head header ++ body).drop HEADER_BYTES = body := List.drop_left' (length_head header)
  have some_body : ¬ (head header ++ body).length ≤ HEADER_BYTES := by
    rw [List.length_append,length_head]
    omega
  have fails : compress_lz4 lz4 body = .error .CompressionFailed := if_pos long
  simp only [evaluate_packet_compression,algorithm,packet_type_of_head,body_len,body_eq,if_neg some_body,isData,
    PacketType.compressed_variant,fails]
  rw [if_neg (by simp),if_neg (Nat.not_lt.mpr tried),if_neg (Nat.not_lt.mpr within)]

section Compressor
variable {lz4 : Lz4} {compression : CompressionConfig}
  (compressible : is_enabled compression = true → Compressible lz4 compression)
include compressible

/-- The evaluation does not fail, and finds a packet compressed only if its body is, to what fits. -/
private theorem evaluate_spec (mtu : Nat) (header : PacketHeader) (body : Bytes) :
    ∃ outcome output, evaluate_packet_compression lz4 (head header ++ body) compression mtu = .ok (outcome,output) ∧
      ∀ original_len compressed_len, outcome = .Compressed original_len compressed_len →
        compression.algorithm = some .Lz4 ∧ body.length ≤ compression.max_decompressed_payload_size ∧
        compress_lz4 lz4 body = .ok output ∧ compressed_len = HEADER_BYTES + output.length ∧ compressed_len ≤ mtu := by
  cases algorithm : compression.algorithm with
  | none => exact ⟨.Disabled,[],by simp [evaluate_packet_compression,algorithm],by simp⟩
  | some which =>
    cases which
    have enabled : is_enabled compression = true := by simp [is_enabled,algorithm]
    have body_len : (head header ++ body).length - HEADER_BYTES = body.length := by simp
    have body_eq : (head header ++ body).drop HEADER_BYTES = body := List.drop_left' (length_head header)
    simp only [evaluate_packet_compression,algorithm,packet_type_of_head,body_len,body_eq]
    by_cases empty : (head header ++ body).length ≤ HEADER_BYTES
    · exact ⟨_,_,if_pos empty,by simp⟩
    rw [if_neg empty]
    by_cases done : (PacketType.compressed_variant header.packet_type).isNone = true
    · exact ⟨_,_,if_pos done,by simp⟩
    rw [if_neg done]
    by_cases small : body.length < compression.min_payload_size
    · exact ⟨_,_,if_pos small,by simp⟩
    rw [if_neg small]
    by_cases large : body.length > compression.max_decompressed_payload_size
    · exact ⟨_,_,if_pos large,by simp⟩
    rw [if_neg large]
    obtain ⟨output,compressed⟩ := (compressible enabled).compress (Nat.not_lt.mp large)
    rw [compressed]
    by_cases larger : HEADER_BYTES + output.length ≥ (head header ++ body).length ∨ HEADER_BYTES + output.length > mtu
    · exact ⟨_,_,if_pos larger,by simp⟩
    · refine ⟨_,_,if_neg larger,?_⟩
      rintro _ _ ⟨⟩
      exact ⟨trivial,Nat.not_lt.mp large,rfl,rfl,by omega⟩

theorem fits_decided (mtu : Nat) (header : PacketHeader) (body : Bytes) :
    ∃ fit, fits lz4 (head header ++ body) compression mtu = .ok fit := by
  obtain ⟨outcome,output,evaluates,-⟩ := evaluate_spec compressible mtu header body
  by_cases small : (head header ++ body).length ≤ mtu
  · exact ⟨true,if_pos small⟩
  rw [fits,if_neg small]
  by_cases enabled : is_enabled compression = true
  · rw [if_pos enabled,evaluates]
    cases outcome <;> exact ⟨_,rfl⟩
  · exact ⟨false,if_neg enabled⟩

/-- A packet of single messages that fits is finished, within the MTU, and is parsed like its uncompressed body. -/
theorem finish_spec (inverts : lz4.Inverts) {mtu : Nat} {header : PacketHeader} {body : Bytes} {packet : Packet}
    (isData : header.packet_type = .Data) (payload : packet.payload = head header ++ body)
    (fit : fits lz4 packet.payload compression mtu = .ok true) :
    ∃ finished, finish_compression_aware_packet lz4 packet compression mtu = .ok finished ∧
      finished.messages = packet.messages ∧ finished.payload.length ≤ mtu ∧
      parse_packet lz4 compression finished.payload = decode_body .Data body := by
  obtain ⟨outcome,output,evaluates,isCompressed⟩ := evaluate_spec compressible mtu header body
  rw [← payload] at evaluates
  by_cases compressed : ∃ original_len compressed_len, outcome = .Compressed original_len compressed_len
  · obtain ⟨original_len,compressed_len,rfl⟩ := compressed
    obtain ⟨enabled,within,made,length,small⟩ := isCompressed _ _ rfl
    have type : packet_type_of packet.payload = .ok .Data := by rw [payload,packet_type_of_head,isData]
    have patched := patched_head header .DataCompressed body
    rw [← payload] at patched
    have rest : output.take (compressed_len - HEADER_BYTES) = output := by
      rw [length,Nat.add_sub_cancel_left,List.take_length]
    refine ⟨⟨head { header with packet_type := .DataCompressed } ++ output,packet.messages,packet.packet_id,
      some ⟨original_len,compressed_len⟩⟩,?_,rfl,?_,?_⟩
    · simp only [finish_compression_aware_packet,compress_packet,evaluates,type,PacketType.compressed_variant,
        Option.getD_some,patched,rest]
    · rw [List.length_append,length_head,← length]
      exact small
    · rw [parse_head]
      simp only [receive_payload,PacketType.is_compressed,if_true,decompress_compress inverts enabled made within,
        PacketType.uncompressed_variant]
      rfl
  · have within : packet.payload.length ≤ mtu := by
      by_contra large
      rw [fits,if_neg large,evaluates] at fit
      cases outcome with
      | Compressed original_len compressed_len => exact compressed ⟨_,_,rfl⟩
      | _ => split at fit <;> cases fit
    refine ⟨packet,?_,rfl,within,?_⟩
    · have bound : ¬ packet.payload.length > mtu := Nat.not_lt.mpr within
      simp only [finish_compression_aware_packet,compress_packet,evaluates]
      cases outcome with
      | Compressed original_len compressed_len => exact absurd ⟨_,_,rfl⟩ compressed
      | _ => exact if_neg bound
    · rw [payload,parse_head,isData]
      rfl

end Compressor

end Lightyear.PacketParse
