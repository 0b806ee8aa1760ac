import Lightyear.Message

/-!
`packet/compression.rs`: the size-prefixed LZ4 payloads that messages and packets
share. The block format itself is a parameter.
-/
namespace Lightyear.Compression
open Lightyear.Message

inductive CompressionAlgorithm where
  | Lz4
deriving DecidableEq, Repr

structure CompressionConfig where
  algorithm : Option CompressionAlgorithm
  min_payload_size : Nat
  max_decompressed_payload_size : Nat
deriving DecidableEq, Repr

namespace CompressionConfig
def DISABLED : CompressionConfig := ⟨none,128,64 * 1024⟩
def LZ4 : CompressionConfig := ⟨some .Lz4,128,64 * 1024⟩
end CompressionConfig

/-- The two functions of `lz4_flex::block` that the crate calls: the block that a
    payload is compressed to, and what a block decodes to in a buffer of a given size. -/
structure Lz4 where
  compress_into : Bytes → Option Bytes
  decompress_into : Bytes → Nat → Option Bytes

/-- A block decodes to its payload in a buffer of the payload's size. -/
def Lz4.Inverts (lz4 : Lz4) : Prop :=
  ∀ payload block, lz4.compress_into payload = some block → lz4.decompress_into block payload.length = some payload

/-- The blocks that short payloads have in the format: one token and the literals. -/
def Lz4.literals : Lz4 where
  compress_into payload := if payload.length < 13 then some (UInt8.ofNat (16 * payload.length) :: payload) else none
  decompress_into block size :=
    match block with
    | [] => none
    | token :: literals => if token.toNat = 16 * literals.length ∧ literals.length ≤ size then some literals else none

theorem literals_inverts : Lz4.literals.Inverts := by
  intro payload block compressed
  simp only [Lz4.literals] at compressed ⊢
  split at compressed
  · next short =>
    cases compressed
    simp only [UInt8.toNat_ofNat',le_refl,and_true]
    rw [if_pos (by omega)]
  · cases compressed

/-- `u32::to_le_bytes` -/
def to_le_bytes (n : Nat) : Bytes :=
  [UInt8.ofNat n,UInt8.ofNat (n / 2 ^ 8),UInt8.ofNat (n / 2 ^ 16),UInt8.ofNat (n / 2 ^ 24)]

/-- `lz4_flex::block::uncompressed_size` -/
def uncompressed_size : Bytes → Option (Nat × Bytes)
  | a :: b :: c :: d :: rest => some (a.toNat + 2 ^ 8 * b.toNat + 2 ^ 16 * c.toNat + 2 ^ 24 * d.toNat,rest)
  | _ => none

/-- The payload alternatives of `PayloadCompressionCandidate`. -/
inductive PayloadCompressionCandidate where
  | Disabled
  | TooSmall (payload_len : Nat)
  | TooLargeForDecompressionLimit (payload_len limit : Nat)
  | NotSmaller (original_len compressed_len : Nat)
  | Compressed (payload : Bytes) (original_len compressed_len : Nat)
deriving DecidableEq, Repr

/-- `CompressionScratch::compress_lz4` -/
def compress_lz4 (lz4 : Lz4) (payload : Bytes) : Except PacketError Bytes :=
  if payload.length ≥ 2 ^ 32 then .error .CompressionFailed
  else
    match lz4.compress_into payload with
    | none => .error .CompressionFailed
    | some block => .ok (to_le_bytes payload.length ++ block)

def compress_fragment (lz4 : Lz4) (payload : Bytes) (config : CompressionConfig) :
    Except PacketError PayloadCompressionCandidate :=
  match config.algorithm with
  | none => .ok .Disabled
  | some .Lz4 =>
    if payload.length < config.min_payload_size then .ok (.TooSmall payload.length)
    else if payload.length > config.max_decompressed_payload_size then
      .ok (.TooLargeForDecompressionLimit payload.length config.max_decompressed_payload_size)
    else
      match compress_lz4 lz4 payload with
      | .error error => .error error
      | .ok output =>
        if output.length ≥ payload.length then .ok (.NotSmaller payload.length output.length)
        else .ok (.Compressed output payload.length output.length)

def decompress_lz4 (lz4 : Lz4) (compressed_payload : Bytes) (config : CompressionConfig) : Except PacketError Bytes :=
  match uncompressed_size compressed_payload with
  | none => .error .DecompressionFailed
  | some (uncompressed_size,compressed_payload) =>
    if uncompressed_size > config.max_decompressed_payload_size then
      .error (.DecompressedPayloadTooLarge uncompressed_size config.max_decompressed_payload_size)
    else
      match lz4.decompress_into compressed_payload uncompressed_size with
      | none => .error .DecompressionFailed
      | some decoded => if decoded.length ≠ uncompressed_size then .error .DecompressionFailed else .ok decoded

def decompress_payload (lz4 : Lz4) (compressed_payload : Bytes) (config : CompressionConfig) :
    Except PacketError Bytes :=
  match config.algorithm with
  | none => .error .UnsupportedCompression
  | some .Lz4 => decompress_lz4 lz4 compressed_payload config

theorem uncompressed_size_to_le_bytes {n : Nat} (fits : n < 2 ^ 32) (block : Bytes) :
    uncompressed_size (to_le_bytes n ++ block) = some (n,block) := by
  simp only [to_le_bytes,uncompressed_size,List.cons_append,List.nil_append,UInt8.toNat_ofNat',Option.some.injEq,
    Prod.mk.injEq,and_true]
  omega

theorem compress_lz4_ok {lz4 : Lz4} {payload output : Bytes} (compressed : compress_lz4 lz4 payload = .ok output) :
    payload.length < 2 ^ 32 ∧ ∃ block, lz4.compress_into payload = some block ∧
      output = to_le_bytes payload.length ++ block := by
  unfold compress_lz4 at compressed
  split at compressed
  · cases compressed
  · next small =>
    split at compressed
    · cases compressed
    · next block made =>
      simp only [Except.ok.injEq] at compressed
      exact ⟨by omega,block,made,compressed.symm⟩

/-- What was compressed within the limit decompresses to the payload. -/
theorem decompress_compress {lz4 : Lz4} (inverts : lz4.Inverts) {payload output : Bytes} {config : CompressionConfig}
    (enabled : config.algorithm = some .Lz4) (compressed : compress_lz4 lz4 payload = .ok output)
    (within : payload.length ≤ config.max_decompressed_payload_size) :
    decompress_payload lz4 output config = .ok payload := by
  obtain ⟨small,block,made,rfl⟩ := compress_lz4_ok compressed
  simp only [decompress_payload,enabled,decompress_lz4,uncompressed_size_to_le_bytes small,inverts payload block made]
  rw [if_neg (by omega)]
  simp

theorem compress_fragment_ok {lz4 : Lz4} {payload output : Bytes} {config : CompressionConfig}
    {original_len compressed_len : Nat}
    (compressed : compress_fragment lz4 payload config = .ok (.Compressed output original_len compressed_len)) :
    config.algorithm = some .Lz4 ∧ payload.length ≤ config.max_decompressed_payload_size ∧
      output.length < payload.length ∧ compress_lz4 lz4 payload = .ok output := by
  unfold compress_fragment at compressed
  split at compressed
  · cases compressed
  next enabled =>
  split at compressed
  · cases compressed
  split at compressed
  · cases compressed
  next within =>
  split at compressed
  · cases compressed
  next produced made =>
  split at compressed
  · cases compressed
  next smaller =>
  simp only [Except.ok.injEq,PayloadCompressionCandidate.Compressed.injEq] at compressed
  obtain ⟨rfl,-,-⟩ := compressed
  exact ⟨enabled,by omega,by omega,made⟩

theorem compress_lz4_length {lz4 : Lz4} {payload output : Bytes} (compressed : compress_lz4 lz4 payload = .ok output) :
    4 ≤ output.length := by
  obtain ⟨-,block,-,rfl⟩ := compress_lz4_ok compressed
  simp [to_le_bytes]

end Lightyear.Compression
