import Lightyear.Codec
import Lightyear.Header

/-!
The wire format: the variable-length integers of the `serde` crate, and the `ToBytes`
implementations of the headers and messages. What a value is written as is read back
as that value, in the number of bytes that `bytes_len` announces.
-/
namespace Lightyear.Serde
open Codec
open Lightyear.Ids Lightyear.Message Lightyear.Header

/-- `Reader`, a cursor over the bytes that remain. Reading past the end is an `io::Error`. -/
abbrev Reader (α : Type) := Parser SerializationError α
abbrev Written := Except SerializationError Bytes

def read_u8 : Reader Byte := fun
  | [] => .error .Io
  | byte :: rest => .ok (byte,rest)

def read_u16 : Reader Nat := do
  let bytes ← take .Io 2
  pure (ofBE bytes)

def read_u32 : Reader Nat := do
  let bytes ← take .Io 4
  pure (ofBE bytes)

/-- `varint_len`; 0 stands for `unreachable!`. -/
def varint_len (v : Nat) : Nat :=
  if v ≤ 63 then 1
  else if v ≤ 16383 then 2
  else if v ≤ 1073741823 then 4
  else if v ≤ 4611686018427387903 then 8
  else 0

def varint_parse_len (first : Byte) : Nat :=
  match first.toNat >>> 6 with
  | 0 => 1
  | 1 => 2
  | 2 => 4
  | _ => 8

def write_varint (value : Nat) : Written :=
  match varint_len value with
  | 1 => .ok (toBE 1 value)
  | 2 => .ok (toBE 2 (value ||| 0x4000))
  | 4 => .ok (toBE 4 (value ||| 0x80000000))
  | 8 => .ok (toBE 8 (value ||| 0xc000000000000000))
  | _ => .error .Io

/-- The bytes of a varint after its first one. -/
def varint_rest (first : Byte) : Reader Nat :=
  match varint_parse_len first with
  | 1 => pure first.toNat
  | 2 => do
    let bytes ← take .Io 1
    pure (ofBE (first :: bytes) &&& 0x3fff)
  | 4 => do
    let bytes ← take .Io 3
    pure (ofBE (first :: bytes) &&& 0x3fffffff)
  | _ => do
    let bytes ← take .Io 7
    pure (ofBE (first :: bytes) &&& 0x3fffffffffffffff)

def read_varint : Reader Nat := do
  let first ← read_u8
  varint_rest first

namespace Bytes
def bytes_len (self : Bytes) : Nat := varint_len self.length + self.length

def to_bytes (self : Bytes) : Written := do
  let len ← write_varint self.length
  let bytes ← .ok self
  pure (len ++ bytes)

def from_bytes : Reader Bytes := do
  let len ← read_varint
  take .Io len
end Bytes

/-- `u16`, which is written as a varint and cast back. -/
def ChannelId.bytes_len (self : ChannelId) : Nat := varint_len self.toNat
def ChannelId.to_bytes (self : ChannelId) : Written := write_varint self.toNat
def ChannelId.from_bytes : Reader ChannelId := do
  let n ← read_varint
  pure (BitVec.ofNat 16 n)

/-- The ids of `wrapping_id!`. -/
def WrappingId.bytes_len (_self : WrappingId) : Nat := 2
def WrappingId.to_bytes (self : WrappingId) : Written := .ok (toBE 2 self.val.toNat)
def WrappingId.from_bytes : Reader WrappingId := do
  let n ← read_u16
  pure ⟨BitVec.ofNat 16 n⟩

namespace OptionId
def bytes_len : Option MessageId → Nat
  | some value => 1 + WrappingId.bytes_len value
  | none => 1

def to_bytes : Option MessageId → Written
  | some value => do
    let tag ← .ok [1]
    let value ← WrappingId.to_bytes value
    pure (tag ++ value)
  | none => .ok [0]

def from_bytes : Reader (Option MessageId) := do
  let tag ← read_u8
  if tag ≠ 0 then do
    let value ← WrappingId.from_bytes
    pure (some value)
  else pure none
end OptionId

namespace FragmentIndex
def bytes_len (self : FragmentIndex) : Nat := varint_len self
def to_bytes (self : FragmentIndex) : Written := write_varint self
def from_bytes : Reader FragmentIndex := read_varint
end FragmentIndex

namespace FragmentCompression
def bytes_len (_self : FragmentCompression) : Nat := 1

def to_bytes : FragmentCompression → Written
  | .None => .ok [0]
  | .Lz4 => .ok [1]

def from_bytes : Reader FragmentCompression := do
  let tag ← read_u8
  match tag.toNat with
  | 0 => pure .None
  | 1 => pure .Lz4
  | _ => throw .InvalidValue
end FragmentCompression

namespace SingleData
def bytes_len (self : SingleData) : Nat := OptionId.bytes_len self.id + Bytes.bytes_len self.bytes

def to_bytes (self : SingleData) : Written := do
  let id ← OptionId.to_bytes self.id
  let bytes ← Bytes.to_bytes self.bytes
  pure (id ++ bytes)

def from_bytes : Reader SingleData := do
  let id ← OptionId.from_bytes
  let bytes ← Bytes.from_bytes
  pure ⟨id,bytes⟩
end SingleData

namespace FragmentData
def is_initial_fragment (self : FragmentData) : Bool := self.fragment_id == 0

/-- The subtraction of the source underflows for a message of no fragments, which no sender builds. -/
def is_last_fragment (self : FragmentData) : Bool := self.fragment_id == self.num_fragments - 1

def bytes_len (self : FragmentData) : Nat :=
  WrappingId.bytes_len self.message_id + FragmentIndex.bytes_len self.fragment_id +
    FragmentIndex.bytes_len self.num_fragments +
    (if is_initial_fragment self then FragmentCompression.bytes_len .None else 0) + Bytes.bytes_len self.bytes

/-- The compression is on the wire for the first fragment only. -/
def compression_to_bytes (self : FragmentData) : Written :=
  if is_initial_fragment self then FragmentCompression.to_bytes (self.compression.getD .None) else .ok []

def compression_from_bytes (fragment_id : FragmentIndex) : Reader (Option FragmentCompression) :=
  if fragment_id = 0 then do
    let compression ← FragmentCompression.from_bytes
    pure (some compression)
  else pure none

def to_bytes (self : FragmentData) : Written := do
  let message_id ← WrappingId.to_bytes self.message_id
  let fragment_id ← FragmentIndex.to_bytes self.fragment_id
  let num_fragments ← FragmentIndex.to_bytes self.num_fragments
  let compression ← compression_to_bytes self
  let bytes ← Bytes.to_bytes self.bytes
  pure (message_id ++ (fragment_id ++ (num_fragments ++ (compression ++ bytes))))

def from_bytes : Reader FragmentData := do
  let message_id ← WrappingId.from_bytes
  let fragment_id ← FragmentIndex.from_bytes
  let num_fragments ← FragmentIndex.from_bytes
  let compression ← compression_from_bytes fragment_id
  let bytes ← Bytes.from_bytes
  pure ⟨message_id,fragment_id,num_fragments,compression,bytes⟩
end FragmentData

def MessageData.bytes_len : MessageData → Nat
  | .Single data => SingleData.bytes_len data
  | .Fragment data => FragmentData.bytes_len data

/-- `packet_type as u8` -/
def PacketType.into : PacketType → Byte
  | .Data => 0
  | .DataFragment => 1
  | .DataCompressed => 2
  | .DataFragmentCompressed => 3
  | .AckOnly => 4

def PacketType.try_from (value : Byte) : Except SerializationError PacketType :=
  match value.toNat with
  | 0 => .ok .Data
  | 1 => .ok .DataFragment
  | 2 => .ok .DataCompressed
  | 3 => .ok .DataFragmentCompressed
  | 4 => .ok .AckOnly
  | _ => .error .InvalidPacketType

namespace PacketHeader
/-- `PacketHeader::BYTES` and `HEADER_BYTES`. -/
def BYTES : Nat := 13

def to_bytes (self : PacketHeader) : Written :=
  .ok (PacketType.into self.packet_type ::
    (toBE 2 self.packet_id.val.toNat ++ (toBE 2 self.last_ack_packet_id.val.toNat ++
    (toBE 4 self.ack_bitfield.toNat ++ toBE 4 self.tick.toNat))))

def from_bytes : Reader PacketHeader := do
  let packet_type ← read_u8
  let packet_id ← read_u16
  let last_ack_packet_id ← read_u16
  let ack_bitfield ← read_u32
  let tick ← read_u32
  let packet_type ← StateT.lift (PacketType.try_from packet_type)
  pure ⟨packet_type,⟨BitVec.ofNat 16 packet_id⟩,⟨BitVec.ofNat 16 last_ack_packet_id⟩,BitVec.ofNat 32 ack_bitfield,
    BitVec.ofNat 32 tick⟩
end PacketHeader

/-! ### Round trips -/

theorem reads_u8 (byte : Byte) : Reads read_u8 [byte] byte := fun _ => rfl

theorem reads_u16 (n : Nat) : Reads read_u16 (toBE 2 n) (n % 2 ^ 16) := Reads.ofBE .Io 2 n

theorem reads_u32 (n : Nat) : Reads read_u32 (toBE 4 n) (n % 2 ^ 32) := Reads.ofBE .Io 4 n

/-- The two top bits of a longer varint hold a tag; the rest of its bytes give back the value below them. -/
private theorem varint_tagged (more tag mask : Nat) {value : Nat} (small : value < 2 ^ (8 * more + 6)) (isTag : tag < 4)
    (isMask : mask = 2 ^ (8 * more + 6) - 1) :
    ∃ first, toBE (more + 1) (value ||| 2 ^ (8 * more + 6) * tag) =
        first :: toBE more (value ||| 2 ^ (8 * more + 6) * tag) ∧ first.toNat >>> 6 = tag ∧
      Reads (do let bytes ← take SerializationError.Io more; pure (ofBE (first :: bytes) &&& mask))
        (toBE more (value ||| 2 ^ (8 * more + 6) * tag)) value := by
  have sum : value ||| 2 ^ (8 * more + 6) * tag = 2 ^ (8 * more + 6) * tag + value := by
    rw [Nat.or_comm,Nat.two_pow_add_eq_or_of_lt small]
  rw [sum]
  refine ⟨_,rfl,?_,?_⟩
  · have width : 256 ^ more = 2 ^ (8 * more) := by rw [show 256 = 2 ^ 8 by rfl,← pow_mul]
    have split : 2 ^ (8 * more + 6) * tag + value = 2 ^ (8 * more) * (64 * tag) + value := by rw [pow_add]; ring
    have top : value / 2 ^ (8 * more) < 64 := by
      rw [Nat.div_lt_iff_lt_mul (by positivity),Nat.mul_comm,show 64 = 2 ^ 6 by rfl,← pow_add]
      exact small
    rw [UInt8.toNat_ofNat',width,split,Nat.mul_add_div (by positivity),Nat.shiftRight_eq_div_pow]
    generalize value / 2 ^ (8 * more) = high at top
    omega
  · have whole := ofBE_toBE (more + 1) (2 ^ (8 * more + 6) * tag + value)
    have width : 256 ^ (more + 1) = 2 ^ (8 * more + 6) * 4 := by
      rw [show 256 = 2 ^ 8 by rfl,← pow_mul,show 4 = 2 ^ 2 by rfl,← pow_add]
      congr 1
    rw [toBE,width] at whole
    have reads := (Reads.take SerializationError.Io (toBE more (2 ^ (8 * more + 6) * tag + value))).map
      fun bytes => ofBE (UInt8.ofNat ((2 ^ (8 * more + 6) * tag + value) / 256 ^ more) :: bytes) &&& mask
    rw [length_toBE,whole,isMask,Nat.and_two_pow_sub_one_eq_mod,Nat.mod_mul_right_mod,Nat.mul_add_mod,
      Nat.mod_eq_of_lt small] at reads
    rwa [isMask]

private theorem encodes_tagged (more tag mask : Nat) {value : Nat} (small : value < 2 ^ (8 * more + 6))
    (isTag : tag < 4)
    (isMask : mask = 2 ^ (8 * more + 6) - 1)
    (branch : ∀ first : Byte, first.toNat >>> 6 = tag →
      varint_rest first = do let bytes ← take .Io more; pure (ofBE (first :: bytes) &&& mask)) :
    Encodes (.ok (toBE (more + 1) (value ||| 2 ^ (8 * more + 6) * tag))) (more + 1) read_varint value := by
  obtain ⟨first,bytes,hasTag,reads⟩ := varint_tagged more tag mask small isTag isMask
  refine encodes_ok (length_toBE ..) ?_
  rw [bytes]
  rw [← branch first hasTag] at reads
  exact (reads_u8 first).bind reads

theorem varint_encodes {value : Nat} (fits : value < 2 ^ 62) :
    Encodes (write_varint value) (varint_len value) read_varint value := by
  by_cases one : value ≤ 63
  · have len : varint_len value = 1 := by simp [varint_len,one]
    have byte : (UInt8.ofNat value).toNat = value := by rw [UInt8.toNat_ofNat']; omega
    have tag : (UInt8.ofNat value).toNat >>> 6 = 0 := by rw [byte,Nat.shiftRight_eq_div_pow]; omega
    have branch : varint_rest (UInt8.ofNat value) = pure value := by
      simp only [varint_rest,varint_parse_len,tag]
      rw [byte]
    have reads := (reads_u8 (UInt8.ofNat value)).bind (branch ▸ Reads.pure value)
    have bytes : toBE 1 value = [UInt8.ofNat value] := by simp [toBE]
    rw [write_varint,len]
    refine encodes_ok (length_toBE ..) ?_
    rw [bytes]
    exact reads
  by_cases two : value ≤ 16383
  · have len : varint_len value = 2 := by simp [varint_len,one,two]
    rw [write_varint,len]
    exact encodes_tagged 1 1 0x3fff (by omega) (by omega) (by norm_num) fun first tag => by
      simp only [varint_rest,varint_parse_len,tag]
  by_cases four : value ≤ 1073741823
  · have len : varint_len value = 4 := by simp [varint_len,one,two,four]
    rw [write_varint,len]
    exact encodes_tagged 3 2 0x3fffffff (by omega) (by omega) (by norm_num) fun first tag => by
      simp only [varint_rest,varint_parse_len,tag]
  · have len : varint_len value = 8 := by simp [varint_len,one,two,four,show value ≤ 4611686018427387903 by omega]
    rw [write_varint,len]
    exact encodes_tagged 7 3 0x3fffffffffffffff (by omega) (by omega) (by norm_num) fun first tag => by
      simp only [varint_rest,varint_parse_len,tag]

theorem bytes_encodes {bytes : Bytes} (fits : bytes.length < 2 ^ 62) :
    Encodes (Bytes.to_bytes bytes) (Bytes.bytes_len bytes) Bytes.from_bytes bytes :=
  (varint_encodes fits).bind (encodes_ok rfl (Reads.take SerializationError.Io bytes))

theorem channel_encodes (channel : ChannelId) :
    Encodes (ChannelId.to_bytes channel) (ChannelId.bytes_len channel) ChannelId.from_bytes channel := by
  have fits : channel.toNat < 2 ^ 62 := by have := channel.isLt; omega
  have encodes := (varint_encodes fits).map fun n => BitVec.ofNat 16 n
  rwa [BitVec.ofNat_toNat,BitVec.setWidth_eq] at encodes

theorem id_encodes (id : WrappingId) :
    Encodes (WrappingId.to_bytes id) (WrappingId.bytes_len id) WrappingId.from_bytes id := by
  refine encodes_ok rfl ?_
  have reads := (reads_u16 id.val.toNat).map fun n => (⟨BitVec.ofNat 16 n⟩ : WrappingId)
  rwa [Nat.mod_eq_of_lt id.val.isLt,BitVec.ofNat_toNat,BitVec.setWidth_eq] at reads

theorem option_id_encodes (id : Option MessageId) :
    Encodes (OptionId.to_bytes id) (OptionId.bytes_len id) OptionId.from_bytes id := by
  cases id with
  | none => exact encodes_ok rfl ((reads_u8 0).bind (Reads.pure none))
  | some id =>
    have tag : Encodes (.ok [1] : Written) 1 read_u8 1 := encodes_ok rfl (reads_u8 1)
    exact tag.bind ((id_encodes id).map some)

theorem compression_encodes (compression : FragmentCompression) :
    Encodes (FragmentCompression.to_bytes compression) (FragmentCompression.bytes_len compression)
      FragmentCompression.from_bytes compression := by
  cases compression with
  | None => exact encodes_ok rfl ((reads_u8 0).bind (Reads.pure Message.FragmentCompression.None))
  | Lz4 => exact encodes_ok rfl ((reads_u8 1).bind (Reads.pure Message.FragmentCompression.Lz4))

theorem single_encodes {data : SingleData} (fits : data.bytes.length < 2 ^ 62) :
    Encodes (SingleData.to_bytes data) (SingleData.bytes_len data) SingleData.from_bytes data :=
  (option_id_encodes data.id).bind ((bytes_encodes fits).map fun bytes => (⟨data.id,bytes⟩ : SingleData))

/-- The fragments that a sender builds: the compression is with the first fragment of a message only. -/
structure WellFormed (data : FragmentData) : Prop where
  compression : data.compression.isSome = (data.fragment_id == 0)
  index : data.fragment_id < data.num_fragments
  count : data.num_fragments < 2 ^ 62
  bytes : data.bytes.length < 2 ^ 62

private theorem fragment_compression_encodes {data : FragmentData}
    (isSome : data.compression.isSome = (data.fragment_id == 0)) :
    Encodes (FragmentData.compression_to_bytes data)
      (if FragmentData.is_initial_fragment data then FragmentCompression.bytes_len .None else 0)
      (FragmentData.compression_from_bytes data.fragment_id) data.compression := by
  by_cases initial : data.fragment_id = 0
  · simp only [initial,beq_self_eq_true] at isSome
    obtain ⟨compression,is⟩ := Option.isSome_iff_exists.mp isSome
    have encodes := (compression_encodes compression).map some
    simpa [FragmentData.compression_to_bytes,FragmentData.compression_from_bytes,FragmentData.is_initial_fragment,
      initial,
      is,FragmentCompression.bytes_len] using encodes
  · have absent : data.compression = none := by
      rw [beq_eq_false_iff_ne.mpr initial] at isSome
      exact Option.isSome_eq_false_iff.mp isSome |> Option.isNone_iff_eq_none.mp
    have encodes : Encodes (.ok [] : Written) 0 (pure none) (none : Option Message.FragmentCompression) :=
      encodes_ok rfl (Reads.pure none)
    simpa [FragmentData.compression_to_bytes,FragmentData.compression_from_bytes,FragmentData.is_initial_fragment,
      initial,
      absent] using encodes

theorem fragment_fields_encode {data : FragmentData} (isSome : data.compression.isSome = (data.fragment_id == 0))
    (indexFits : data.fragment_id < 2 ^ 62) (countFits : data.num_fragments < 2 ^ 62)
    (bytesFit : data.bytes.length < 2 ^ 62) :
    Encodes (FragmentData.to_bytes data) (FragmentData.bytes_len data) FragmentData.from_bytes data := by
  have id := id_encodes data.message_id
  have index : Encodes (FragmentIndex.to_bytes data.fragment_id) _ FragmentIndex.from_bytes data.fragment_id :=
    varint_encodes indexFits
  have count : Encodes (FragmentIndex.to_bytes data.num_fragments) _ FragmentIndex.from_bytes data.num_fragments :=
    varint_encodes countFits
  have bytes := bytes_encodes bytesFit
  have compression := fragment_compression_encodes isSome
  rw [FragmentData.to_bytes,id.ok,index.ok,count.ok,compression.ok,bytes.ok]
  refine encodes_ok ?_ (id.reads.bind (index.reads.bind (count.reads.bind (compression.reads.bind
    (bytes.reads.map fun bytes => (⟨data.message_id,data.fragment_id,data.num_fragments,data.compression,bytes⟩
      : FragmentData))))))
  simp only [List.length_append,id.length,index.length,count.length,compression.length,bytes.length]
  simp only [FragmentData.bytes_len,FragmentIndex.bytes_len]
  omega

theorem fragment_encodes {data : FragmentData} (formed : WellFormed data) :
    Encodes (FragmentData.to_bytes data) (FragmentData.bytes_len data) FragmentData.from_bytes data :=
  fragment_fields_encode formed.compression (Nat.lt_trans formed.index formed.count) formed.count formed.bytes

theorem header_encodes (header : PacketHeader) :
    Encodes (PacketHeader.to_bytes header) PacketHeader.BYTES PacketHeader.from_bytes header := by
  have type : Reads (StateT.lift (PacketType.try_from (PacketType.into header.packet_type))) [] header.packet_type := by
    cases header.packet_type <;> exact fun _ => rfl
  refine encodes_ok (by simp [PacketHeader.BYTES]) ?_
  rw [← List.append_nil (toBE 4 header.tick.toNat)]
  refine (reads_u8 _).bind ((reads_u16 _).bind ((reads_u16 _).bind ((reads_u32 _).bind ((reads_u32 _).bind ?_))))
  have made := type.map fun packet_type =>
    (⟨packet_type,header.packet_id,header.last_ack_packet_id,header.ack_bitfield,header.tick⟩ : PacketHeader)
  have back : ∀ {width : Nat} (v : BitVec width), BitVec.ofNat width (v.toNat % 2 ^ width) = v := by
    intro width v
    rw [Nat.mod_eq_of_lt v.isLt,BitVec.ofNat_toNat,BitVec.setWidth_eq]
  simp only [back]
  exact made

theorem consumes_u8 : Consumes read_u8 1 := by
  intro input a rest parsed
  cases input with
  | nil => cases parsed
  | cons byte input =>
    cases parsed
    exact le_refl _

private theorem consumes_take (count : Nat) : Consumes (take SerializationError.Io count) 0 :=
  (Consumes.take SerializationError.Io count).weaken

theorem consumes_varint : Consumes read_varint 1 := by
  refine consumes_u8.bind fun first => ?_
  unfold varint_rest
  split
  · exact Consumes.pure _
  · exact (consumes_take 1).bind fun _ => Consumes.pure _
  · exact (consumes_take 3).bind fun _ => Consumes.pure _
  · exact (consumes_take 7).bind fun _ => Consumes.pure _

theorem consumes_channel : Consumes ChannelId.from_bytes 1 := consumes_varint.bind fun _ => Consumes.pure _

theorem consumes_single : Consumes SingleData.from_bytes 1 := by
  have id : Consumes WrappingId.from_bytes 0 :=
    Consumes.bind ((consumes_take 2).bind fun _ => Consumes.pure _) fun _ => Consumes.pure _
  have option_id : Consumes OptionId.from_bytes 1 := by
    refine consumes_u8.bind fun tag => ?_
    split_ifs
    · exact id.bind fun _ => Consumes.pure _
    · exact Consumes.pure _
  have bytes : Consumes Bytes.from_bytes 1 := consumes_varint.bind fun _ => consumes_take _
  exact option_id.bind fun _ => bytes.weaken.bind fun _ => Consumes.pure _

end Lightyear.Serde
