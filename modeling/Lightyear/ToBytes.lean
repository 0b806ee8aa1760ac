import Lightyear.Serde

/-!
The generic `ToBytes` implementations of the `serde` crate, and the round trip of
every codec that the transport frames its packets with: what is read back and how many
bytes were written, whatever bytes follow.
-/
namespace Lightyear.Serde
open Codec
open Lightyear.Ids Lightyear.Message Lightyear.Header

/-- `trait ToBytes` -/
structure ToBytes (M : Type) where
  bytes_len : M → Nat
  to_bytes : M → Written
  from_bytes : Reader M

namespace ToBytes

def u8 : ToBytes Byte := ⟨fun _ => 1,fun value => .ok [value],read_u8⟩

/-- `write_varint` and `read_varint`. -/
def varint : ToBytes Nat := ⟨varint_len,write_varint,read_varint⟩

def bytes : ToBytes Bytes := ⟨Bytes.bytes_len,Bytes.to_bytes,Bytes.from_bytes⟩

def single_data : ToBytes SingleData := ⟨SingleData.bytes_len,SingleData.to_bytes,SingleData.from_bytes⟩

def fragment_data : ToBytes FragmentData := ⟨FragmentData.bytes_len,FragmentData.to_bytes,FragmentData.from_bytes⟩

def Tick.bytes_len (_self : Tick) : Nat := 4

def packet_header : ToBytes PacketHeader where
  bytes_len self := 1 + WrappingId.bytes_len self.packet_id + WrappingId.bytes_len self.last_ack_packet_id + 4 +
    Tick.bytes_len self.tick
  to_bytes := PacketHeader.to_bytes
  from_bytes := PacketHeader.from_bytes

variable {M : Type}

/-- `Option<M>`: any tag but 0 announces a value. -/
def option (codec : ToBytes M) : ToBytes (Option M) where
  bytes_len
    | some value => 1 + codec.bytes_len value
    | none => 1
  to_bytes
    | some value => do
      let tag ← .ok [1]
      let value ← codec.to_bytes value
      pure (tag ++ value)
    | none => .ok [0]
  from_bytes := do
    let tag ← read_u8
    if tag ≠ 0 then do
      let value ← codec.from_bytes
      pure (some value)
    else pure none

def write_items (codec : ToBytes M) : List M → Written
  | [] => .ok []
  | item :: items => do
    let first ← codec.to_bytes item
    let rest ← write_items codec items
    pure (first ++ rest)

/-- The loop of `Vec::from_bytes`, for any way to read an item. -/
def read_items {m : Type → Type} [Monad m] (item : m M) : Nat → m (List M)
  | 0 => pure []
  | len + 1 => do
    let first ← item
    let rest ← read_items item len
    pure (first :: rest)

/-- `Vec<M>`, and `SmallVec` with the same framing. -/
def vec (codec : ToBytes M) : ToBytes (List M) where
  bytes_len self := varint_len self.length + (self.map codec.bytes_len).sum
  to_bytes self := do
    let len ← write_varint self.length
    let items ← write_items codec self
    pure (len ++ items)
  from_bytes := do
    let len ← read_varint
    read_items codec.from_bytes len

/-- A value is written in `bytes_len` bytes, from which another one is read back, with what follows them left. -/
def ReadsBack (codec : ToBytes M) (value back : M) : Prop :=
  ∃ bytes, codec.to_bytes value = .ok bytes ∧ bytes.length = codec.bytes_len value ∧
    ∀ rest, codec.from_bytes (bytes ++ rest) = .ok (back,rest)

abbrev RoundTrips (codec : ToBytes M) (value : M) : Prop := codec.ReadsBack value value

theorem readsBack_iff (codec : ToBytes M) (value back : M) :
    codec.ReadsBack value back ↔ Encodes (codec.to_bytes value) (codec.bytes_len value) codec.from_bytes back := by
  constructor
  · rintro ⟨bytes,written,length,reads⟩
    rw [written]
    exact encodes_ok length reads
  · exact fun encodes => ⟨_,encodes.ok,encodes.length,encodes.reads⟩

/-- Only one value is read back. -/
theorem ReadsBack.unique {codec : ToBytes M} {value back other : M} (one : codec.ReadsBack value back)
    (another : codec.ReadsBack value other) : back = other := by
  obtain ⟨bytes,written,-,reads⟩ := one
  obtain ⟨bytes',written',-,reads'⟩ := another
  cases written.symm.trans written'
  exact (Prod.mk.inj (Except.ok.inj ((reads []).symm.trans (reads' [])))).1

theorem option_round_trip (codec : ToBytes M) (value : Option M) (each : ∀ inner ∈ value, codec.RoundTrips inner) :
    codec.option.RoundTrips value := by
  refine (readsBack_iff ..).mpr ?_
  cases value with
  | none => exact encodes_ok rfl ((reads_u8 0).bind (Reads.pure none))
  | some inner =>
    have encodes := (readsBack_iff codec inner inner).mp (each inner rfl)
    have tag : Encodes (.ok [1] : Written) 1 read_u8 1 := encodes_ok rfl (reads_u8 1)
    exact tag.bind (encodes.map some)

private theorem items_encode (codec : ToBytes M) (values : List M) (each : ∀ item ∈ values, codec.RoundTrips item) :
    Encodes (codec.write_items values) (values.map codec.bytes_len).sum
      (read_items codec.from_bytes values.length) values := by
  induction values with
  | nil => exact encodes_ok rfl (Reads.pure [])
  | cons item values ih =>
    have first := (readsBack_iff codec item item).mp (each item List.mem_cons_self)
    have rest := ih fun other member => each other (List.mem_cons_of_mem _ member)
    exact first.bind (rest.map (item :: ·))

theorem vec_round_trip (codec : ToBytes M) (values : List M) (fits : values.length < 2 ^ 62)
    (each : ∀ item ∈ values, codec.RoundTrips item) : codec.vec.RoundTrips values :=
  (readsBack_iff ..).mpr ((varint_encodes fits).bind (items_encode codec values each))

/-- What the wire keeps of a fragment: the compression of the first one, and of no other. -/
def on_wire (fragment : FragmentData) : FragmentData :=
  { fragment with compression := if fragment.fragment_id = 0 then some (fragment.compression.getD .None) else none }

private theorem fragment_reads_back (fragment : FragmentData) (indexFits : fragment.fragment_id < 2 ^ 62)
    (countFits : fragment.num_fragments < 2 ^ 62) (bytesFit : fragment.bytes.length < 2 ^ 62) :
    fragment_data.ReadsBack fragment (on_wire fragment) := by
  have isSome : (on_wire fragment).compression.isSome = ((on_wire fragment).fragment_id == 0) := by
    by_cases initial : fragment.fragment_id = 0 <;> simp [on_wire,initial]
  have compression : FragmentData.compression_to_bytes (on_wire fragment) =
      FragmentData.compression_to_bytes fragment := by
    by_cases initial : fragment.fragment_id = 0 <;>
      simp [on_wire,FragmentData.compression_to_bytes,FragmentData.is_initial_fragment,initial]
  have written : FragmentData.to_bytes (on_wire fragment) = FragmentData.to_bytes fragment := by
    rw [FragmentData.to_bytes,FragmentData.to_bytes,compression]
    rfl
  have encodes := fragment_fields_encode isSome indexFits countFits bytesFit
  rw [written] at encodes
  exact (readsBack_iff ..).mpr encodes

theorem on_wire_eq_iff (fragment : FragmentData) :
    on_wire fragment = fragment ↔ fragment.compression.isSome = (fragment.fragment_id == 0) := by
  obtain ⟨message_id,fragment_id,num_fragments,compression,bytes⟩ := fragment
  by_cases initial : fragment_id = 0 <;> cases compression <;> simp [on_wire,initial]

/-- Every codec reads back what was written, in as many bytes as it announces. Of a fragment it is what the wire keeps:
the fragment itself exactly if it is the first of its message and names a compression, or neither. -/
theorem codecs_round_trip :
    (∀ value : Nat, value < 2 ^ 62 → varint.RoundTrips value) ∧
    (∀ value : Bytes, value.length < 2 ^ 62 → bytes.RoundTrips value) ∧
    (∀ (M : Type) (codec : ToBytes M) (value : Option M), (∀ inner ∈ value, codec.RoundTrips inner) →
      codec.option.RoundTrips value) ∧
    (∀ (M : Type) (codec : ToBytes M) (values : List M), values.length < 2 ^ 62 →
      (∀ item ∈ values, codec.RoundTrips item) → codec.vec.RoundTrips values) ∧
    (∀ data : SingleData, data.bytes.length < 2 ^ 62 → single_data.RoundTrips data) ∧
    (∀ header : PacketHeader, packet_header.RoundTrips header) ∧
    ∀ fragment : FragmentData, fragment.fragment_id < 2 ^ 62 → fragment.num_fragments < 2 ^ 62 →
      fragment.bytes.length < 2 ^ 62 → fragment_data.ReadsBack fragment (on_wire fragment) ∧
        (fragment_data.RoundTrips fragment ↔ fragment.compression.isSome = (fragment.fragment_id == 0)) := by
  refine ⟨fun value fits => (readsBack_iff ..).mpr (varint_encodes fits),
    fun value fits => (readsBack_iff ..).mpr (bytes_encodes fits),fun M codec => option_round_trip codec,
    fun M codec => vec_round_trip codec,fun data fits => (readsBack_iff ..).mpr (single_encodes fits),
    fun header => (readsBack_iff ..).mpr (header_encodes header),fun fragment indexFits countFits bytesFit => ?_⟩
  have reads := fragment_reads_back fragment indexFits countFits bytesFit
  rw [← on_wire_eq_iff]
  exact ⟨reads,fun same => reads.unique same,fun same => by rw [same] at reads; exact reads⟩

/-- The lengths of two byte strings, one of which is absent, at a boundary of the varint lengths. -/
theorem codecs_round_trip_options : bytes.option.vec.RoundTrips [none,some (List.replicate 64 0)] := by
  obtain ⟨-,readBytes,readOption,readVec,-⟩ := codecs_round_trip
  refine readVec _ _ _ (by decide)
    (List.forall_mem_cons.mpr ⟨?_,List.forall_mem_cons.mpr ⟨?_,fun _ none => nomatch none⟩⟩)
  · exact readOption _ _ _ fun _ none => nomatch none
  · exact readOption _ _ _ fun inner isSome => Option.some.inj isSome ▸ readBytes _ (by decide)

/-- A first fragment without a compression is read back with the compression `None`. -/
theorem absent_compression_read_back :
    ¬ ∀ fragment : FragmentData, fragment.fragment_id < 2 ^ 62 → fragment.num_fragments < 2 ^ 62 →
      fragment.bytes.length < 2 ^ 62 → fragment_data.RoundTrips fragment := by
  intro roundTrips
  have reads := fragment_reads_back ⟨⟨0⟩,0,1,none,[]⟩ (by decide) (by decide) (by decide)
  exact absurd (reads.unique (roundTrips _ (by decide) (by decide) (by decide))) (by decide)

end ToBytes
end Lightyear.Serde
