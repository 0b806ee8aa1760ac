import Lightyear.Receive
import Lightyear.ReceiveLoop

/-!
One packet in the receive system of `plugin.rs`: its header is recorded before its body
is read. Every message of a packet that is acknowledged has reached its channel only if
nothing in the body made the loop stop early.
-/
namespace Lightyear.TransportReceive
open Maps (Map)
open Codec
open Lightyear.Ids Lightyear.Ids.WrappingId Lightyear.Message Lightyear.Compression Lightyear.Header Lightyear.Serde
open Lightyear.Packets Lightyear.AckBits Lightyear.Receive Lightyear.ReceiveLoop

/-- What the receive system uses of a `Transport`. -/
structure Transport where
  header_manager : PacketHeaderManager
  receivers : Map ChannelId ChannelReceive
  compression : CompressionConfig

/-- The channels while a packet is read, and the messages of it that one of them was given. -/
structure Receivers where
  channels : Map ChannelId ChannelReceive
  handed : List (ChannelId × MessageData)

/-- `receivers.get_mut(&channel_id).ok_or(ChannelNotFound)?.buffer_recv(..)?` -/
def buffer_recv (lz4 : Lz4) (compression : CompressionConfig) (remote_sent_tick : Tick) : Handler Receivers :=
  fun receivers channel_id data =>
    match receivers.channels.lookup channel_id with
    | none => (receivers,.error (.PacketError .ChannelNotFound))
    | some channel =>
      match channel.buffer_recv lz4 ⟨data,remote_sent_tick,compression⟩ with
      | (channel,outcome) =>
        let receivers : Receivers :=
          ⟨receivers.channels.insert channel_id channel,receivers.handed ++ [(channel_id,data)]⟩
        match outcome with
        | .error error => (receivers,.error (.ChannelReceiveError error))
        | .ok () => (receivers,.ok ())

/-- The closure of `buffer_receive` for one packet, with the messages that it handed to a channel. -/
def receive_packet (lz4 : Lz4) (self : Transport) (packet : Bytes) (real : Duration) :
    Transport × List (ChannelId × MessageData) × Except TransportError Unit :=
  match PacketHeader.from_bytes packet with
  | .error error => (self,[],.error (.SerializationError error))
  | .ok (header,cursor) =>
    let header_manager := self.header_manager.process_recv_packet_header header real
    match receive_payload (buffer_recv lz4 self.compression header.tick) lz4 self.compression header.packet_type
        ⟨self.receivers,[]⟩ cursor with
    | (receivers,outcome) =>
      ({ self with header_manager := header_manager,receivers := receivers.channels },receivers.handed,outcome)

/-- The ids that the next header acknowledges. -/
def advertised (self : PacketHeaderManager) : List PacketId := acks (self.preview_send_packet_header .AckOnly 0)

/-- More than 32 packets behind the newest one. -/
def TooOld (self : PacketHeaderManager) (id : PacketId) : Prop :=
  ∃ last, self.recv_buffer.last_recv_packet_id = some last ∧ last.sub id > 32

/-- A packet that has just been received is acknowledged, unless it is too old. -/
theorem advertised_iff (self : PacketHeaderManager) (header : PacketHeader) (real : Duration) :
    header.packet_id ∈ advertised (self.process_recv_packet_header header real) ↔ ¬ TooOld self header.packet_id := by
  obtain ⟨ids,acknowledged⟩ := process_acknowledged self header real
  have recv : (self.process_recv_packet_header header real).recv_buffer =
      self.recv_buffer.recv_packet header.packet_id :=
    acknowledged.recv
  rw [advertised,mem_acks]
  simp only [PacketHeaderManager.preview_send_packet_header,recv]
  cases first : self.recv_buffer.last_recv_packet_id with
  | none => simp [ReceiveBuffer.recv_packet,first,TooOld]
  | some last =>
    have old : TooOld self header.packet_id ↔ last.sub header.packet_id > 32 := by simp [TooOld,first]
    obtain ⟨n,-,rfl⟩ := ofIndex_surjective last
    have id := ofIndex_sub_sub n header.packet_id
    simp only [old,ReceiveBuffer.recv_packet,first]
    generalize difference : (ofIndex n).sub header.packet_id = diff at id
    by_cases tooOld : diff > 32
    · simp only [ack_bitfield_size,if_pos (show diff > ((32 : Nat) : Int) by exact_mod_cast tooOld),first,
        Option.getD_some,
        tooOld,not_true,iff_false]
      rintro (last | ⟨i,low,-,earlier⟩)
      · rw [last,sub_ofIndex (by omega) (by omega)] at difference
        omega
      · rw [earlier,wrapping_sub_ofIndex,sub_ofIndex (by omega) (by omega)] at difference
        omega
    simp only [ack_bitfield_size,if_neg (show ¬ diff > ((32 : Nat) : Int) by exact_mod_cast tooOld),tooOld,
      not_false_eq_true,
      iff_true]
    by_cases older : diff > 0
    · simp only [if_pos older]
      right
      refine ⟨diff.toNat - 1,by omega,?_,?_⟩
      · rw [get_bitfield_bit _ (by omega),
          Ring.get?_setBack _ _ (by omega) (show diff.toNat - 1 < 32 by omega),if_pos (by omega)]
        rfl
      · rw [Option.getD_some,wrapping_sub_ofIndex,← id]
        congr 1
        omega
    · left
      by_cases newer : diff < 0
      · simp [older,newer]
      · have same : diff = 0 := by omega
        rw [same,sub_zero] at id
        simp [older,newer,first,id]

/-- A configuration that decompresses everything: the size prefix has 32 bits. -/
def unlimited : CompressionConfig := ⟨some .Lz4,0,2 ^ 32⟩

/-- The uncompressed body of a packet. -/
def body_of (lz4 : Lz4) (compression : CompressionConfig) (packet_type : PacketType) (cursor : Bytes) :
    Except PacketError Bytes :=
  if PacketType.is_compressed packet_type then decompress_payload lz4 cursor compression else .ok cursor

/-- The messages and the fragment in a packet, whatever the receiver is configured to. -/
def contained (lz4 : Lz4) (packet : Bytes) : List (ChannelId × MessageData) :=
  match PacketHeader.from_bytes packet with
  | .error _ => []
  | .ok (header,cursor) =>
    match body_of lz4 unlimited header.packet_type cursor with
    | .error _ => []
    | .ok body => (decode_body (PacketType.uncompressed_variant header.packet_type) body).1

private theorem uncompressed_size_lt {payload block : Bytes} {size : Nat}
    (read : uncompressed_size payload = some (size,block)) : size < 2 ^ 32 := by
  match payload,read with
  | a :: b :: c :: d :: rest,read =>
    cases read
    have := a.toNat_lt
    have := b.toNat_lt
    have := c.toNat_lt
    have := d.toNat_lt
    omega

/-- What a receiver can decompress does not depend on its configuration. -/
private theorem body_of_unlimited {lz4 : Lz4} {compression : CompressionConfig} {packet_type : PacketType}
    {cursor body : Bytes} (readable : body_of lz4 compression packet_type cursor = .ok body) :
    body_of lz4 unlimited packet_type cursor = .ok body := by
  unfold body_of at readable ⊢
  by_cases compressed : PacketType.is_compressed packet_type = true
  · rw [if_pos compressed] at readable ⊢
    simp only [decompress_payload,unlimited]
    cases algorithm : compression.algorithm with
    | none => simp [decompress_payload,algorithm] at readable
    | some which =>
      cases which
      simp only [decompress_payload,algorithm,decompress_lz4] at readable ⊢
      cases prefixed : uncompressed_size cursor with
      | none => simp [prefixed] at readable
      | some read =>
        obtain ⟨size,block⟩ := read
        have small := uncompressed_size_lt prefixed
        simp only [prefixed] at readable ⊢
        rw [if_neg (by omega)]
        split at readable
        · cases readable
        · exact readable
  · rw [if_neg compressed] at readable ⊢
    exact readable

private theorem receive_payload_eq {σ : Type} (handle : Handler σ) (lz4 : Lz4) (compression : CompressionConfig)
    (packet_type : PacketType) (s : σ) (cursor : Bytes) :
    receive_payload handle lz4 compression packet_type s cursor =
      match body_of lz4 compression packet_type cursor with
      | .error error => (s,.error (.PacketError error))
      | .ok body => hand_over handle s (decode_body (PacketType.uncompressed_variant packet_type) body) := by
  unfold receive_payload body_of
  by_cases compressed : PacketType.is_compressed packet_type = true
  · rw [if_pos compressed,if_pos compressed]
    cases decompress_payload lz4 cursor compression with
    | error error => rfl
    | ok body => exact receive_body_eq ..
  · have same : PacketType.uncompressed_variant packet_type = packet_type := by
      cases packet_type with
      | DataCompressed => exact absurd rfl compressed
      | DataFragmentCompressed => exact absurd rfl compressed
      | _ => rfl
    rw [if_neg compressed,if_neg compressed]
    simp only [receive_body_eq,same]

/-! ### Acknowledged and handed over -/

/-- If the packet is acknowledged, then every message in it was handed to its channel. -/
def AckedImpliesHanded (lz4 : Lz4) (self : Transport) (packet : Bytes) (real : Duration) : Prop :=
  ∀ header cursor, PacketHeader.from_bytes packet = .ok (header,cursor) →
    header.packet_id ∈ advertised (receive_packet lz4 self packet real).1.header_manager →
    (receive_packet lz4 self packet real).2.1 = contained lz4 packet

/-- Every message has a channel, and each but the last one is accepted by it. -/
def Accepted (lz4 : Lz4) (compression : CompressionConfig) (tick : Tick) :
    Map ChannelId ChannelReceive → List (ChannelId × MessageData) → Prop
  | _,[] => True
  | channels,(channel_id,data) :: messages => ∃ channel, channels.lookup channel_id = some channel ∧
    (messages = [] ∨ (channel.buffer_recv lz4 ⟨data,tick,compression⟩).2 = .ok () ∧
      Accepted lz4 compression tick
        (channels.insert channel_id (channel.buffer_recv lz4 ⟨data,tick,compression⟩).1) messages)

/-- The loop does not stop early: the body is readable under the configuration, and its messages are accepted. -/
def Undisturbed (lz4 : Lz4) (self : Transport) (packet : Bytes) : Prop :=
  ∀ header cursor, PacketHeader.from_bytes packet = .ok (header,cursor) →
    TooOld self.header_manager header.packet_id ∨ contained lz4 packet = [] ∨
    (∃ body, body_of lz4 self.compression header.packet_type cursor = .ok body) ∧
      Accepted lz4 self.compression header.tick self.receivers (contained lz4 packet)

private theorem deliver_handed (lz4 : Lz4) (compression : CompressionConfig) (tick : Tick)
    (messages before : List (ChannelId × MessageData)) (channels : Map ChannelId ChannelReceive) :
    (deliver (buffer_recv lz4 compression tick) ⟨channels,before⟩ messages).1.handed = before ++ messages ↔
      Accepted lz4 compression tick channels messages := by
  induction messages generalizing before channels with
  | nil => simp [deliver,Accepted]
  | cons message messages ih =>
    obtain ⟨channel_id,data⟩ := message
    cases registered : channels.lookup channel_id with
    | none => simp [deliver,buffer_recv,registered,Accepted]
    | some channel =>
      cases given : channel.buffer_recv lz4 ⟨data,tick,compression⟩ with
      | mk channel' outcome =>
        cases outcome with
        | error error => simp [deliver,buffer_recv,registered,given,Accepted]
        | ok _ =>
          have rest := ih (before ++ [(channel_id,data)]) (channels.insert channel_id channel')
          rw [List.append_assoc,List.singleton_append] at rest
          simp only [deliver,buffer_recv,registered,given,Accepted,rest,Option.some.injEq,exists_eq_left',true_and]
          constructor
          · exact .inr
          · rintro (rfl | accepted)
            · trivial
            · exact accepted

private theorem hand_over_state {σ α : Type} (handle : Handler σ) (s : σ)
    (read : List (ChannelId × MessageData) × Except TransportError α) :
    (hand_over handle s read).1 = (deliver handle s read.1).1 := by
  unfold hand_over
  cases deliver handle s read.1 with
  | mk s₁ outcome =>
    cases outcome with
    | error error => rfl
    | ok _ => rfl

/-- A packet that is acknowledged was handed over completely exactly when nothing disturbed its reading. -/
theorem acked_handed_iff (lz4 : Lz4) (self : Transport) (packet : Bytes) (real : Duration) :
    AckedImpliesHanded lz4 self packet real ↔ Undisturbed lz4 self packet := by
  unfold AckedImpliesHanded Undisturbed
  refine forall_congr' fun header => forall_congr' fun cursor => forall_congr' fun decoded => ?_
  have manager : (receive_packet lz4 self packet real).1.header_manager =
      self.header_manager.process_recv_packet_header header real := by
    simp only [receive_packet,decoded]
  rw [manager,advertised_iff]
  by_cases tooOld : TooOld self.header_manager header.packet_id
  · simp [tooOld]
  simp only [tooOld,not_false_eq_true,true_implies,false_or]
  cases readable : body_of lz4 self.compression header.packet_type cursor with
  | error error =>
    have nothing : (receive_packet lz4 self packet real).2.1 = [] := by
      simp only [receive_packet,decoded,receive_payload_eq,readable]
    rw [nothing]
    constructor
    · exact fun same => .inl same.symm
    · rintro (empty | ⟨⟨body,impossible⟩,-⟩)
      · exact empty.symm
      · cases impossible
  | ok body =>
    have inside : contained lz4 packet = (decode_body (PacketType.uncompressed_variant header.packet_type) body).1 := by
      simp only [contained,decoded,body_of_unlimited readable]
    have handed : (receive_packet lz4 self packet real).2.1 =
        (deliver (buffer_recv lz4 self.compression header.tick) ⟨self.receivers,[]⟩
          (contained lz4 packet)).1.handed := by
      rw [inside,← hand_over_state]
      simp only [receive_packet,decoded,receive_payload_eq,readable]
    have all := deliver_handed lz4 self.compression header.tick (contained lz4 packet) [] self.receivers
    rw [List.nil_append] at all
    rw [handed,all]
    constructor
    · exact fun accepted => .inr ⟨⟨body,rfl⟩,accepted⟩
    · rintro (empty | ⟨-,accepted⟩)
      · rw [empty]
        trivial
      · exact accepted

/-- A packet with a message for a channel that is not registered, then one for a reliable channel. -/
def mixed_packet : Bytes := [0,0,0,255,255,0,0,0,0,0,0,0,0] ++ [7,1,0,1,9] ++ [1,1,1,0,0,1,42]

/-- The packet is acknowledged, and its reliable message is not handed over. -/
theorem mixed_packet_loses :
    ¬ AckedImpliesHanded Lz4.literals
      ⟨.new,AList.insert 1 (.new .OrderedReliable 1000 (by decide)) ∅,.DISABLED⟩ mixed_packet 0 := by
  intro handed
  have all := handed ⟨.Data,⟨0⟩,⟨BitVec.allOnes 16⟩,0,0⟩ ([7,1,0,1,9] ++ [1,1,1,0,0,1,42]) rfl (by decide)
  revert all
  decide

end Lightyear.TransportReceive
