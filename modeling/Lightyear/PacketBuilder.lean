import Lightyear.Packets

/-!
`packet/packet_builder.rs`: packets are staged from an ordered list of candidates. The
buffer pools are left out, so that the builder is its header manager.
-/
namespace Lightyear.PacketBuilder
open Codec
open Lightyear.Ids Lightyear.Message Lightyear.Compression Lightyear.Header Lightyear.Serde Lightyear.Packets

/-- The position in the candidates of one flush. -/
structure CandidateCursor where
  index : Nat
  single_index : Nat
deriving DecidableEq, Repr

/-- The open batch: `count` mirrors the byte at `count_offset` of the payload. -/
structure SingleBatchState where
  channel_id : ChannelId
  count_offset : Nat
  count : Byte
deriving DecidableEq, Repr

def MAX_MESSAGES_PER_CHANNEL_BATCH : Byte := 255

/-- `PacketBuilder::new_staged_packet` -/
def new_staged_packet (self : PacketHeaderManager) (packet_type : PacketType) (current_tick : Tick) :
    Except PacketError Packet :=
  let header := self.preview_send_packet_header packet_type current_tick
  match write_to_payload (PacketHeader.to_bytes header) [] with
  | .error error => .error error
  | .ok payload => .ok ⟨payload,[],header.packet_id,none⟩

def open_batch (payload : Bytes) (channel_id : ChannelId) : Except PacketError (Bytes × SingleBatchState) :=
  match write_to_payload (ChannelId.to_bytes channel_id) payload with
  | .error error => .error error
  | .ok payload =>
    let count_offset := payload.length
    match write_to_payload (.ok [1]) payload with
    | .error error => .error error
    | .ok payload => .ok (payload,⟨channel_id,count_offset,1⟩)

/-- One more message in the open batch if it is the channel's and has room, else in a new one. -/
def count_in_batch (payload : Bytes) (channel_id : ChannelId) (batch : Option SingleBatchState) :
    Except PacketError (Bytes × SingleBatchState) :=
  match batch with
  | none => open_batch payload channel_id
  | some state =>
    if state.channel_id = channel_id ∧ state.count < MAX_MESSAGES_PER_CHANNEL_BATCH then
      .ok (payload.set state.count_offset (state.count + 1),{ state with count := state.count + 1 })
    else open_batch payload channel_id

def fits (lz4 : Lz4) (payload : Bytes) (compression : CompressionConfig) (mtu : Nat) : Except PacketError Bool :=
  if payload.length ≤ mtu then .ok true
  else if is_enabled compression then
    match evaluate_packet_compression lz4 payload compression mtu with
    | .error error => .error error
    | .ok (.Compressed _ _,_) => .ok true
    | .ok _ => .ok false
  else .ok false

/-- What a rejected candidate leaves: the count of the open batch is put back and the rest cut off. -/
def roll_back (packet : Packet) (payload_len metadata_len : Nat) (previous_batch : Option SingleBatchState) : Packet :=
  let payload :=
    match previous_batch with
    | some previous => packet.payload.set previous.count_offset previous.count
    | none => packet.payload
  { packet with payload := payload.take payload_len,messages := packet.messages.take metadata_len }

/-- `PacketBuilder::try_append_single_candidate` -/
def try_append_single_candidate (lz4 : Lz4) (packet : Packet) (candidate : SendCandidate)
    (batch : Option SingleBatchState) (compression : CompressionConfig) (mtu : Nat) :
    Except PacketError (Bool × Packet × Option SingleBatchState) :=
  match candidate.data with
  | .Fragment _ => .ok (false,packet,batch)
  | .Single message =>
    match count_in_batch packet.payload candidate.channel_id batch with
    | .error error => .error error
    | .ok (payload,state) =>
      match write_to_payload (SingleData.to_bytes message) payload with
      | .error error => .error error
      | .ok payload =>
        let appended := { packet with payload := payload }.record_message_metadata candidate.channel_id message.id none
          ⟨candidate.channel_kind,candidate.key⟩
        match fits lz4 payload compression mtu with
        | .error error => .error error
        | .ok true => .ok (true,appended,some state)
        | .ok false => .ok (false,roll_back appended packet.payload.length packet.messages.length batch,batch)

/-- The loop that fills a packet of single messages, from the candidate at `index` on. -/
def append_singles (lz4 : Lz4) (compression : CompressionConfig) (mtu : Nat) :
    List SendCandidate → Packet → Option SingleBatchState → Nat → Except PacketError (Packet × Nat)
  | [],packet,_,index => .ok (packet,index)
  | candidate :: rest,packet,batch,index =>
    match candidate.data with
    | .Fragment _ => .ok (packet,index)
    | .Single _ =>
      match try_append_single_candidate lz4 packet candidate batch compression mtu with
      | .error error => .error error
      | .ok (false,packet,_) => .ok (packet,index)
      | .ok (true,packet,batch) => append_singles lz4 compression mtu rest packet batch (index + 1)

/-- The loop that puts singles of the same priority behind a last fragment, from the one at `single_index` on. -/
def append_tail (lz4 : Lz4) (effective_priority : BitVec 32) (mtu : Nat) :
    List SendCandidate → Packet → Option SingleBatchState → Nat → Except PacketError (Packet × Nat)
  | [],packet,_,single_index => .ok (packet,single_index)
  | candidate :: rest,packet,batch,single_index =>
    if candidate.effective_priority ≠ effective_priority then .ok (packet,single_index)
    else
      match candidate.data with
      | .Fragment _ => append_tail lz4 effective_priority mtu rest packet batch (single_index + 1)
      | .Single _ =>
        match try_append_single_candidate lz4 packet candidate batch .DISABLED mtu with
        | .error error => .error error
        | .ok (false,packet,_) => .ok (packet,single_index)
        | .ok (true,packet,batch) => append_tail lz4 effective_priority mtu rest packet batch (single_index + 1)

/-- `PacketBuilder::finish_compression_aware_packet`: only a compressed packet may have been too large. -/
def finish_compression_aware_packet (lz4 : Lz4) (packet : Packet) (compression : CompressionConfig) (mtu : Nat) :
    Except PacketError Packet :=
  let uncompressed_len := packet.payload.length
  match compress_packet lz4 packet compression mtu with
  | .error error => .error error
  | .ok (.Compressed _ _,packet) => .ok packet
  | .ok (_,packet) => if uncompressed_len > mtu then .error (.PacketTooLarge uncompressed_len mtu) else .ok packet

/-- The branch of `build_next_packet` for a fragment; the cursor is past it. -/
def stage_fragment (lz4 : Lz4) (self : PacketHeaderManager) (current_tick : Tick) (candidates : List SendCandidate)
    (first : SendCandidate) (fragment : FragmentData) (cursor : CandidateCursor) (mtu : Nat) :
    Except PacketError (Packet × CandidateCursor) :=
  match new_staged_packet self .DataFragment current_tick with
  | .error error => .error error
  | .ok packet =>
    match write_to_payload (ChannelId.to_bytes first.channel_id) packet.payload with
    | .error error => .error error
    | .ok payload =>
      match write_to_payload (FragmentData.to_bytes fragment) payload with
      | .error error => .error error
      | .ok payload =>
        let packet := { packet with payload := payload }.record_message_metadata first.channel_id
          (some fragment.message_id) (some fragment.fragment_id) ⟨first.channel_kind,first.key⟩
        let single_index := Nat.max cursor.single_index cursor.index
        let tail :=
          if FragmentData.is_last_fragment fragment then
            append_tail lz4 first.effective_priority mtu (candidates.drop single_index) packet none single_index
          else .ok (packet,cursor.single_index)
        match tail with
        | .error error => .error error
        | .ok (packet,single_index) =>
          if packet.payload.length > mtu then .error (.PacketTooLarge packet.payload.length mtu)
          else .ok (packet,{ cursor with single_index })

/-- The branch of `build_next_packet` for a single message. -/
def stage_singles (lz4 : Lz4) (self : PacketHeaderManager) (current_tick : Tick) (candidates : List SendCandidate)
    (first : SendCandidate) (cursor : CandidateCursor) (compression : CompressionConfig) (mtu : Nat) :
    Except PacketError (Packet × CandidateCursor) :=
  match new_staged_packet self .Data current_tick with
  | .error error => .error error
  | .ok packet =>
    match append_singles lz4 compression mtu (candidates.drop cursor.index) packet none cursor.index with
    | .error error => .error error
    | .ok (packet,index) =>
      if packet.messages.isEmpty then
        let candidate := candidates[index]?.getD first
        .error (.PacketTooLarge (HEADER_BYTES + ChannelId.bytes_len candidate.channel_id + 1 +
          MessageData.bytes_len candidate.data) mtu)
      else
        match finish_compression_aware_packet lz4 packet compression mtu with
        | .error error => .error error
        | .ok packet => .ok (packet,⟨index,Nat.max cursor.single_index index⟩)

/-- The singles that final fragments have consumed already, from the one at `index` on. -/
def skip_consumed (single_index : Nat) : List SendCandidate → Nat → Nat
  | [],index => index
  | candidate :: rest,index =>
    match candidate.data with
    | .Single _ => if index < single_index then skip_consumed single_index rest (index + 1) else index
    | .Fragment _ => index

/-- On an error the flush ends, and with it the cursor. -/
def build_next_packet (lz4 : Lz4) (self : PacketHeaderManager) (current_tick : Tick) (candidates : List SendCandidate)
    (cursor : CandidateCursor) (compression : CompressionConfig) (mtu : Nat) :
    Except PacketError (Option (Packet × CandidateCursor)) :=
  let index := skip_consumed cursor.single_index (candidates.drop cursor.index) cursor.index
  match candidates[index]? with
  | none => .ok none
  | some first =>
    let staged :=
      match first.data with
      | .Fragment fragment =>
        stage_fragment lz4 self current_tick candidates first fragment ⟨index + 1,cursor.single_index⟩ mtu
      | .Single _ =>
        stage_singles lz4 self current_tick candidates first ⟨index,cursor.single_index⟩ compression mtu
    match staged with
    | .error error => .error error
    | .ok staged => .ok (some staged)

/-- The staging loop of `buffer_send` when no bandwidth cap is set: the packets that enter the link, and the error
    that ended the flush. There is no result when the fuel is too little. -/
def stage_packets (lz4 : Lz4) (current_tick : Tick) (real : Duration) (candidates : List SendCandidate)
    (compression : CompressionConfig) (mtu : Nat) :
    Nat → PacketHeaderManager → CandidateCursor → Option (List Packet × Except PacketError Unit)
  | 0,_,_ => none
  | fuel + 1,self,cursor =>
    match build_next_packet lz4 self current_tick candidates cursor compression mtu with
    | .error error => some ([],.error error)
    | .ok none => some ([],.ok ())
    | .ok (some (packet,cursor)) =>
      match stage_packets lz4 current_tick real candidates compression mtu fuel
          (self.commit_send_packet packet.packet_id real) cursor with
      | none => none
      | some (packets,outcome) => some (packet :: packets,outcome)

end Lightyear.PacketBuilder
