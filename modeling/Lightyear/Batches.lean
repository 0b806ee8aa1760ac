import Lightyear.PacketBuilder
import Lightyear.ReceiveLoop

/-!
What a packet holds while it is filled: the batches that were written behind its head,
the last of them open. A candidate that is rejected leaves it as it was.
-/
namespace Lightyear.Batches
open Codec
open Lightyear.Ids Lightyear.Message Lightyear.Compression Lightyear.Header Lightyear.Serde Lightyear.Packets
open Lightyear.PacketBuilder Lightyear.ReceiveLoop

def fragment_index : MessageData → Option FragmentIndex
  | .Single _ => none
  | .Fragment data => some data.fragment_id

/-- What the metadata of a packet records about a candidate. -/
def metadata (candidate : SendCandidate) : MessageMetadata :=
  ⟨candidate.channel_id,candidate.data.message_id,fragment_index candidate.data,
    ⟨candidate.channel_kind,candidate.key⟩⟩

/-- What the receive loop reads of a candidate. -/
def content (candidate : SendCandidate) : ChannelId × MessageData := (candidate.channel_id,candidate.data)

def is_fragment (candidate : SendCandidate) : Bool :=
  match candidate.data with
  | .Single _ => false
  | .Fragment _ => true

/-- Where the count of a batch is, when `front` is written before the batch. -/
def state_of (front : Bytes) (batch : Batch) : SingleBatchState :=
  ⟨batch.1,(front ++ written (ChannelId.to_bytes batch.1)).length,UInt8.ofNat batch.2.length⟩

/-- A packet is its head, the closed batches and the open one, with metadata for every message. -/
structure Filled (head : Bytes) (before : List MessageMetadata) (packet : Packet) (state : Option SingleBatchState)
    (taken : List SendCandidate) (closed : List Batch) (last : Option Batch) : Prop where
  payload : packet.payload = head ++ (closed ++ last.toList).flatMap batch_bytes
  messages : packet.messages = before ++ taken.map metadata
  contents : (closed ++ last.toList).flatMap batch_messages = taken.map content
  state : state = last.map (state_of (head ++ closed.flatMap batch_bytes))
  sound : ∀ batch ∈ closed ++ last.toList, SoundBatch batch

theorem filled_nil (packet : Packet) : Filled packet.payload packet.messages packet none [] [] none :=
  ⟨by simp,by simp,rfl,rfl,by simp⟩

private theorem set_at (front back : Bytes) (old new : Byte) :
    (front ++ old :: back).set front.length new = front ++ new :: back := by
  rw [List.set_append_right _ _ (le_refl _),Nat.sub_self,List.set_cons_zero]

/-- Opening a batch writes the channel and the count 1. -/
theorem open_batch_eq (payload : Bytes) (channel_id : ChannelId) :
    open_batch payload channel_id =
      .ok (payload ++ written (ChannelId.to_bytes channel_id) ++ [1],state_of payload (channel_id,[⟨none,[]⟩])) := by
  rw [open_batch,write_ok (channel_encodes channel_id).ok]
  rfl

section Step
variable {head : Bytes} {before : List MessageMetadata} {packet : Packet} {state : Option SingleBatchState}
  {taken : List SendCandidate} {closed : List Batch} {last : Option Batch}

/-- The byte at the offset of the open batch is its count. -/
private theorem Filled.count_byte (filled : Filled head before packet state taken closed last)
    {previous : SingleBatchState} (isOpen : state = some previous) :
    previous.count_offset < packet.payload.length ∧
      packet.payload.set previous.count_offset previous.count = packet.payload := by
  cases last with
  | none =>
    rw [filled.state] at isOpen
    cases isOpen
  | some batch =>
    rw [filled.state] at isOpen
    cases isOpen
    have payload : packet.payload = (head ++ closed.flatMap batch_bytes ++ written (ChannelId.to_bytes batch.1)) ++
        UInt8.ofNat batch.2.length :: batch.2.flatMap single_bytes := by
      rw [filled.payload]
      simp [batch_bytes]
    rw [payload]
    constructor
    · simp [state_of]
    · exact set_at ..

private theorem roll_back_eq (filled : Filled head before packet state taken closed last) (appended : Packet)
    {metadata : MessageMetadata} (id : appended.packet_id = packet.packet_id)
    (compression : appended.compression = packet.compression)
    (messages : appended.messages = packet.messages ++ [metadata])
    (payload : (∃ previous value more, state = some previous ∧
        appended.payload = packet.payload.set previous.count_offset value ++ more) ∨
      ∃ more, appended.payload = packet.payload ++ more) :
    roll_back appended packet.payload.length packet.messages.length state = packet := by
  have restored : (roll_back appended packet.payload.length packet.messages.length state).payload = packet.payload := by
    cases isOpen : state with
    | none =>
      rcases payload with ⟨previous,_,_,present,-⟩ | ⟨more,payload⟩
      · rw [isOpen] at present
        cases present
      · simp [roll_back,payload]
    | some previous =>
      obtain ⟨inside,same⟩ := filled.count_byte isOpen
      rcases payload with ⟨other,value,more,present,payload⟩ | ⟨more,payload⟩
      · rw [isOpen] at present
        cases present
        simp only [roll_back,payload]
        rw [List.set_append_left _ _ (by simpa using inside),List.set_set,same]
        simp
      · simp only [roll_back,payload]
        rw [List.set_append_left _ _ inside,same]
        simp
  have whole : roll_back appended packet.payload.length packet.messages.length state =
      ⟨(roll_back appended packet.payload.length packet.messages.length state).payload,
        appended.messages.take packet.messages.length,appended.packet_id,appended.compression⟩ := rfl
  rw [whole,restored,messages,List.take_left,id,compression]

/-- A message goes into the open batch or into one of its own. -/
private structure Counted (head : Bytes) (packet : Packet) (state : Option SingleBatchState) (channel_id : ChannelId)
    (single : SingleData) (old : List Batch) (payload : Bytes) (closed : List Batch) (batch : Batch) : Prop where
  bytes : payload ++ single_bytes single = head ++ (closed ++ [batch]).flatMap batch_bytes
  messages : (closed ++ [batch]).flatMap batch_messages = old.flatMap batch_messages ++ [(channel_id,.Single single)]
  sound : ∀ written ∈ closed ++ [batch], SoundBatch written
  length : payload.length ≤ packet.payload.length + 5
  old_payload : (∃ previous, state = some previous ∧
      payload = packet.payload.set previous.count_offset (previous.count + 1)) ∨
        ∃ more, payload = packet.payload ++ more

private theorem open_batch_counted (filled : Filled head before packet state taken closed last) (channel_id : ChannelId)
    {single : SingleData} (fits : single.bytes.length < 2 ^ 62) :
    ∃ payload batch closed', open_batch packet.payload channel_id =
        .ok (payload,state_of (head ++ closed'.flatMap batch_bytes) batch) ∧
      Counted head packet state channel_id single (closed ++ last.toList) payload closed' batch := by
  refine ⟨packet.payload ++ written (ChannelId.to_bytes channel_id) ++ [1],(channel_id,[single]),closed ++ last.toList,
    ?_,?_,?_,?_,?_,.inr ⟨written (ChannelId.to_bytes channel_id) ++ [1],List.append_assoc ..⟩⟩
  · rw [open_batch_eq,← filled.payload]
    rfl
  · rw [filled.payload]
    simp [batch_bytes]
  · simp [batch_messages]
  · intro batch member
    rcases List.mem_append.mp member with old | new
    · exact filled.sound batch old
    · cases List.mem_singleton.mp new
      exact ⟨by simp,by simpa using fits⟩
  · have short := channel_len_le channel_id
    rw [← (channel_encodes channel_id).length] at short
    simp only [List.length_append,List.length_singleton]
    omega

private theorem count_in_batch_counted (filled : Filled head before packet state taken closed last)
    (channel_id : ChannelId) {single : SingleData} (fits : single.bytes.length < 2 ^ 62) :
    ∃ payload batch closed', count_in_batch packet.payload channel_id state =
        .ok (payload,state_of (head ++ closed'.flatMap batch_bytes) batch) ∧
      Counted head packet state channel_id single (closed ++ last.toList) payload closed' batch := by
  cases last with
  | none =>
    have shut : state = none := filled.state
    subst shut
    exact open_batch_counted filled channel_id fits
  | some batch =>
    obtain ⟨channel,singles⟩ := batch
    have isOpen : state = some (state_of (head ++ closed.flatMap batch_bytes) (channel,singles)) := filled.state
    have old : SoundBatch (channel,singles) := filled.sound _ (by simp)
    have few : singles.length ≤ 255 := old.count
    have count : (UInt8.ofNat singles.length).toNat = singles.length := by
      rw [UInt8.toNat_ofNat']
      omega
    by_cases room : channel = channel_id ∧ UInt8.ofNat singles.length < MAX_MESSAGES_PER_CHANNEL_BATCH
    · obtain ⟨rfl,below⟩ := room
      have fewer : singles.length < 255 := by
        have := UInt8.lt_iff_toNat_lt.mp below
        rwa [count] at this
      have payload : packet.payload = (head ++ closed.flatMap batch_bytes ++ written (ChannelId.to_bytes channel)) ++
          UInt8.ofNat singles.length :: singles.flatMap single_bytes := by
        rw [filled.payload]
        simp [batch_bytes]
      have next : UInt8.ofNat singles.length + 1 = UInt8.ofNat (singles ++ [single]).length := by
        simp [UInt8.ofNat_add]
      refine ⟨_,(channel,singles ++ [single]),closed,?_,?_,?_,?_,?_,.inl ⟨_,isOpen,rfl⟩⟩
      · rw [isOpen]
        refine (if_pos ⟨rfl,below⟩).trans ?_
        simp only [state_of,next]
      · rw [payload]
        simp only [state_of]
        rw [set_at,next]
        simp [batch_bytes]
      · simp [batch_messages]
      · intro batch member
        rcases List.mem_append.mp member with before | new
        · exact filled.sound batch (List.mem_append_left _ before)
        · obtain rfl := List.mem_singleton.mp new
          refine ⟨by simpa using fewer,fun other inside => ?_⟩
          rcases List.mem_append.mp inside with before | new
          · exact old.bytes other before
          · cases List.mem_singleton.mp new
            exact fits
      · simp
    · have opened : count_in_batch packet.payload channel_id state = open_batch packet.payload channel_id := by
        rw [isOpen]
        exact if_neg room
      rw [opened]
      exact open_batch_counted filled channel_id fits

/-- Appending a message fills the packet further, or leaves it alone if it does not fit. -/
theorem try_append_spec (filled : Filled head before packet state taken closed last) {candidate : SendCandidate}
    {single : SingleData} (isSingle : candidate.data = .Single single) (short : single.bytes.length < 2 ^ 62) :
    ∃ extended state' closed' last', Filled head before extended state' (taken ++ [candidate]) closed' last' ∧
      extended.payload.length ≤ packet.payload.length + 5 + SingleData.bytes_len single ∧
      ∀ lz4 compression mtu, try_append_single_candidate lz4 packet candidate state compression mtu =
        match fits lz4 extended.payload compression mtu with
        | .error error => .error error
        | .ok true => .ok (true,extended,state')
        | .ok false => .ok (false,packet,state) := by
  obtain ⟨payload,batch,closed',counts,counted⟩ := count_in_batch_counted filled candidate.channel_id short
  have encodes := single_encodes short
  have writes : write_to_payload (SingleData.to_bytes single) payload = .ok (payload ++ single_bytes single) :=
    write_ok encodes.ok payload
  refine ⟨{ packet with payload := payload ++ single_bytes single,messages := packet.messages ++ [metadata candidate] },
    some (state_of (head ++ closed'.flatMap batch_bytes) batch),closed',some batch,
      ⟨counted.bytes,?_,?_,rfl,counted.sound⟩,
    ?_,?_⟩
  · simp [filled.messages]
  · simp [counted.messages,filled.contents,content,isSingle]
  · have length := encodes.length
    have old := counted.length
    simp only [List.length_append,single_bytes,length]
    omega
  · intro lz4 compression mtu
    have recorded : metadata candidate =
        ⟨candidate.channel_id,single.id,none,⟨candidate.channel_kind,candidate.key⟩⟩ := by
      simp [metadata,isSingle,MessageData.message_id,fragment_index]
    have back : roll_back { packet with
        payload := payload ++ single_bytes single
        messages := packet.messages ++ [metadata candidate] } packet.payload.length packet.messages.length state =
          packet := by
      refine roll_back_eq filled _ rfl rfl rfl ?_
      rcases counted.old_payload with ⟨previous,isOpen,old⟩ | ⟨more,old⟩
      · exact .inl ⟨previous,_,_,isOpen,by rw [old]⟩
      · exact .inr ⟨_,by rw [old,List.append_assoc]⟩
    cases decides : fits lz4 (payload ++ single_bytes single) compression mtu with
    | error error => simp only [try_append_single_candidate,isSingle,counts,writes,decides]
    | ok fit =>
      cases fit with
      | true =>
        simp only [try_append_single_candidate,isSingle,counts,writes,decides,Packet.record_message_metadata,← recorded]
      | false =>
        simp only [try_append_single_candidate,isSingle,counts,writes,decides,Packet.record_message_metadata,← recorded,
          back]

/-! ### The two loops -/

/-- A loop has gone through some candidates and put the singles among them into the packet. -/
structure Looped (lz4 : Lz4) (compression : CompressionConfig) (mtu : Nat) (head : Bytes)
    (before : List MessageMetadata)
    (packet : Packet) (taken seen : List SendCandidate) (looped : Packet) : Prop where
  filled : ∃ state closed last,
    Filled head before looped state (taken ++ seen.filter fun c => !is_fragment c) closed last
  fits : fits lz4 packet.payload compression mtu = .ok true → fits lz4 looped.payload compression mtu = .ok true

theorem looped_nil {lz4 : Lz4} {compression : CompressionConfig} {mtu : Nat}
    (filled : Filled head before packet state taken closed last) :
    Looped lz4 compression mtu head before packet taken [] packet :=
  ⟨⟨state,closed,last,by simpa using filled⟩,id⟩

private theorem Looped.after {lz4 : Lz4} {compression : CompressionConfig} {mtu : Nat} {candidate : SendCandidate}
    {seen : List SendCandidate} {extended looped : Packet} (isSingle : is_fragment candidate = false)
    (fit : PacketBuilder.fits lz4 extended.payload compression mtu = .ok true)
    (rest : Looped lz4 compression mtu head before extended (taken ++ [candidate]) seen looped) :
    Looped lz4 compression mtu head before packet taken (candidate :: seen) looped where
  filled := by
    obtain ⟨state,closed,last,filled⟩ := rest.filled
    exact ⟨state,closed,last,by simpa [isSingle] using filled⟩
  fits := fun _ => rest.fits fit

/-- The loop over singles ends at a fragment or where a single does not fit. -/
theorem append_singles_spec {lz4 : Lz4} {compression : CompressionConfig} {mtu : Nat}
    (decided : ∀ more, ∃ fit, fits lz4 (head ++ more) compression mtu = .ok fit) {candidates : List SendCandidate}
    (short : ∀ candidate ∈ candidates, ∀ single, candidate.data = .Single single → single.bytes.length < 2 ^ 62)
    (filled : Filled head before packet state taken closed last) (index : Nat) :
    ∃ seen rest looped, candidates = seen ++ rest ∧
      append_singles lz4 compression mtu candidates packet state index = .ok (looped,index + seen.length) ∧
      Looped lz4 compression mtu head before packet taken seen looped ∧
      (∀ candidate ∈ seen, is_fragment candidate = false) ∧
      (seen = [] → looped = packet ∧ ∀ candidate others single, candidates = candidate :: others →
        candidate.data = .Single single → mtu < packet.payload.length + 5 + SingleData.bytes_len single) := by
  induction candidates generalizing packet state taken closed last index with
  | nil => exact ⟨[],[],packet,rfl,rfl,looped_nil filled,by simp,fun _ => ⟨rfl,by simp⟩⟩
  | cons candidate candidates ih =>
    cases data : candidate.data with
    | Fragment fragment =>
      refine ⟨[],candidate :: candidates,packet,rfl,?_,looped_nil filled,by simp,fun _ => ⟨rfl,?_⟩⟩
      · simp [append_singles,data]
      · rintro _ _ single same isSingle
        cases same
        rw [data] at isSingle
        cases isSingle
    | Single single =>
      have isSingle : is_fragment candidate = false := by simp [is_fragment,data]
      obtain ⟨extended,state',closed',last',fuller,length,appends⟩ :=
        try_append_spec filled data (short candidate (List.mem_cons_self ..) single data)
      obtain ⟨fit,decides⟩ := decided ((closed' ++ last'.toList).flatMap batch_bytes)
      rw [← fuller.payload] at decides
      have result := appends lz4 compression mtu
      rw [decides] at result
      cases fit with
      | false =>
        refine ⟨[],candidate :: candidates,packet,rfl,?_,looped_nil filled,by simp,fun _ => ⟨rfl,?_⟩⟩
        · simp only [append_singles,data,result]
          rfl
        · rintro _ _ other same isSingle
          cases same
          rw [data] at isSingle
          cases isSingle
          by_contra small
          rw [fits,if_pos (by omega)] at decides
          cases decides
      | true =>
        obtain ⟨seen,rest,looped,split,loops,looped_rest,singles,-⟩ :=
          ih (fun other member => short other (List.mem_cons_of_mem _ member)) fuller (index + 1)
        refine ⟨candidate :: seen,rest,looped,by simp [split],?_,looped_rest.after isSingle decides,?_,by simp⟩
        · simp only [append_singles,data,result,loops,List.length_cons]
          rw [Nat.add_assoc,Nat.add_comm 1]
        · intro other member
          rcases List.mem_cons.mp member with rfl | later
          · exact isSingle
          · exact singles other later

theorem fits_disabled (lz4 : Lz4) (payload : Bytes) (mtu : Nat) :
    fits lz4 payload .DISABLED mtu = .ok (decide (payload.length ≤ mtu)) := by
  by_cases small : payload.length ≤ mtu
  · simp [fits,small]
  · simp [fits,small,is_enabled,CompressionConfig.DISABLED]

/-- The loop behind a last fragment also goes past fragments of the same priority. -/
theorem append_tail_spec (lz4 : Lz4) (effective_priority : BitVec 32) (mtu : Nat) {candidates : List SendCandidate}
    (short : ∀ candidate ∈ candidates, ∀ single, candidate.data = .Single single → single.bytes.length < 2 ^ 62)
    (filled : Filled head before packet state taken closed last) (index : Nat) :
    ∃ seen rest looped, candidates = seen ++ rest ∧
      append_tail lz4 effective_priority mtu candidates packet state index = .ok (looped,index + seen.length) ∧
      Looped lz4 .DISABLED mtu head before packet taken seen looped := by
  induction candidates generalizing packet state taken closed last index with
  | nil => exact ⟨[],[],packet,rfl,rfl,looped_nil filled⟩
  | cons candidate candidates ih =>
    have short_rest := fun other member => short other (List.mem_cons_of_mem _ member)
    by_cases other_priority : candidate.effective_priority ≠ effective_priority
    · refine ⟨[],candidate :: candidates,packet,rfl,?_,looped_nil filled⟩
      simp only [append_tail,if_pos other_priority]
      rfl
    cases data : candidate.data with
    | Fragment fragment =>
      have isFragment : is_fragment candidate = true := by simp [is_fragment,data]
      obtain ⟨seen,rest,looped,split,loops,looped_rest⟩ := ih short_rest filled (index + 1)
      refine ⟨candidate :: seen,rest,looped,by simp [split],?_,⟨?_,looped_rest.fits⟩⟩
      · simp only [append_tail,if_neg other_priority,data,loops,List.length_cons]
        rw [Nat.add_assoc,Nat.add_comm 1]
      · simpa [isFragment] using looped_rest.filled
    | Single single =>
      have isSingle : is_fragment candidate = false := by simp [is_fragment,data]
      obtain ⟨extended,state',closed',last',fuller,-,appends⟩ :=
        try_append_spec filled data (short candidate (List.mem_cons_self ..) single data)
      have result := appends lz4 .DISABLED mtu
      have decides := fits_disabled lz4 extended.payload mtu
      rw [decides] at result
      by_cases small : extended.payload.length ≤ mtu
      · simp only [small,decide_true] at result decides
        obtain ⟨seen,rest,looped,split,loops,looped_rest⟩ := ih short_rest fuller (index + 1)
        refine ⟨candidate :: seen,rest,looped,by simp [split],?_,looped_rest.after isSingle decides⟩
        simp only [append_tail,if_neg other_priority,data,result,loops,List.length_cons]
        rw [Nat.add_assoc,Nat.add_comm 1]
      · simp only [small,decide_false] at result
        refine ⟨[],candidate :: candidates,packet,rfl,?_,looped_nil filled⟩
        simp only [append_tail,if_neg other_priority,data,result]
        rfl

end Step

end Lightyear.Batches
