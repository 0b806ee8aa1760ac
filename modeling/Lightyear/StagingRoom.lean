import Lightyear.Packing

/-!
The room for a candidate in a packet. Staging fails with `PacketTooLarge` only when the next candidate alone is too
large, and the candidates of a channel are as large as its fragment size permits.
-/
namespace Lightyear.StagingRoom
open Codec
open Lightyear.Ids Lightyear.Message Lightyear.Compression Lightyear.Header Lightyear.Serde Lightyear.Packets
open Lightyear.PacketBuilder Lightyear.ReceiveLoop Lightyear.Batches Lightyear.PacketParse Lightyear.Packing

def TooLarge (error : PacketError) : Prop := ∃ actual mtu, error = .PacketTooLarge actual mtu

section Errors
variable {lz4 : Lz4} {payload : Bytes} {compression : CompressionConfig} {mtu : Nat} {error : PacketError}

private theorem serialization_small (error : SerializationError) : ¬TooLarge (.Serialization error) := by
  rintro ⟨actual,limit,isLarge⟩
  cases isLarge

private theorem compress_lz4_error (executed : compress_lz4 lz4 payload = .error error) : ¬TooLarge error := by
  rintro ⟨actual,limit,rfl⟩
  unfold compress_lz4 at executed
  split at executed
  next => cases executed
  next =>
    split at executed
    next => cases executed
    next => cases executed

private theorem packet_type_of_error (executed : packet_type_of payload = .error error) : ¬TooLarge error := by
  rintro ⟨actual,limit,rfl⟩
  unfold packet_type_of at executed
  split at executed <;> cases executed

private theorem evaluate_error (executed : evaluate_packet_compression lz4 payload compression mtu = .error error) :
    ¬TooLarge error := by
  unfold evaluate_packet_compression at executed
  split at executed
  next => cases executed
  next =>
  split at executed
  next => cases executed
  next =>
  split at executed
  next other isError =>
    cases executed
    exact packet_type_of_error isError
  next =>
  dsimp only at executed
  split at executed
  next => cases executed
  next =>
  split at executed
  next => cases executed
  next =>
  split at executed
  next => cases executed
  next =>
  split at executed
  next other isError =>
    cases executed
    exact compress_lz4_error isError
  next =>
    split at executed <;> cases executed

private theorem fits_error (executed : fits lz4 payload compression mtu = .error error) : ¬TooLarge error := by
  unfold fits at executed
  split at executed
  next => cases executed
  next =>
  split at executed
  next =>
    split at executed
    next isError =>
      cases executed
      exact evaluate_error isError
    next => cases executed
    next => cases executed
  next => cases executed

/-- What fits is finished: it is short enough as it is, or when it is compressed. -/
theorem finish_fits {packet : Packet} (fit : fits lz4 packet.payload compression mtu = .ok true)
    (executed : finish_compression_aware_packet lz4 packet compression mtu = .error error) : ¬TooLarge error := by
  unfold finish_compression_aware_packet compress_packet at executed
  dsimp only at executed
  cases evaluated : evaluate_packet_compression lz4 packet.payload compression mtu with
  | error other =>
    rw [evaluated] at executed
    cases executed
    exact evaluate_error evaluated
  | ok result =>
    obtain ⟨outcome,output⟩ := result
    rw [evaluated] at executed
    have short : (∀ original compressed, outcome ≠ .Compressed original compressed) → packet.payload.length ≤ mtu := by
      intro plain
      by_contra long
      rw [fits,if_neg long,evaluated] at fit
      split at fit
      next =>
        split at fit
        next => cases fit
        next original compressed _ isCompressed =>
          cases isCompressed
          exact plain original compressed rfl
        next => cases fit
      next => cases fit
    cases outcome with
    | Compressed original compressed =>
      dsimp only at executed
      cases typed : packet_type_of packet.payload with
      | error other =>
        rw [typed] at executed
        cases executed
        exact packet_type_of_error typed
      | ok packet_type =>
        rw [typed] at executed
        cases executed
    | Disabled | AlreadyCompressed | TooSmall _ | TooLargeForDecompressionLimit _ _ | NotSmaller _ _ =>
      dsimp only at executed
      rw [if_neg (Nat.not_lt.mpr (short fun _ _ => by simp))] at executed
      cases executed

end Errors

/-! ### The loops -/

section Loops
variable {lz4 : Lz4} {compression : CompressionConfig} {mtu : Nat} {head : Bytes} {before : List MessageMetadata}
  {packet : Packet} {state : Option SingleBatchState} {taken : List SendCandidate} {closed : List Batch}
    {last : Option Batch}

private theorem count_in_batch_error {payload : Bytes} {channel_id : ChannelId} {batch : Option SingleBatchState}
    {error : PacketError} (executed : count_in_batch payload channel_id batch = .error error) : False := by
  unfold count_in_batch at executed
  split at executed
  next =>
    rw [open_batch_eq] at executed
    cases executed
  next =>
    split at executed
    next => cases executed
    next =>
      rw [open_batch_eq] at executed
      cases executed

/-- A message of a length that is no varint cannot be written. -/
private theorem try_append_unwritable {candidate : SendCandidate} {single : SingleData}
    (isSingle : candidate.data = .Single single) (long : ¬single.bytes.length < 2 ^ 62) :
    ∃ error, try_append_single_candidate lz4 packet candidate state compression mtu = .error error ∧
      ¬TooLarge error := by
  have unwritable : SingleData.to_bytes single = .error .Io := by
    have noVarint : varint_len single.bytes.length = 0 := not_not.mp (mt varint_len_ne_zero.mp long)
    have bytes : Serde.Bytes.to_bytes single.bytes = .error .Io := by
      rw [Serde.Bytes.to_bytes,write_varint,noVarint]
      rfl
    rw [SingleData.to_bytes,bytes]
    cases single.id <;> rfl
  simp only [try_append_single_candidate,isSingle]
  cases counted : count_in_batch packet.payload candidate.channel_id state with
  | error other => exact (count_in_batch_error counted).elim
  | ok result =>
    simp only [unwritable,write_to_payload]
    exact ⟨_,rfl,serialization_small _⟩

/-- A candidate that is tried leaves the packet as it was, or fills it further, and then the packet fits. -/
private theorem try_append_cases (filled : Filled head before packet state taken closed last)
    {candidate : SendCandidate}
    {single : SingleData} (isSingle : candidate.data = .Single single) :
    (∃ error, try_append_single_candidate lz4 packet candidate state compression mtu = .error error ∧ ¬TooLarge error) ∨
      try_append_single_candidate lz4 packet candidate state compression mtu = .ok (false,packet,state) ∨
      ∃ extended state' closed' last', Filled head before extended state' (taken ++ [candidate]) closed' last' ∧
        fits lz4 extended.payload compression mtu = .ok true ∧
        try_append_single_candidate lz4 packet candidate state compression mtu = .ok (true,extended,state') := by
  by_cases short : single.bytes.length < 2 ^ 62
  · obtain ⟨extended,state',closed',last',fuller,-,appends⟩ := try_append_spec filled isSingle short
    rw [appends]
    cases decided : fits lz4 extended.payload compression mtu with
    | error error => exact .inl ⟨error,rfl,fits_error decided⟩
    | ok fit =>
      cases fit with
      | false => exact .inr (.inl rfl)
      | true => exact .inr (.inr ⟨extended,state',closed',last',fuller,decided,rfl⟩)
  · exact .inl (try_append_unwritable isSingle short)

/-- The loop over singles keeps a packet that fits and is not empty. -/
private theorem append_singles_keeps {candidates : List SendCandidate}
    (filled : Filled head before packet state taken closed last)
    (fit : fits lz4 packet.payload compression mtu = .ok true) (nonempty : packet.messages ≠ []) (index : Nat) :
    (∃ error, append_singles lz4 compression mtu candidates packet state index = .error error ∧ ¬TooLarge error) ∨
      ∃ looped index', append_singles lz4 compression mtu candidates packet state index = .ok (looped,index') ∧
        fits lz4 looped.payload compression mtu = .ok true ∧ looped.messages ≠ [] := by
  induction candidates generalizing packet state taken closed last index with
  | nil => exact .inr ⟨packet,index,rfl,fit,nonempty⟩
  | cons candidate candidates ih =>
    cases data : candidate.data with
    | Fragment fragment => exact .inr ⟨packet,index,by simp only [append_singles,data],fit,nonempty⟩
    | Single single =>
      simp only [append_singles,data]
      rcases try_append_cases filled data with ⟨error,tries,small⟩ | tries |
        ⟨extended,state',closed',last',fuller,fit',tries⟩
      · rw [tries]
        exact .inl ⟨error,rfl,small⟩
      · rw [tries]
        exact .inr ⟨packet,index,rfl,fit,nonempty⟩
      · rw [tries]
        exact ih fuller fit' (by rw [fuller.messages]; simp) (index + 1)

/-- The loop behind a last fragment keeps a packet that fits. -/
private theorem append_tail_keeps {candidates : List SendCandidate} (effective_priority : BitVec 32)
    (filled : Filled head before packet state taken closed last) (short : packet.payload.length ≤ mtu) (index : Nat) :
    (∃ error, append_tail lz4 effective_priority mtu candidates packet state index = .error error ∧ ¬TooLarge error) ∨
      ∃ looped index', append_tail lz4 effective_priority mtu candidates packet state index = .ok (looped,index') ∧
        looped.payload.length ≤ mtu := by
  induction candidates generalizing packet state taken closed last index with
  | nil => exact .inr ⟨packet,index,rfl,short⟩
  | cons candidate candidates ih =>
    by_cases other : candidate.effective_priority ≠ effective_priority
    · exact .inr ⟨packet,index,by rw [append_tail,if_pos other],short⟩
    cases data : candidate.data with
    | Fragment fragment =>
      simp only [append_tail,if_neg other,data]
      exact ih filled short (index + 1)
    | Single single =>
      simp only [append_tail,if_neg other,data]
      rcases try_append_cases filled data with ⟨error,tries,small⟩ | tries |
        ⟨extended,state',closed',last',fuller,fit,tries⟩
      · rw [tries]
        exact .inl ⟨error,rfl,small⟩
      · rw [tries]
        exact .inr ⟨packet,index,rfl,short⟩
      · rw [tries]
        rw [fits_disabled] at fit
        exact ih fuller (by simpa using fit) (index + 1)

end Loops

/-- What a channel of a fragment size offers: short messages, and fragments that are as long as the size at most. -/
def Small (fragment_size : Nat) : MessageData → Prop
  | .Single single => single.bytes.length ≤ fragment_size
  | .Fragment fragment => fragment.bytes.length ≤ fragment_size ∧
    fragment.compression.isSome = (fragment.fragment_id == 0) ∧ fragment.fragment_id < fragment.num_fragments

/-- The longest packet of one fragment: the first fragment has a compression, but its index is short. -/
def longest (fragment_size : Nat) :
    Nat := HEADER_BYTES + (varint_len 65535 + 2 + 8 + 8 + varint_len fragment_size + fragment_size)

/-- The candidate that the next packet starts with. -/
def next_candidate (candidates : List SendCandidate) (cursor : CandidateCursor) : Option SendCandidate :=
  candidates[skip_consumed cursor.single_index (candidates.drop cursor.index) cursor.index]?

section Next
variable {lz4 : Lz4} {compression : CompressionConfig} {mtu fragment_size : Nat} {candidates : List SendCandidate}
  {self : PacketHeaderManager} {tick : Tick} {error : PacketError}

theorem longest_eq (fragment_size : Nat) : longest fragment_size = 35 + fragment_size + varint_len fragment_size := by
  have fixed : HEADER_BYTES + (varint_len 65535 + 2 + 8 + 8) = 35 := by decide
  unfold longest
  omega

private theorem fragment_unwritable {fragment : FragmentData} (many : ¬fragment.num_fragments < 2 ^ 62) :
    ∃ error, FragmentData.to_bytes fragment = .error error := by
  have noVarint : varint_len fragment.num_fragments = 0 := not_not.mp (mt varint_len_ne_zero.mp many)
  have count : FragmentIndex.to_bytes fragment.num_fragments = .error .Io := by
    rw [FragmentIndex.to_bytes,write_varint,noVarint]
    rfl
  rw [FragmentData.to_bytes,count]
  cases FragmentIndex.to_bytes fragment.fragment_id with
  | error other => exact ⟨other,rfl⟩
  | ok index => exact ⟨.Io,rfl⟩

private theorem fragment_length (varint : fragment_size < 2 ^ 62) {fragment : FragmentData}
    (small : Small fragment_size (.Fragment fragment)) :
    FragmentData.bytes_len fragment ≤ 2 + 8 + 8 + varint_len fragment_size + fragment_size := by
  have length := varint_len_mono small.1 varint
  have count : varint_len fragment.num_fragments ≤ 8 := varint_len_le _
  have front : varint_len fragment.fragment_id + (if FragmentData.is_initial_fragment fragment then 1 else 0) ≤ 8 := by
    have index : varint_len fragment.fragment_id ≤ 8 := varint_len_le _
    unfold FragmentData.is_initial_fragment
    by_cases first : fragment.fragment_id = 0
    · rw [first]
      decide
    · simpa [first] using index
  have bytes := small.1
  simp only [FragmentData.bytes_len,WrappingId.bytes_len,FragmentIndex.bytes_len,FragmentCompression.bytes_len,
    Serde.Bytes.bytes_len]
  omega

private theorem stage_fragment_small (varint : fragment_size < 2 ^ 62) (large : longest fragment_size ≤ mtu)
    {first : SendCandidate} {fragment : FragmentData} (small : Small fragment_size (.Fragment fragment))
    {cursor : CandidateCursor}
    (executed : stage_fragment lz4 self tick candidates first fragment cursor mtu = .error error) :
    ¬TooLarge error := by
  have channel := channel_encodes first.channel_id
  simp only [stage_fragment,new_staged_packet_eq,write_ok channel.ok] at executed
  by_cases few : fragment.num_fragments < 2 ^ 62
  · obtain ⟨bytes,hasCompression,index⟩ := small
    have encodes := fragment_encodes ⟨hasCompression,index,few,Nat.lt_of_le_of_lt bytes varint⟩
    simp only [write_ok encodes.ok] at executed
    have fits : (head (self.preview_send_packet_header .DataFragment tick) ++ written
      (ChannelId.to_bytes first.channel_id) ++
        written (FragmentData.to_bytes fragment)).length ≤ mtu := by
      have body := fragment_length varint
        (show Small fragment_size (.Fragment fragment) from ⟨bytes,hasCompression,index⟩)
      have short := channel_len_le first.channel_id
      rw [longest_eq] at large
      simp only [List.length_append,length_head,channel.length,encodes.length]
      have header : HEADER_BYTES = 13 := rfl
      omega
    generalize isPacket : Packet.record_message_metadata _ first.channel_id _ _ _ = packet at executed
    have short : packet.payload.length ≤ mtu := by
      rw [← isPacket]
      exact fits
    split at executed
    next other isError =>
      cases executed
      split at isError
      next =>
        rcases append_tail_keeps first.effective_priority (filled_nil packet) short _ with ⟨error,tails,small⟩ |
          ⟨looped,index,tails,-⟩
        · rw [tails] at isError
          cases isError
          exact small
        · rw [tails] at isError
          cases isError
      next => cases isError
    next staged index isStaged =>
      have within : staged.payload.length ≤ mtu := by
        split at isStaged
        next =>
          rcases append_tail_keeps first.effective_priority (filled_nil packet) short _ with ⟨error,tails,-⟩ |
            ⟨looped,index,tails,within⟩
          · rw [tails] at isStaged
            cases isStaged
          · rw [tails] at isStaged
            cases isStaged
            exact within
        next =>
          cases isStaged
          exact short
      rw [if_neg (Nat.not_lt.mpr within)] at executed
      cases executed
  · obtain ⟨other,unwritable⟩ := fragment_unwritable few
    simp only [unwritable,write_to_payload] at executed
    cases executed
    exact serialization_small _

private theorem stage_singles_small (varint : fragment_size < 2 ^ 62) (large : longest fragment_size ≤ mtu)
    {first : SendCandidate} {single : SingleData} (isSingle : first.data = .Single single)
    (small : Small fragment_size (.Single single)) {cursor : CandidateCursor}
    (isFirst : candidates[cursor.index]? = some first)
    (executed : stage_singles lz4 self tick candidates first cursor compression mtu = .error error) :
    ¬TooLarge error := by
  have short : single.bytes.length < 2 ^ 62 := Nat.lt_of_le_of_lt small varint
  obtain ⟨others,behind⟩ : ∃ others, candidates.drop cursor.index = first :: others := by
    obtain ⟨inside,same⟩ := List.getElem?_eq_some_iff.mp isFirst
    exact ⟨_,by rw [List.drop_eq_getElem_cons inside,same]⟩
  obtain ⟨extended,state,closed,last,filled,length,appends⟩ :=
    try_append_spec (filled_nil ⟨head (self.preview_send_packet_header .Data tick),[],self.next_packet_id,none⟩)
      isSingle short
  have fit : fits lz4 extended.payload compression mtu = .ok true := by
    refine if_pos (length.trans ?_)
    have id : OptionId.bytes_len single.id ≤ 3 := by
      cases single.id <;> simp [OptionId.bytes_len,WrappingId.bytes_len]
    have prefix_len := varint_len_mono small varint
    have bytes : single.bytes.length ≤ fragment_size := small
    rw [longest_eq] at large
    simp only [length_head,SingleData.bytes_len,Serde.Bytes.bytes_len]
    have header : HEADER_BYTES = 13 := rfl
    omega
  have nonempty : extended.messages ≠ [] := by
    rw [filled.messages]
    simp
  simp only [stage_singles,new_staged_packet_eq,behind,append_singles,isSingle,appends,fit] at executed
  rcases append_singles_keeps filled fit nonempty (cursor.index + 1) with ⟨other,loops,small⟩ |
    ⟨looped,index,loops,fit,nonempty⟩
  · rw [loops] at executed
    cases executed
    exact small
  · rw [loops] at executed
    dsimp only at executed
    rw [if_neg (by simpa using nonempty)] at executed
    split at executed
    next isError =>
      cases executed
      exact finish_fits fit isError
    next => cases executed

/-- When the next candidate is small enough, the packet is staged, or staging fails for another reason. -/
theorem build_next_packet_small (varint : fragment_size < 2 ^ 62) (large : longest fragment_size ≤ mtu)
    {cursor : CandidateCursor} {first : SendCandidate} (isNext : next_candidate candidates cursor = some first)
    (small : Small fragment_size first.data)
    (executed : build_next_packet lz4 self tick candidates cursor compression mtu = .error error) :
    ¬TooLarge error := by
  rw [next_candidate] at isNext
  simp only [build_next_packet,isNext] at executed
  cases data : first.data with
  | Single single =>
    rw [data] at small
    simp only [data] at executed
    split at executed
    next isError =>
      cases executed
      exact stage_singles_small varint large data small isNext isError
    next => cases executed
  | Fragment fragment =>
    rw [data] at small
    simp only [data] at executed
    split at executed
    next isError =>
      cases executed
      exact stage_fragment_small varint large small isError
    next => cases executed

end Next

end Lightyear.StagingRoom
