import Lightyear.ReliableRetention
import Lightyear.StagingRoom
import Lightyear.UnreliableFlow

/-!
The fragment size of a channel, against the packets of its link. Whatever a sender of the derived size offers fits
into a packet of the minimum MTU, and no size is much larger.
-/
namespace Lightyear.FragmentSizes
open Codec
open Lightyear.Ids Lightyear.Message Lightyear.Compression Lightyear.Header Lightyear.Fragments Lightyear.Reassembly
open Lightyear.Serde Lightyear.Packets Lightyear.PacketBuilder Lightyear.PacketParse Lightyear.Packing
  Lightyear.StagingRoom
open Lightyear.ReliableRetention (Content content look)

theorem piece_small {m : Fragmented} {i : Nat} (inside : i < m.count) : Small m.size (.Fragment (m.piece i)) := by
  refine ⟨Chunks.length_chunk_le i,?_,inside⟩
  simp only [Fragmented.piece]
  by_cases first : i = 0 <;> simp [first]

/-- The messages of a channel are cut to its fragment size. -/
def CutsReliable (fragment_size : Nat) : ReliableRetention.Event → Prop
  | .Send fragmenter _ _ => fragmenter.fragment_size = fragment_size
  | _ => True

def CutsUnreliable (fragment_size : Nat) : UnreliableFlow.Event → Prop
  | .Send fragmenter _ _ => fragmenter.fragment_size = fragment_size
  | _ => True

/-- What a sender of a fragment size offers at some time. -/
inductive Offered (lz4 : Lz4) (fragment_size : Nat) : MessageData → Prop
  | reliable (settings : SendReliable.ReliableSettings) (s : ReliableRetention.Retention)
      (reached : Runs.Reaches (ReliableRetention.Retention.step lz4) (fun _ event _ => CutsReliable fragment_size event)
        (.start settings) s)
      (c : SendReliable.SendCandidate) (member : c ∈ s.sender.collect_candidates) : Offered lz4 fragment_size c.message
  | unreliable (delivery : SendUnreliable.UnreliableDelivery) (retry_unsent_messages : Bool) (s : UnreliableFlow.Flow)
      (reached : Runs.Reaches (UnreliableFlow.Flow.step lz4) (fun _ event _ => CutsUnreliable fragment_size event)
        (.start delivery retry_unsent_messages) s)
      (c : SendUnreliable.SendCandidate) (member : c ∈ s.sender.collect_candidates) :
        Offered lz4 fragment_size c.message

section Reliable
open Lightyear.SendReliable Lightyear.SendReliable.ReliableSendState Lightyear.ReliableRetention
variable {lz4 : Lz4} {fragment_size : Nat} {settings : ReliableSettings} {s : Retention}

def SmallContent (fragment_size : Nat) : Content → Prop
  | .inl bytes => bytes.length ≤ fragment_size
  | .inr fragments => ∀ fragment ∈ fragments, Small fragment_size (.Fragment fragment)

private theorem unacked_small {fragmenter : FragmentSender} {id : MessageId} {message : Bytes}
    {config : CompressionConfig}
    {unackedMessage : UnackedMessage} (made : unacked lz4 fragmenter id message config = some unackedMessage) :
    SmallContent fragmenter.fragment_size (content unackedMessage) := by
  have carries := carries_unacked made
  cases unackedMessage with
  | Single bytes last_sent =>
    obtain ⟨rfl,small⟩ := carries
    exact small
  | Fragmented fragments =>
    obtain ⟨-,pieces⟩ := carries
    intro fragment member
    rw [pieces] at member
    obtain ⟨i,inside,rfl⟩ := List.mem_map.mp member
    have small := piece_small (List.mem_range.mp inside)
    rwa [cut_size] at small

private theorem pending_small
    (reached : Runs.Reaches (Retention.step lz4) (fun _ event _ => CutsReliable fragment_size event)
      (.start settings) s) :
    ∀ id n kept known, look s.sender id = some (n,kept,known) → SmallContent fragment_size kept := by
  refine reached.invariant
    (fun s => ∀ id n kept known, look s.sender id = some (n,kept,known) → SmallContent fragment_size kept) ?_ ?_
  · intro id n kept known pending
    cases pending
  · intro before event after small executed cuts id n kept known pending
    cases event with
    | Send fragmenter message compression =>
      simp only [Retention.step] at executed
      split at executed
      next sender id' unackedMessage sent made =>
        cases executed
        obtain ⟨-,-,unackedMessage',made',-,-,looks⟩ := look_buffer_send sent
        obtain rfl := Option.some.inj (made.symm.trans made')
        rw [looks] at pending
        split at pending
        next =>
          cases pending
          exact (show fragmenter.fragment_size = fragment_size from cuts) ▸ unacked_small made
        next => exact small id n kept known pending
      next => cases executed
    | Transmit candidate sent_at =>
      obtain ⟨c,-,rfl⟩ := Option.map_eq_some_iff.mp executed
      rw [look_commit_send] at pending
      exact small id n kept known pending
    | Ack record =>
      simp only [Retention.step] at executed
      split at executed
      next => cases executed
      next =>
        obtain ⟨⟨sender,completed⟩,acks,rfl⟩ := Option.map_eq_some_iff.mp executed
        obtain ⟨known,wasPending⟩ := look_of_receive_ack acks pending
        exact small id n kept known wasPending
    | Lose record =>
      cases executed
      exact small id n kept known pending
    | Update now rtt =>
      cases executed
      exact small id n kept known pending

end Reliable

section Unreliable
open Lightyear.SendUnreliable Lightyear.SendUnreliable.UnreliableSendState Lightyear.UnreliableFlow
variable {lz4 : Lz4} {fragment_size : Nat} {self self' : UnreliableSendState} {s : Flow}

/-- A commit changes no message of the queues. -/
private theorem commit_send_messages {key : SendMessageKey} (executed : self.commit_send key = some self')
    {pending : PendingSendMessage} (member : pending ∈ self'.singles ++ self'.fragments) :
    ∃ old ∈ self.singles ++ self.fragments, pending.message = old.message := by
  have modified : ∀ {queue : List PendingSendMessage} {i : Nat}, ∀ new ∈ queue.modify i UnreliableSendState.commit,
      ∃ old ∈ queue, new.message = old.message := by
    intro queue i new isNew
    obtain ⟨j,old,stored,rfl⟩ := mem_modify isNew
    refine ⟨old,List.mem_of_getElem? stored,?_⟩
    split <;> rfl
  unfold commit_send at executed
  split at executed
  next =>
    cases executed
    rcases List.mem_append.mp member with member | member
    · obtain ⟨old,isOld,same⟩ := modified _ member
      exact ⟨old,List.mem_append_left _ isOld,same⟩
    · exact ⟨pending,List.mem_append_right _ member,rfl⟩
  next =>
    split at executed
    next =>
      cases executed
      exact ⟨pending,member,rfl⟩
    next =>
    split at executed
    next => cases executed
    next =>
      cases executed
      rcases List.mem_append.mp member with member | member
      · exact ⟨pending,List.mem_append_left _ member,rfl⟩
      · dsimp only at member
        split at member
        next =>
          obtain ⟨old,isOld,same⟩ := modified _ member
          exact ⟨old,List.mem_append_right _ isOld,same⟩
        next =>
          obtain ⟨middle,isMiddle,rfl⟩ := List.mem_map.mp member
          obtain ⟨old,isOld,same⟩ := modified _ isMiddle
          refine ⟨old,List.mem_append_right _ isOld,?_⟩
          rw [← same,start_message]
          split <;> rfl
  next =>
    cases executed
    exact ⟨pending,member,rfl⟩

private theorem queues_small {delivery : UnreliableDelivery} {retry_unsent_messages : Bool}
    (reached : Runs.Reaches (Flow.step lz4) (fun _ event _ => CutsUnreliable fragment_size event)
      (Flow.start delivery retry_unsent_messages) s) :
    ∀ pending ∈ s.sender.singles ++ s.sender.fragments, Small fragment_size pending.message := by
  refine reached.invariant
    (fun s => ∀ pending ∈ s.sender.singles ++ s.sender.fragments, Small fragment_size pending.message) ?_ ?_
  · simp [Flow.start,UnreliableSendState.new]
  · intro before event after small executed cuts pending member
    cases event with
    | Send fragmenter message compression =>
      obtain ⟨⟨sender,id⟩,buffers,rfl⟩ := Option.map_eq_some_iff.mp executed
      have cuts : fragmenter.fragment_size = fragment_size := cuts
      obtain ⟨⟨short,singles,fragments,-⟩ | ⟨-,singles,fragments,-⟩,-⟩ := buffer_send_cases buffers
      · simp only [singles,fragments,List.append_assoc,List.mem_append,List.mem_singleton] at member
        rcases member with member | rfl | member
        · exact small pending (List.mem_append_left _ member)
        · exact cuts ▸ short
        · exact small pending (List.mem_append_right _ member)
      · simp only [singles,fragments,List.mem_append] at member
        rcases member with member | member | member
        · exact small pending (List.mem_append_left _ member)
        · exact small pending (List.mem_append_right _ member)
        · obtain ⟨data,isPiece,rfl⟩ := List.mem_map.mp member
          obtain ⟨i,inside,rfl⟩ := List.mem_map.mp isPiece
          have piece := piece_small (List.mem_range.mp inside)
          rwa [cut_size,cuts] at piece
    | Commit candidate =>
      simp only [Flow.step] at executed
      split at executed
      next => cases executed
      next =>
        obtain ⟨sender,commits,rfl⟩ := Option.map_eq_some_iff.mp executed
        obtain ⟨old,isOld,same⟩ := commit_send_messages commits member
        exact same ▸ small old isOld
    | Finish outcome was_ready =>
      cases executed
      obtain ⟨singles,fragments⟩ := finish_send_queues before.sender outcome was_ready
      simp only [Flow.finish,singles,fragments] at member
      refine small pending ((List.mem_append.mp member).elim ?_ ?_)
      · exact fun member => List.mem_append_left _ (List.mem_of_mem_filter member)
      · exact fun member => List.mem_append_right _ (List.mem_of_mem_filter member)
    | Ack record =>
      simp only [Flow.step] at executed
      split at executed
      next => cases executed
      next =>
        obtain ⟨⟨sender,completed⟩,acks,rfl⟩ := Option.map_eq_some_iff.mp executed
        obtain ⟨singles,fragments⟩ := receive_ack_queues acks
        simp only [singles,fragments] at member
        exact small pending member
    | Lose record =>
      simp only [Flow.step] at executed
      split at executed
      next => cases executed
      next piece ack _ =>
        cases executed
        obtain ⟨singles,fragments⟩ := receive_nack_queues before.sender ack
        simp only [singles,fragments] at member
        exact small pending member
    | Update elapsed =>
      cases executed
      exact small pending member

end Unreliable

theorem Offered.small {lz4 : Lz4} {fragment_size : Nat} {data : MessageData}
    (offered : Offered lz4 fragment_size data) :
    Small fragment_size data := by
  cases offered with
  | reliable settings s reached c member =>
    obtain ⟨id,kept,known,pending,shape⟩ := ReliableRetention.look_candidate member
    have small := pending_small reached id _ kept known pending
    rcases shape with ⟨bytes,rfl,isMessage⟩ | ⟨fragments,i,fragment,rfl,atIndex,isMessage⟩
    · rw [isMessage]
      exact small
    · rw [isMessage]
      exact small fragment (List.mem_of_getElem? atIndex)
  | unreliable delivery retry_unsent_messages s reached c member =>
    have small := queues_small reached
    rcases UnreliableFlow.candidate_cases member with ⟨i,p,stored,-,rfl⟩ | ⟨i,p,stored,-,rfl⟩
    · exact small p (List.mem_append_left _ (List.mem_of_getElem? stored))
    · exact small p (List.mem_append_right _ (List.mem_of_getElem? stored))

/-! ### Safe sizes -/

/-- No packet that starts with a candidate of a sender of this size is too large, whatever stands behind it. -/
def Safe (min_mtu fragment_size : Nat) : Prop :=
  ∀ (lz4 : Lz4) (self : PacketHeaderManager) (tick : Tick) (candidates : List SendCandidate) (cursor : CandidateCursor)
    (compression : CompressionConfig) (mtu : Nat) (first : SendCandidate),
    min_mtu ≤ mtu → next_candidate candidates cursor = some first → Offered lz4 fragment_size first.data →
    ∀ actual limit,
      build_next_packet lz4 self tick candidates cursor compression mtu ≠ .error (.PacketTooLarge actual limit)

section Far
variable {fragment_size : Nat}

private theorem count_mul (positive : 0 < fragment_size) (n : Nat) :
    Chunks.count fragment_size (n * fragment_size) = n := by
  have above : n ≤ Chunks.count fragment_size (n * fragment_size) :=
    Nat.le_of_mul_le_mul_right (Chunks.le_count_mul positive) positive
  have below : Chunks.count fragment_size (n * fragment_size) * fragment_size < n * fragment_size + fragment_size :=
    Chunks.count_mul_lt positive
  rw [← Nat.succ_mul] at below
  exact Nat.le_antisymm (Nat.le_of_lt_succ (Nat.lt_of_mul_lt_mul_right below)) above

/-- The last fragment of a message that is cut into `n + 1` fragments of the full size. -/
def far (fragment_size n : Nat) : FragmentData :=
  ⟨.zero,n,n + 1,if n = 0 then some .None else none,List.replicate fragment_size 0⟩

private theorem far_offered (positive : 0 < fragment_size) {n : Nat} (some_before : 0 < n) :
    Offered .literals fragment_size (.Fragment (far fragment_size n)) := by
  let sender : FragmentSender := ⟨fragment_size,positive⟩
  let message : Bytes := List.replicate ((n + 1) * fragment_size) 0
  have length : message.length = (n + 1) * fragment_size := List.length_replicate
  have long : sender.fragment_size < message.length := by
    rw [length,Nat.succ_mul]
    exact Nat.lt_add_of_pos_left (Nat.mul_pos some_before positive)
  have whole : cut .literals sender .zero message .DISABLED = ⟨.zero,fragment_size,message,.None⟩ := rfl
  have count : (cut .literals sender .zero message .DISABLED).count = n + 1 := by
    rw [whole,Fragmented.count,length,count_mul positive]
  have isFar : (cut .literals sender .zero message .DISABLED).piece n = far fragment_size n := by
    have bytes : Chunks.chunk fragment_size message n = List.replicate fragment_size 0 := by
      rw [Chunks.chunk,List.drop_replicate,List.take_replicate,← Nat.sub_mul,Nat.add_sub_cancel_left,Nat.one_mul,
        Nat.min_self]
    rw [whole] at count ⊢
    simp only [Fragmented.piece,count,bytes,far]
  obtain ⟨s,sent⟩ : ∃ s, UnreliableFlow.Flow.step .literals (.start .Unordered false) (.Send sender message .DISABLED) =
      some s := by
    simp only [UnreliableFlow.Flow.step,UnreliableFlow.Flow.start,SendUnreliable.UnreliableSendState.buffer_send,
      decide_eq_true long,if_true,build_fragments_cut long]
    exact ⟨_,rfl⟩
  obtain ⟨⟨sender',id⟩,buffers,rfl⟩ := Option.map_eq_some_iff.mp sent
  obtain ⟨⟨short,-⟩ | ⟨-,-,fragments,-⟩,-⟩ := UnreliableFlow.buffer_send_cases buffers
  · exact absurd short (Nat.not_le.mpr long)
  · have member : (⟨.UnreliableFragment n,.Fragment (far fragment_size n)⟩ : SendUnreliable.SendCandidate) ∈
        sender'.collect_candidates := by
      refine List.mem_append_right _ (List.mem_map.mpr
        ⟨(.new (.Fragment (far fragment_size n)),n),List.mem_filter.mpr ⟨List.mem_zipIdx_iff_getElem?.mpr ?_,rfl⟩,rfl⟩)
      have inside : n < (cut .literals sender .zero message .DISABLED).count := by
        rw [count]
        exact Nat.lt_succ_self n
      have atIndex : (cut .literals sender .zero message .DISABLED).pieces[n]? = some (far fragment_size n) := by
        rw [Fragmented.pieces,List.getElem?_map,List.getElem?_range inside,Option.map_some,isFar]
      have queued : sender'.fragments =
          (cut .literals sender .zero message .DISABLED).pieces.map fun data => .new (.Fragment data) := fragments
      rw [queued,List.getElem?_map,atIndex,Option.map_some]
    exact .unreliable .Unordered false _ (.step (.Send sender message .DISABLED) .start sent rfl) _ member

/-- A packet of a full fragment behind many others, on the longest channel id. -/
private theorem far_too_large (varint : fragment_size < 2 ^ 62) {n mtu : Nat} (few : n + 1 < 2 ^ 62)
    (index : varint_len n = 8)
    (small : mtu < longest fragment_size) : ∃ actual,
      build_next_packet .literals .new 0 [⟨0,65535,.UnreliableFragment n,.Fragment (far fragment_size n),0⟩]
        ⟨0,0⟩ .DISABLED mtu =
        .error (.PacketTooLarge actual mtu) := by
  have notFirst : n ≠ 0 := by
    rintro rfl
    cases index
  have formed : WellFormed (far fragment_size n) := by
    refine ⟨?_,Nat.lt_succ_self n,few,?_⟩
    · simp [far,notFirst]
    · rwa [far,List.length_replicate]
  have encodes := fragment_encodes formed
  have count : varint_len (n + 1) = 8 := by
    unfold varint_len at index ⊢
    split_ifs at index ⊢ <;> omega
  have bytes : FragmentData.bytes_len (far fragment_size n) = 18 + varint_len fragment_size + fragment_size := by
    have notInitial : FragmentData.is_initial_fragment (far fragment_size n) = false := by
      simp [FragmentData.is_initial_fragment,far,notFirst]
    rw [FragmentData.bytes_len,notInitial]
    simp only [far,WrappingId.bytes_len,FragmentIndex.bytes_len,index,count,Serde.Bytes.bytes_len,List.length_replicate,
      Bool.false_eq_true,if_false]
    omega
  have channel := channel_encodes 65535
  have last : FragmentData.is_last_fragment (far fragment_size n) = true := by
    simp [FragmentData.is_last_fragment,far]
  have staged : (head (PacketHeaderManager.new.preview_send_packet_header .DataFragment 0) ++ written
    (ChannelId.to_bytes 65535) ++
      written (FragmentData.to_bytes (far fragment_size n))).length > mtu := by
    have channel_len : ChannelId.bytes_len 65535 = 4 := by decide
    have header : HEADER_BYTES = 13 := rfl
    rw [longest_eq] at small
    simp only [List.length_append,length_head,channel.length,encodes.length,bytes,channel_len]
    omega
  have behind : Nat.max 0 (0 + 1) = 1 := rfl
  have nothing : ∀ candidate : SendCandidate, [candidate].drop 1 = [] := fun _ => rfl
  simp only [build_next_packet,skip_consumed,List.drop_zero,List.getElem?_cons_zero,stage_fragment,new_staged_packet_eq,
    write_ok channel.ok,write_ok encodes.ok,last,if_true,behind,nothing,append_tail,Packet.record_message_metadata,
    if_pos staged]
  exact ⟨_,rfl⟩

theorem safe_iff (positive : 0 < fragment_size) (varint : fragment_size < 2 ^ 62) {min_mtu : Nat} :
    Safe min_mtu fragment_size ↔ longest fragment_size ≤ min_mtu := by
  constructor
  · intro safe
    by_contra small
    obtain ⟨actual,tooLarge⟩ := far_too_large (n := 2 ^ 30) varint (by decide) (by decide) (Nat.not_le.mp small)
    exact safe _ _ _ _ _ _ min_mtu _ (le_refl _) rfl (far_offered positive (by decide)) _ _ tooLarge
  · intro large lz4 self tick candidates cursor compression mtu first more isNext offered actual limit tooLarge
    exact build_next_packet_small varint (large.trans more) isNext offered.small tooLarge ⟨actual,limit,rfl⟩

end Far

private theorem largest_fragment_max {available below size : Nat}
    (found : largest_fragment available below = some size) :
    0 < size ∧ ∀ larger, size < larger → larger ≤ below → available < larger + varint_len larger := by
  induction below with
  | zero => cases found
  | succ below ih =>
    rw [largest_fragment] at found
    split at found
    next => cases found
    next varint =>
    split at found
    next fits =>
      cases found
      exact ⟨Nat.succ_pos below,fun larger more less => absurd more (Nat.not_lt.mpr less)⟩
    next tight =>
      obtain ⟨positive,max⟩ := ih found
      refine ⟨positive,fun larger more less => ?_⟩
      rcases Nat.lt_succ_iff_lt_or_eq.mp (Nat.lt_succ_of_le less) with before | rfl
      · exact max larger more (Nat.le_of_lt_succ before)
      · omega

/-- A larger size does not fit with everything at its longest. -/
theorem fragment_size_max {min_mtu size : Nat} (found : fragment_size_for_min_mtu min_mtu = some size) :
    0 < size ∧ ∀ larger, size < larger → min_mtu < 36 + larger + varint_len larger := by
  have fixed : FIXED_FRAGMENT_PACKET_BYTES = 36 := by decide
  rw [fragment_size_for_min_mtu,fixed] at found
  split at found
  next => cases found
  next large =>
  obtain ⟨positive,max⟩ := largest_fragment_max found
  refine ⟨positive,fun larger more => ?_⟩
  rcases Nat.lt_or_ge (min_mtu - 36) larger with beyond | inside
  · omega
  · have tight := max larger more inside
    omega

private theorem largest_fragment_isSome {available below : Nat} (varint : below < 2 ^ 62) :
    (largest_fragment available below).isSome ↔ 0 < below ∧ 2 ≤ available := by
  induction below with
  | zero => simp [largest_fragment]
  | succ below ih =>
    have positive : varint_len (below + 1) ≠ 0 := varint_len_ne_zero.mpr varint
    rw [largest_fragment]
    simp only [if_neg positive]
    split
    next fits => exact iff_of_true rfl ⟨Nat.succ_pos below,by omega⟩
    next tight =>
      rw [ih (Nat.lt_of_succ_lt varint)]
      rcases Nat.eq_zero_or_pos below with rfl | some
      · -- The length of one byte is one byte.
        have one : varint_len (0 + 1) = 1 := rfl
        omega
      · exact and_congr_left fun _ => iff_of_true some (Nat.succ_pos below)

/-- A size is derived from every minimum MTU that has room for one byte, as far as sizes are varints. -/
theorem fragment_size_derived (min_mtu : Nat) :
    (fragment_size_for_min_mtu min_mtu).isSome ↔ FIXED_FRAGMENT_PACKET_BYTES + 2 ≤ min_mtu ∧
      min_mtu - FIXED_FRAGMENT_PACKET_BYTES < 2 ^ 62 := by
  unfold fragment_size_for_min_mtu
  split
  next small => exact iff_of_false Bool.false_ne_true fun large => by omega
  next =>
    generalize isAvailable : min_mtu - FIXED_FRAGMENT_PACKET_BYTES = available
    rcases Nat.lt_or_ge available (2 ^ 62) with varint | beyond
    · rw [largest_fragment_isSome varint]
      omega
    · have panics : largest_fragment available available = none := by
        cases available with
        | zero => rfl
        | succ below =>
          rw [largest_fragment]
          exact if_pos (not_not.mp (varint_len_ne_zero.not.mpr (Nat.not_lt.mpr beyond)))
      rw [panics]
      exact iff_of_false Bool.false_ne_true fun within => absurd within.2 (Nat.not_lt.mpr beyond)

/-- The size that is derived from the minimum MTU is safe, and so is at most the next one of the larger sizes. -/
theorem derived_size_safe {min_mtu fragment_size : Nat}
    (found : fragment_size_for_min_mtu min_mtu = some fragment_size) :
    Safe min_mtu fragment_size ∧
      ∀ larger, fragment_size < larger → larger < 2 ^ 62 → Safe min_mtu larger → larger = fragment_size + 1 := by
  obtain ⟨varint,fits⟩ := fragment_size_spec found
  obtain ⟨positive,max⟩ := fragment_size_max found
  constructor
  · refine (safe_iff positive varint).mpr ?_
    rw [longest_eq]
    omega
  · intro larger more varint' safe
    have within := (safe_iff (Nat.zero_lt_of_lt more) varint').mp safe
    rw [longest_eq] at within
    by_contra further
    have tight := max (larger - 1) (by omega)
    have mono := varint_len_mono (show larger - 1 ≤ larger from Nat.sub_le larger 1) varint'
    omega

theorem derived_size_safe_at_minimum :
    fragment_size_for_min_mtu 38 = some 1 ∧ Safe 38 1 ∧ ∀ larger, 1 < larger → larger < 2 ^ 62 → Safe 38 larger →
      larger = 2 :=
  ⟨rfl,derived_size_safe (rfl : fragment_size_for_min_mtu 38 = some 1)⟩

/-- The derived size is not always the largest that is safe. -/
theorem larger_size_safe : fragment_size_for_min_mtu 38 = some 1 ∧ Safe 38 2 :=
  ⟨rfl,(safe_iff (by decide) (by decide)).mpr (by decide)⟩

end Lightyear.FragmentSizes
