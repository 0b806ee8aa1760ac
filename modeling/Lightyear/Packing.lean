import Lightyear.PacketParse
import Lightyear.Reassembly

/-!
The staging loop: every candidate goes into exactly one packet, and every packet is
parsed to the candidates that its metadata records.
-/
namespace Lightyear.Packing
open Codec
open Lightyear.Ids Lightyear.Message Lightyear.Compression Lightyear.Header Lightyear.Serde Lightyear.Packets
open Lightyear.PacketBuilder Lightyear.ReceiveLoop Lightyear.Batches Lightyear.PacketParse

/-- The sizes that a channel admits for its fragment size: what is longer is cut into fragments. -/
def Admitted (fragment_size : Nat) (candidate : SendCandidate) : Prop :=
  match candidate.data with
  | .Single single => single.bytes.length ≤ fragment_size
  | .Fragment fragment => WellFormed fragment ∧ fragment.bytes.length ≤ fragment_size

/-- A fragment sender of the channel's fragment size builds fragments that are admitted. -/
theorem fragments_admitted {sender : Fragments.FragmentSender} {id : MessageId} {message : Bytes}
    {compression : Message.FragmentCompression} (short : message.length < 2 ^ 62) {candidate : SendCandidate}
    {fragment : FragmentData} (isFragment : candidate.data = .Fragment fragment)
    (built : fragment ∈ sender.build_fragments_with_compression id message compression)
    (varint : sender.fragment_size < 2 ^ 62) : Admitted sender.fragment_size candidate := by
  rw [Reassembly.build_fragments_with_compression_eq,List.mem_map] at built
  obtain ⟨i,inside,rfl⟩ := built
  rw [List.mem_range] at inside
  have bytes : (Chunks.chunk sender.fragment_size message i).length ≤ sender.fragment_size := Chunks.length_chunk_le i
  have few : Chunks.count sender.fragment_size message.length ≤ message.length := by
    by_cases empty : message.length = 0
    · rw [empty,(Chunks.count_eq_zero sender.positive).mpr rfl]
    · have all_but_one := Chunks.pred_count_mul_lt sender.positive (Nat.pos_of_ne_zero empty)
      have product := Nat.le_mul_of_pos_right (Chunks.count sender.fragment_size message.length - 1) sender.positive
      omega
  simp only [Admitted,isFragment]
  refine ⟨⟨?_,inside,Nat.lt_of_le_of_lt few short,Nat.lt_of_le_of_lt bytes varint⟩,bytes⟩
  simp only [Reassembly.Fragmented.piece]
  by_cases first : i = 0
  · simp [first]
  · simp [first]

/-- Of the next `ahead` candidates only the fragments are left: the singles went behind final fragments. -/
def left_from (candidates : List SendCandidate) (ahead : Nat) : List SendCandidate :=
  (candidates.take ahead).filter is_fragment ++ candidates.drop ahead

def pending (candidates : List SendCandidate) (cursor : CandidateCursor) : List SendCandidate :=
  left_from (candidates.drop cursor.index) (cursor.single_index - cursor.index)

private theorem left_from_zero (candidates : List SendCandidate) : left_from candidates 0 = candidates := by
  simp [left_from]

private theorem left_from_fragment {candidate : SendCandidate} (isFragment : is_fragment candidate = true)
    (candidates : List SendCandidate) (ahead : Nat) :
    left_from (candidate :: candidates) ahead = candidate :: left_from candidates (ahead - 1) := by
  cases ahead with
  | zero => simp [left_from]
  | succ ahead => simp [left_from,isFragment]

private theorem left_from_single {candidate : SendCandidate} (isSingle : is_fragment candidate = false)
    (candidates : List SendCandidate) (ahead : Nat) :
    left_from (candidate :: candidates) (ahead + 1) = left_from candidates ahead := by
  simp [left_from,isSingle]

/-- Going past candidates takes the singles among them. -/
private theorem left_from_pass {candidates seen rest : List SendCandidate} {ahead : Nat}
    (split : candidates.drop ahead = seen ++ rest) :
    (left_from candidates ahead).Perm ((seen.filter fun c => !is_fragment c) ++
      left_from candidates (ahead + seen.length)) := by
  have passed : candidates.take (ahead + seen.length) = candidates.take ahead ++ seen := by
    rw [List.take_add,split,List.take_left]
  have behind : candidates.drop (ahead + seen.length) = rest := by
    rw [← List.drop_drop,split,List.drop_left]
  rw [left_from,left_from,passed,behind,split,List.filter_append]
  have kinds : seen.Perm ((seen.filter fun c => !is_fragment c) ++ seen.filter is_fragment) :=
    (List.filter_append_perm is_fragment seen).symm.trans List.perm_append_comm
  refine ((kinds.append_right rest).append_left _).trans ?_
  simp only [List.append_assoc]
  exact List.perm_append_comm_assoc ..

/-- Skipping goes past singles that are consumed, and ends at none of them. -/
private theorem skip_consumed_spec (single_index : Nat) (candidates : List SendCandidate) (index : Nat) :
    ∃ passed rest, candidates = passed ++ rest ∧
      skip_consumed single_index candidates index = index + passed.length ∧
      left_from rest (single_index - (index + passed.length)) = left_from candidates (single_index - index) ∧
      ∀ candidate others, rest = candidate :: others → is_fragment candidate = false →
        single_index ≤ index + passed.length := by
  induction candidates generalizing index with
  | nil => exact ⟨[],[],rfl,rfl,rfl,by simp⟩
  | cons candidate candidates ih =>
    cases data : candidate.data with
    | Fragment fragment =>
      have isFragment : is_fragment candidate = true := by simp [is_fragment,data]
      refine ⟨[],candidate :: candidates,rfl,by simp [skip_consumed,data],rfl,?_⟩
      rintro _ _ same isSingle
      cases same
      rw [isFragment] at isSingle
      cases isSingle
    | Single single =>
      have isSingle : is_fragment candidate = false := by simp [is_fragment,data]
      by_cases consumed : index < single_index
      · obtain ⟨passed,rest,split,skips,left,stops⟩ := ih (index + 1)
        have length : index + (candidate :: passed).length = index + 1 + passed.length := by
          rw [List.length_cons]
          omega
        refine ⟨candidate :: passed,rest,by simp [split],?_,?_,?_⟩
        · simp only [skip_consumed,data,if_pos consumed,skips,length]
        · rw [length,left,show single_index - index = single_index - (index + 1) + 1 by omega,left_from_single isSingle]
        · rw [length]
          exact stops
      · refine ⟨[],candidate :: candidates,rfl,?_,rfl,fun _ _ _ _ => Nat.not_lt.mp consumed⟩
        simp only [skip_consumed,data,if_neg consumed]
        rfl

/-- A packet carries some candidates: their metadata are recorded, and it is parsed to them. -/
structure Carries (lz4 : Lz4) (compression : CompressionConfig) (mtu : Nat) (packet : Packet)
    (group : List SendCandidate) : Prop where
  messages : packet.messages = group.map metadata
  size : packet.payload.length ≤ mtu
  parsed : parse_packet lz4 compression packet.payload = (group.map content,.ok ())

private theorem single_bound {min_mtu fragment_size : Nat}
    (size : fragment_size_for_min_mtu min_mtu = some fragment_size)
    {candidate : SendCandidate} (admitted : Admitted fragment_size candidate) {single : SingleData}
    (isSingle : candidate.data = .Single single) :
    single.bytes.length < 2 ^ 62 ∧ HEADER_BYTES + 5 + SingleData.bytes_len single ≤ min_mtu := by
  obtain ⟨varint,fits⟩ := fragment_size_spec size
  have short : single.bytes.length ≤ fragment_size := by rwa [Admitted,isSingle] at admitted
  have length := varint_len_mono short varint
  have id : OptionId.bytes_len single.id ≤ 3 := by
    cases single.id <;> simp [OptionId.bytes_len,WrappingId.bytes_len]
  have header : HEADER_BYTES = 13 := rfl
  simp only [SingleData.bytes_len,Bytes.bytes_len]
  exact ⟨by omega,by omega⟩

private theorem fragment_bound {min_mtu fragment_size : Nat}
    (size : fragment_size_for_min_mtu min_mtu = some fragment_size)
    {candidate : SendCandidate} (admitted : Admitted fragment_size candidate) {fragment : FragmentData}
    (isFragment : candidate.data = .Fragment fragment) :
    WellFormed fragment ∧ HEADER_BYTES + (4 + FragmentData.bytes_len fragment) ≤ min_mtu := by
  obtain ⟨varint,fits⟩ := fragment_size_spec size
  obtain ⟨formed,short⟩ : WellFormed fragment ∧ fragment.bytes.length ≤ fragment_size := by
    rwa [Admitted,isFragment] at admitted
  have length := varint_len_mono short varint
  have index : FragmentIndex.bytes_len fragment.fragment_id ≤ 8 := varint_len_le _
  have count : FragmentIndex.bytes_len fragment.num_fragments ≤ 8 := varint_len_le _
  have compression : (if FragmentData.is_initial_fragment fragment then FragmentCompression.bytes_len .None else 0) ≤
      1 := by
    split <;> simp [FragmentCompression.bytes_len]
  have header : HEADER_BYTES = 13 := rfl
  simp only [FragmentData.bytes_len,WrappingId.bytes_len,Bytes.bytes_len]
  exact ⟨formed,by omega⟩

theorem new_staged_packet_eq (self : PacketHeaderManager) (packet_type : PacketType) (tick : Tick) :
    new_staged_packet self packet_type tick =
      .ok ⟨head (self.preview_send_packet_header packet_type tick),[],self.next_packet_id,none⟩ := rfl

section Staging
variable {lz4 : Lz4} {compression : CompressionConfig} {mtu min_mtu fragment_size : Nat}
  {candidates : List SendCandidate}
  (inverts : lz4.Inverts) (compressible : is_enabled compression = true → Compressible lz4 compression)
  (size : fragment_size_for_min_mtu min_mtu = some fragment_size) (large : min_mtu ≤ mtu)
  (admitted : ∀ candidate ∈ candidates, Admitted fragment_size candidate)
  (self : PacketHeaderManager) (tick : Tick)
include size large admitted

include inverts compressible in
private theorem stage_singles_spec {first : SendCandidate} {others : List SendCandidate} {cursor : CandidateCursor}
    (next : candidates.drop cursor.index = first :: others) (isSingle : is_fragment first = false)
    (ahead : cursor.single_index ≤ cursor.index) :
    ∃ packet cursor' group, stage_singles lz4 self tick candidates first cursor compression mtu = .ok (packet,cursor') ∧
      Carries lz4 compression mtu packet group ∧ group ≠ [] ∧
      (pending candidates cursor).Perm (group ++ pending candidates cursor') := by
  have inside : ∀ candidate ∈ candidates.drop cursor.index, Admitted fragment_size candidate :=
    fun candidate member => admitted candidate (List.mem_of_mem_drop member)
  obtain ⟨single,data⟩ : ∃ single, first.data = .Single single := by
    cases data : first.data with
    | Single single => exact ⟨single,rfl⟩
    | Fragment fragment => simp [is_fragment,data] at isSingle
  obtain ⟨-,first_fits⟩ := single_bound size (inside first (by simp [next])) data
  have start := filled_nil ⟨head (self.preview_send_packet_header .Data tick),[],self.next_packet_id,none⟩
  obtain ⟨seen,rest,looped,split,loops,⟨⟨state,closed,last,filled⟩,fits⟩,singles,nothing_fits⟩ :=
    append_singles_spec (fits_decided compressible mtu (self.preview_send_packet_header .Data tick))
      (fun candidate member single isSingle => (single_bound size (inside candidate member) isSingle).1) start
        cursor.index
  have nonempty : seen ≠ [] := by
    intro none
    have tight := (nothing_fits none).2 first others single next data
    rw [length_head] at tight
    omega
  have all_singles : seen.filter (fun c => !is_fragment c) = seen := by
    rw [List.filter_eq_self]
    intro candidate member
    simp [singles candidate member]
  rw [all_singles,List.nil_append] at filled
  have fit := fits (if_pos (by rw [length_head]; omega))
  obtain ⟨finished,finishes,messages,within,parsed⟩ := finish_spec compressible inverts rfl filled.payload fit
  refine ⟨finished,⟨cursor.index + seen.length,Nat.max cursor.single_index (cursor.index + seen.length)⟩,seen,
    ?_,⟨?_,within,?_⟩,nonempty,?_⟩
  · have some_messages : looped.messages.isEmpty = false := by
      rw [filled.messages]
      simpa using nonempty
    simp only [stage_singles,new_staged_packet_eq,loops,some_messages,finishes]
    rfl
  · rw [messages,filled.messages]
    rfl
  · rw [parsed,decode_singles filled.sound,filled.contents]
  · have behind : candidates.drop (cursor.index + seen.length) = rest := by
      rw [← List.drop_drop,split,List.drop_left]
    have caught_up : Nat.max cursor.single_index (cursor.index + seen.length) - (cursor.index + seen.length) = 0 := by
      simp only [Nat.max_def]
      split <;> omega
    rw [pending,pending,Nat.sub_eq_zero_of_le ahead,left_from_zero,caught_up,left_from_zero,behind,split]

omit large in
/-- What the tail loop adds to a packet that starts with a fragment. -/
private theorem tail_spec {first : SendCandidate} (fragment : FragmentData) {others : List SendCandidate} {index : Nat}
    (next : candidates.drop index = first :: others) (single_index : Nat)
    {packet : Packet} (start : fits lz4 packet.payload .DISABLED mtu = .ok true) :
    ∃ seen looped single_index', (if FragmentData.is_last_fragment fragment then
        append_tail lz4 first.effective_priority mtu (candidates.drop (Nat.max single_index (index + 1))) packet none
          (Nat.max single_index (index + 1))
      else .ok (packet,single_index)) = .ok (looped,single_index') ∧
      Looped lz4 .DISABLED mtu packet.payload packet.messages packet [] seen looped ∧
      looped.payload.length ≤ mtu ∧
      (left_from others (single_index - (index + 1))).Perm ((seen.filter fun c => !is_fragment c) ++
        left_from others (single_index' - (index + 1))) := by
  have within : ∀ {looped seen}, Looped lz4 .DISABLED mtu packet.payload packet.messages packet [] seen looped →
      looped.payload.length ≤ mtu := by
    intro looped seen filled
    have fit := filled.fits start
    rw [fits_disabled] at fit
    simpa using fit
  by_cases last : FragmentData.is_last_fragment fragment = true
  · have inside : ∀ candidate ∈ candidates.drop (Nat.max single_index (index + 1)),
        ∀ single, candidate.data = .Single single → single.bytes.length < 2 ^ 62 := by
      intro candidate member single isSingle
      exact (single_bound size (admitted candidate (List.mem_of_mem_drop member)) isSingle).1
    obtain ⟨seen,rest,looped,split,loops,filled⟩ := append_tail_spec lz4 first.effective_priority mtu inside
      (filled_nil packet) (Nat.max single_index (index + 1))
    have behind : Nat.max single_index (index + 1) = index + 1 + (single_index - (index + 1)) := by
      simp only [Nat.max_def]
      split <;> omega
    have passed : others.drop (single_index - (index + 1)) = seen ++ rest := by
      rw [← split,behind,← List.drop_drop,← List.drop_drop,next,List.drop_one,List.tail_cons]
    have left := left_from_pass passed
    refine ⟨seen,looped,Nat.max single_index (index + 1) + seen.length,?_,filled,within filled,?_⟩
    · rw [if_pos last,loops]
    · rwa [behind,Nat.add_assoc,Nat.add_sub_cancel_left]
  · have filled : Looped lz4 .DISABLED mtu packet.payload packet.messages packet [] [] packet :=
      looped_nil (filled_nil packet)
    exact ⟨[],packet,single_index,if_neg last,filled,within filled,by simp⟩

private theorem stage_fragment_spec {first : SendCandidate} {fragment : FragmentData}
    (data : first.data = .Fragment fragment) {others : List SendCandidate} {cursor : CandidateCursor}
    (next : candidates.drop cursor.index = first :: others) :
    ∃ packet cursor' group, stage_fragment lz4 self tick candidates first fragment
        ⟨cursor.index + 1,cursor.single_index⟩ mtu = .ok (packet,cursor') ∧
      Carries lz4 compression mtu packet group ∧ group ≠ [] ∧
      (pending candidates cursor).Perm (group ++ pending candidates cursor') := by
  have isFragment : is_fragment first = true := by simp [is_fragment,data]
  have member : first ∈ candidates.drop cursor.index := by simp [next]
  obtain ⟨formed,fragment_fits⟩ := fragment_bound size (admitted first (List.mem_of_mem_drop member)) data
  have channel := channel_encodes first.channel_id
  have encodes := fragment_encodes formed
  have short := channel_len_le first.channel_id
  let header := self.preview_send_packet_header .DataFragment tick
  let front := written (ChannelId.to_bytes first.channel_id) ++ written (FragmentData.to_bytes fragment)
  let packet : Packet := ⟨head header ++ front,[metadata first],self.next_packet_id,none⟩
  have start : fits lz4 packet.payload .DISABLED mtu = .ok true := by
    refine if_pos ?_
    simp only [packet,front,List.length_append,length_head,channel.length,encodes.length]
    omega
  obtain ⟨seen,looped,single_index',tails,⟨⟨state,closed,last,filled⟩,-⟩,within,left⟩ :=
    tail_spec size admitted fragment next cursor.single_index start
  refine ⟨looped,⟨cursor.index + 1,single_index'⟩,first :: seen.filter fun c => !is_fragment c,?_,⟨?_,within,?_⟩,
    by simp,?_⟩
  · have recorded : metadata first = ⟨first.channel_id,some fragment.message_id,some fragment.fragment_id,
        ⟨first.channel_kind,first.key⟩⟩ := by
      simp [metadata,data,MessageData.message_id,fragment_index]
    simp only [stage_fragment,new_staged_packet_eq,write_ok channel.ok,write_ok encodes.ok,
      Packet.record_message_metadata,← recorded,List.nil_append,List.append_assoc]
    simp only [packet,front,header] at tails
    rw [tails]
    exact if_neg (Nat.not_lt.mpr within)
  · rw [filled.messages]
    simp [packet]
  · rw [filled.payload]
    simp only [packet,front,List.append_assoc]
    rw [parse_head]
    refine (decode_fragment formed first.channel_id filled.sound).trans ?_
    rw [filled.contents]
    simp [content,data]
  · have behind : candidates.drop (cursor.index + 1) = others := by
      rw [← List.drop_drop,next,List.drop_one,List.tail_cons]
    rw [pending,pending,next,left_from_fragment isFragment,behind,Nat.sub_sub]
    exact left.cons first

/-! ### All packets -/

include inverts compressible in
/-- One call stages some of the candidates that are left, or there were none. -/
theorem build_next_packet_spec (cursor : CandidateCursor) :
    build_next_packet lz4 self tick candidates cursor compression mtu = .ok none ∧ pending candidates cursor = [] ∨
      ∃ packet cursor' group,
        build_next_packet lz4 self tick candidates cursor compression mtu = .ok (some (packet,cursor')) ∧
        Carries lz4 compression mtu packet group ∧ group ≠ [] ∧
        (pending candidates cursor).Perm (group ++ pending candidates cursor') := by
  obtain ⟨passed,rest,split,skips,left,stops⟩ :=
    skip_consumed_spec cursor.single_index (candidates.drop cursor.index) cursor.index
  let at_next : CandidateCursor := ⟨cursor.index + passed.length,cursor.single_index⟩
  have next : candidates.drop at_next.index = rest := by
    rw [← List.drop_drop,split,List.drop_left]
  have same : pending candidates cursor = pending candidates at_next := by
    rw [pending,pending,next]
    exact left.symm
  have first : candidates[at_next.index]? = rest.head? := by rw [← next,List.head?_drop]
  rw [build_next_packet,skips,same]
  cases rest with
  | nil =>
    left
    refine ⟨?_,by simp [pending,next,left_from]⟩
    simp only [at_next] at first
    simp only [first,List.head?_nil]
  | cons candidate others =>
    right
    simp only [at_next] at first
    simp only [first,List.head?_cons]
    cases data : candidate.data with
    | Fragment fragment =>
      obtain ⟨packet,cursor',group,stages,carried⟩ := stage_fragment_spec size large admitted self tick data next
      refine ⟨packet,cursor',group,?_,carried⟩
      simp only [at_next] at stages
      simp only [stages]
    | Single single =>
      have isSingle : is_fragment candidate = false := by simp [is_fragment,data]
      obtain ⟨packet,cursor',group,stages,carried⟩ := stage_singles_spec inverts compressible size large admitted self
        tick next isSingle (stops candidate others rfl isSingle)
      refine ⟨packet,cursor',group,?_,carried⟩
      simp only [at_next] at stages
      simp only [stages]

include inverts compressible in
private theorem stage_packets_spec (real : Duration) (fuel : Nat) (cursor : CandidateCursor)
    (enough : (pending candidates cursor).length < fuel) :
    ∃ packets groups, stage_packets lz4 tick real candidates compression mtu fuel self cursor = some (packets,.ok ()) ∧
      groups.flatten.Perm (pending candidates cursor) ∧ List.Forall₂ (Carries lz4 compression mtu) packets groups := by
  induction fuel generalizing self cursor with
  | zero => omega
  | succ fuel ih =>
    rcases build_next_packet_spec inverts compressible size large admitted self tick cursor with
      ⟨builds,empty⟩ | ⟨packet,cursor',group,builds,carried,nonempty,taken⟩
    · exact ⟨[],[],by simp only [stage_packets,builds],by simp [empty],.nil⟩
    · have length := taken.length_eq
      have some_taken := List.length_pos_iff.mpr nonempty
      rw [List.length_append] at length
      obtain ⟨packets,groups,stages,perm,all⟩ := ih (self.commit_send_packet packet.packet_id real) cursor' (by omega)
      refine ⟨packet :: packets,group :: groups,by simp only [stage_packets,builds,stages],?_,.cons carried all⟩
      rw [List.flatten_cons]
      exact (perm.append_left group).trans taken.symm

end Staging

/-- Whatever candidates there are, in whatever order, staging them ends: every candidate is in exactly one packet,
    and every packet is within the MTU and is parsed to its candidates, in the order of its metadata. -/
theorem packets_carry_candidates {lz4 : Lz4} {compression : CompressionConfig} {mtu min_mtu fragment_size : Nat}
    {candidates : List SendCandidate} (inverts : lz4.Inverts)
    (compressible : is_enabled compression = true → Compressible lz4 compression)
    (size : fragment_size_for_min_mtu min_mtu = some fragment_size) (large : min_mtu ≤ mtu)
    (admitted : ∀ candidate ∈ candidates, Admitted fragment_size candidate) (self : PacketHeaderManager) (tick : Tick)
    (real : Duration) :
    ∃ packets groups,
      stage_packets lz4 tick real candidates compression mtu (candidates.length + 1) self ⟨0,0⟩ =
        some (packets,.ok ()) ∧
      groups.flatten.Perm candidates ∧ List.Forall₂ (Carries lz4 compression mtu) packets groups := by
  have all : pending candidates ⟨0,0⟩ = candidates := by simp [pending,left_from]
  have staged := stage_packets_spec inverts compressible size large admitted self tick real
    (candidates.length + 1) ⟨0,0⟩
    (by rw [all]; exact Nat.lt_succ_self _)
  rwa [all] at staged

/-- A message in two fragments and a single behind them, with a compressor that is only tried. -/
theorem packets_carry_candidates_mixed :
    ∃ packets groups, stage_packets Lz4.literals 5 0
        [⟨0,1,.ReliableFragment ⟨3⟩ 0,.Fragment ⟨⟨3⟩,0,2,some .None,List.replicate 23 9⟩,0⟩,
          ⟨0,1,.ReliableFragment ⟨3⟩ 1,.Fragment ⟨⟨3⟩,1,2,none,[9]⟩,0⟩,⟨1,2,.UnreliableSingle 0,.Single ⟨none,[7]⟩,1⟩]
        ⟨some .Lz4,0,12⟩ 60 4 .new ⟨0,0⟩ = some (packets,.ok ()) ∧
      groups.flatten.Perm
        [⟨0,1,.ReliableFragment ⟨3⟩ 0,.Fragment ⟨⟨3⟩,0,2,some .None,List.replicate 23 9⟩,0⟩,
          ⟨0,1,.ReliableFragment ⟨3⟩ 1,.Fragment ⟨⟨3⟩,1,2,none,[9]⟩,0⟩,⟨1,2,.UnreliableSingle 0,.Single ⟨none,[7]⟩,1⟩] ∧
      List.Forall₂ (Carries Lz4.literals ⟨some .Lz4,0,12⟩ 60) packets groups := by
  refine packets_carry_candidates literals_inverts (fun _ => ⟨by decide,fun payload within => ?_⟩)
    (rfl : fragment_size_for_min_mtu 60 = some 23) (le_refl 60) ?_ .new 5 0
  · rw [Lz4.literals]
    simp only [if_pos (show payload.length < 13 from Nat.lt_succ_of_le within),Option.isSome_some]
  · -- The fragments are those of a message of 24 bytes.
    let sender : Fragments.FragmentSender := ⟨23,by decide⟩
    have cut (fragment : FragmentData)
        (built : fragment ∈ sender.build_fragments_with_compression ⟨3⟩ (List.replicate 24 9) .None)
        (candidate : SendCandidate) (isFragment : candidate.data = .Fragment fragment) :
          Admitted sender.fragment_size candidate :=
      fragments_admitted (by decide) isFragment built (by decide)
    simp only [List.forall_mem_cons]
    refine ⟨cut _ (by decide) _ rfl,cut _ (by decide) _ rfl,?_,by simp⟩
    rw [Admitted]
    decide

/-- Such a message is staged, but the packet cannot be finished. -/
theorem oversized_stops (lz4 : Lz4) {compression : CompressionConfig} {mtu : Nat} {candidate : SendCandidate}
    {single : SingleData} (isSingle : candidate.data = .Single single) (algorithm : compression.algorithm = some .Lz4)
    (varint : single.bytes.length < 2 ^ 62) (long : 2 ^ 32 ≤ single.bytes.length)
    (tried : compression.min_payload_size ≤ single.bytes.length)
    (room : HEADER_BYTES + 5 + SingleData.bytes_len single ≤ mtu)
    (within : 5 + SingleData.bytes_len single ≤ compression.max_decompressed_payload_size) (self : PacketHeaderManager)
    (tick : Tick) (real : Duration) (fuel : Nat) :
    stage_packets lz4 tick real [candidate] compression mtu (fuel + 1) self ⟨0,0⟩ =
      some ([],.error .CompressionFailed) := by
  have channel := channel_encodes candidate.channel_id
  have encodes := single_encodes varint
  have short := channel_len_le candidate.channel_id
  let header := self.preview_send_packet_header .Data tick
  let body := written (ChannelId.to_bytes candidate.channel_id) ++ [1] ++ written (SingleData.to_bytes single)
  have body_len : single.bytes.length ≤ body.length ∧ body.length ≤ 5 + SingleData.bytes_len single := by
    simp only [body,List.length_append,channel.length,encodes.length,List.length_singleton,SingleData.bytes_len,
      Bytes.bytes_len]
    omega
  have fit : fits lz4 (head header ++ body) compression mtu = .ok true := by
    refine if_pos ?_
    rw [List.length_append,length_head]
    omega
  have fails := evaluate_oversized lz4 mtu algorithm (rfl : header.packet_type = .Data) (le_trans long body_len.1)
    (le_trans tried body_len.1) (le_trans body_len.2 within)
  let packet : Packet := ⟨head header ++ body,[metadata candidate],self.next_packet_id,none⟩
  have appends : try_append_single_candidate lz4 ⟨head header,[],self.next_packet_id,none⟩ candidate none
    compression mtu =
      .ok (true,packet,some (state_of (head header) (candidate.channel_id,[⟨none,[]⟩]))) := by
    have recorded : metadata candidate =
        ⟨candidate.channel_id,single.id,none,⟨candidate.channel_kind,candidate.key⟩⟩ := by
      simp [metadata,isSingle,MessageData.message_id,fragment_index]
    simp only [body,List.append_assoc] at fit
    simp only [try_append_single_candidate,isSingle,count_in_batch,open_batch_eq,write_ok encodes.ok,
      Packet.record_message_metadata,← recorded,List.append_assoc,List.nil_append,fit,packet,body]
  have finishes : finish_compression_aware_packet lz4 packet compression mtu = .error .CompressionFailed := by
    simp only [finish_compression_aware_packet,compress_packet,packet,fails]
  have stages : stage_singles lz4 self tick [candidate] candidate ⟨0,0⟩ compression mtu =
      .error .CompressionFailed := by
    have loops : append_singles lz4 compression mtu [candidate] ⟨head header,[],self.next_packet_id,none⟩ none 0 =
        .ok (packet,1) := by
      simp only [append_singles,isSingle,appends]
    simp only [header] at loops
    simp only [stage_singles,new_staged_packet_eq,List.drop_zero,loops,finishes]
    rfl
  have skips : skip_consumed 0 [candidate] 0 = 0 := by simp [skip_consumed,isSingle]
  simp only [stage_packets,build_next_packet,List.drop_zero,skips,List.getElem?_cons_zero,isSingle,stages]

/-- A message that is one byte too long for the size prefix of the compressor. -/
def oversized : SendCandidate := ⟨0,0,.UnreliableSingle 0,.Single ⟨none,List.replicate (2 ^ 32) 0⟩,0⟩

/-- The MTU and the limit of the configuration have room for it, but the flush ends with an error and no packet. -/
theorem oversized_not_staged :
    fragment_size_for_min_mtu (2 ^ 34) = some (2 ^ 34 - 44) ∧ Admitted (2 ^ 34 - 44) oversized ∧
      ∀ lz4 : Lz4, stage_packets lz4 0 0 [oversized] ⟨some .Lz4,128,2 ^ 33⟩ (2 ^ 34) 2 .new ⟨0,0⟩ =
        some ([],.error .CompressionFailed) := by
  refine ⟨rfl,?_,fun lz4 => ?_⟩
  · simp only [Admitted,oversized,List.length_replicate]
    decide
  · have length : (List.replicate (2 ^ 32) (0 : Byte)).length = 2 ^ 32 := List.length_replicate
    have size : SingleData.bytes_len ⟨none,List.replicate (2 ^ 32) 0⟩ = 9 + 2 ^ 32 := by
      rw [SingleData.bytes_len,Bytes.bytes_len,length]
      rfl
    refine oversized_stops lz4 (rfl : oversized.data = .Single ⟨none,List.replicate (2 ^ 32) 0⟩) rfl ?_ ?_ ?_ ?_ ?_
      .new 0 0 1
    · rw [length]
      decide
    · rw [length]
    · rw [length]
      decide
    · rw [size]
      decide
    · rw [size]
      decide

end Lightyear.Packing
