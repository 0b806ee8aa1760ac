import Lightyear.AckBits
import Lightyear.Maps
import Lightyear.Message

/-!
`packet/packet_type.rs` and the `PacketHeaderManager` of `packet/header.rs`. The
packet statistics are left out, and the nack timeout, which the settings compute
from the link statistics in floating point, is an argument.
-/
namespace Lightyear.Header
open Maps (Map)
open Lightyear.Ids Lightyear.Ids.WrappingId Lightyear.Message Lightyear.AckBits

inductive PacketType where
  | Data
  | DataFragment
  | DataCompressed
  | DataFragmentCompressed
  | AckOnly
deriving DecidableEq, Repr

def PacketType.is_ack_eliciting (self : PacketType) : Bool := self != .AckOnly

structure PacketHeader where
  packet_type : PacketType
  packet_id : PacketId
  last_ack_packet_id : PacketId
  ack_bitfield : BitVec 32
  tick : Tick
deriving DecidableEq, Repr

def PacketHeader.get_bitfield_bit (self : PacketHeader) (i : Nat) :
    Bool := self.ack_bitfield &&& (1 : BitVec 32) <<< i != 0

/-- The sent packets are an `IndexMap` from their ids to the time that they were sent at. -/
structure PacketHeaderManager where
  next_packet_id : PacketId
  sent_packets_not_acked : Map PacketId Duration
  lost_packets : List PacketId
  newly_acked_packets : Map PacketId Duration
  newly_acked_packet_scratch : List (PacketId × Duration)
  recv_buffer : ReceiveBuffer
  ack_pending : Bool
deriving DecidableEq

namespace PacketHeaderManager

def new : PacketHeaderManager :=
  ⟨zero,∅,[],∅,[],.new,false⟩

/-- `i16::MAX` -/
def i16_max : Int := 2 ^ 15 - 1

/-- The test of `update`: too long ago, or too far behind for its id to be told apart. -/
def is_lost (self : PacketHeaderManager) (real nack_duration : Duration) (packet_id : PacketId)
    (time_sent : Duration) : Bool :=
  real - time_sent > nack_duration || self.next_packet_id.sub packet_id > i16_max / 3

/-- `PacketHeaderManager::update` -/
def update (self : PacketHeaderManager) (real nack_duration : Duration) : PacketHeaderManager :=
  { self with
    sent_packets_not_acked :=
      Maps.retain (fun packet_id time_sent => !self.is_lost real nack_duration packet_id time_sent)
        self.sent_packets_not_acked
    lost_packets := self.lost_packets ++
      (self.sent_packets_not_acked.entries.filter fun sent => self.is_lost real nack_duration sent.1 sent.2).keys }

/-- `PacketHeaderManager::update_sent_packets_not_acked` -/
def update_sent_packets_not_acked (self : PacketHeaderManager) (packet_id : PacketId) :
    PacketHeaderManager × Option (PacketId × Duration) :=
  match self.sent_packets_not_acked.lookup packet_id with
  | some time_sent =>
    ({ self with sent_packets_not_acked := Maps.swapRemove self.sent_packets_not_acked packet_id },
      some (packet_id,time_sent))
  | none => (self,none)

/-- `PacketHeaderManager::record_newly_acked_packet` -/
def record_newly_acked_packet (self : PacketHeaderManager) (packet : PacketId) (real time_sent : Duration) :
    PacketHeaderManager :=
  { self with
    newly_acked_packets := Maps.insertBack self.newly_acked_packets packet (real - time_sent)
    newly_acked_packet_scratch := self.newly_acked_packet_scratch ++ [(packet,real - time_sent)] }

/-- What a header that acknowledges `packet_id` makes `process_recv_packet_header` do. -/
def acknowledge (self : PacketHeaderManager) (real : Duration) (packet_id : PacketId) : PacketHeaderManager :=
  match self.update_sent_packets_not_acked packet_id with
  | (self,some (packet,time_sent)) => self.record_newly_acked_packet packet real time_sent
  | (self,none) => self

/-- The first half of `process_recv_packet_header`: the packet itself has been received. -/
def record_received (self : PacketHeaderManager) (header : PacketHeader) : PacketHeaderManager :=
  { self with
    newly_acked_packet_scratch := []
    recv_buffer := self.recv_buffer.recv_packet header.packet_id
    ack_pending := self.ack_pending || header.packet_type.is_ack_eliciting }

/-- `PacketHeaderManager::process_recv_packet_header`; the slice that it returns is the scratch. -/
def process_recv_packet_header (self : PacketHeaderManager) (header : PacketHeader) (real : Duration) :
    PacketHeaderManager :=
  let self := (self.record_received header).acknowledge real header.last_ack_packet_id
  (List.range' 1 ack_bitfield_size).foldl (fun self i =>
    if header.get_bitfield_bit (i - 1) then self.acknowledge real (header.last_ack_packet_id.wrapping_sub i)
    else self) self

/-- `PacketHeaderManager::preview_send_packet_header` -/
def preview_send_packet_header (self : PacketHeaderManager) (packet_type : PacketType) (tick : Tick) :
    PacketHeader where
  packet_type := packet_type
  packet_id := self.next_packet_id
  -- Before any packet was received: the largest id, so that receiving id 0 counts as an update.
  last_ack_packet_id := self.recv_buffer.last_recv_packet_id.getD max
  ack_bitfield := self.recv_buffer.get_bitfield
  tick := tick

/-- `PacketHeaderManager::commit_send_packet` -/
def commit_send_packet (self : PacketHeaderManager) (packet_id : PacketId) (real : Duration) : PacketHeaderManager :=
  { self with
    sent_packets_not_acked := Maps.insertBack self.sent_packets_not_acked packet_id real
    next_packet_id := self.next_packet_id.add_assign 1
    ack_pending := false }

/-- `PacketHeaderManager::commit_send_ack_only` -/
def commit_send_ack_only (self : PacketHeaderManager) (_packet_id : PacketId) : PacketHeaderManager :=
  { self with
    next_packet_id := self.next_packet_id.add_assign 1
    ack_pending := false }

end PacketHeaderManager
open PacketHeaderManager

/-! ### What the operations do to the packets in flight -/

theorem get_bitfield_bit_eq (header : PacketHeader) (i : Nat) :
    header.get_bitfield_bit i = header.ack_bitfield.getLsbD i := by
  have mask : (1 : BitVec 32) <<< i = BitVec.twoPow 32 i := rfl
  rw [PacketHeader.get_bitfield_bit,mask,BitVec.and_twoPow]
  by_cases inside : i < 32
  · have nonzero : BitVec.twoPow 32 i ≠ 0#32 := by
      intro zero
      have bit := BitVec.getLsbD_twoPow (w := 32) i i
      rw [zero] at bit
      simp [inside] at bit
    cases bit : header.ack_bitfield.getLsbD i
    · simp
    · simpa using nonzero
  · simp [BitVec.getLsbD_of_ge _ _ (Nat.not_lt.mp inside)]

/-- The ids that a header acknowledges, in the order in which they are looked up. -/
def acks (header : PacketHeader) : List PacketId :=
  header.last_ack_packet_id ::
    ((List.range' 1 ack_bitfield_size).filter fun i => header.get_bitfield_bit (i - 1)).map
      header.last_ack_packet_id.wrapping_sub

theorem mem_acks {header : PacketHeader} {id : PacketId} :
    id ∈ acks header ↔ id = header.last_ack_packet_id ∨
      ∃ i < 32, header.ack_bitfield.getLsbD i = true ∧ id = header.last_ack_packet_id.wrapping_sub (i + 1) := by
  simp only [acks,List.mem_cons,List.mem_map,List.mem_filter,List.mem_range'_1,get_bitfield_bit_eq,ack_bitfield_size]
  constructor
  · rintro (last | ⟨i,⟨⟨low,high⟩,bit⟩,rfl⟩)
    · exact .inl last
    · exact .inr ⟨i - 1,by omega,bit,by rw [Nat.sub_add_cancel low]⟩
  · rintro (last | ⟨i,low,bit,rfl⟩)
    · exact .inl last
    · exact .inr ⟨i + 1,⟨⟨by omega,by omega⟩,by simpa using bit⟩,rfl⟩

/-- The packets in flight that one operation classifies, and takes out. -/
structure Classified (before after : PacketHeaderManager) (ids : List PacketId) : Prop where
  distinct : ids.Nodup
  inFlight : ∀ id ∈ ids, id ∈ before.sent_packets_not_acked
  left : ∀ id, after.sent_packets_not_acked.lookup id =
    if id ∈ ids then none else before.sent_packets_not_acked.lookup id
  next : after.next_packet_id = before.next_packet_id

theorem Classified.mem {before after : PacketHeaderManager} {ids : List PacketId} (known : Classified before after ids)
    (id : PacketId) : id ∈ after.sent_packets_not_acked ↔ id ∈ before.sent_packets_not_acked ∧ id ∉ ids := by
  rw [Maps.mem_iff_lookup,Maps.mem_iff_lookup,known.left]
  by_cases member : id ∈ ids
  · simp [member]
  · simp [member]

/-- `update` reports as lost what it takes out. -/
theorem update_classified (self : PacketHeaderManager) (real nack_duration : Duration) :
    ∃ ids, Classified self (self.update real nack_duration) ids ∧
      (self.update real nack_duration).lost_packets = self.lost_packets ++ ids ∧
      (self.update real nack_duration).newly_acked_packets = self.newly_acked_packets := by
  have found : ∀ id, id ∈ (self.sent_packets_not_acked.entries.filter fun sent =>
      self.is_lost real nack_duration sent.1 sent.2).keys ↔
      ∃ time, self.sent_packets_not_acked.lookup id = some time ∧ self.is_lost real nack_duration id time = true := by
    intro id
    rw [List.mem_keys]
    simp only [List.mem_filter,Maps.lookup_eq_some_iff]
  refine ⟨_,⟨?_,?_,?_,rfl⟩,rfl,rfl⟩
  · exact (self.sent_packets_not_acked.nodupKeys.sublist List.filter_sublist)
  · intro id member
    obtain ⟨time,sent,-⟩ := (found id).mp member
    exact (Maps.mem_iff_lookup _ _).mpr ⟨time,sent⟩
  · intro id
    rw [update,Maps.lookup_retain]
    cases sent : self.sent_packets_not_acked.lookup id with
    | none => simp
    | some time =>
      by_cases lost : self.is_lost real nack_duration id time = true
      · simp [lost,(found id).mpr ⟨time,sent,lost⟩]
      · have kept : id ∉ (self.sent_packets_not_acked.entries.filter fun sent =>
            self.is_lost real nack_duration sent.1 sent.2).keys := by
          intro member
          obtain ⟨other,same,bad⟩ := (found id).mp member
          rw [sent] at same
          cases same
          exact lost bad
        simp [lost,kept]

/-- Some ids are acknowledged: those of them that are in flight are reported, each once. -/
structure Acknowledged (before after : PacketHeaderManager) (asked ids : List PacketId) : Prop where
  classified : Classified before after ids
  mem : ∀ id, id ∈ ids ↔ id ∈ asked ∧ id ∈ before.sent_packets_not_acked
  scratch : after.newly_acked_packet_scratch.map (·.1) = before.newly_acked_packet_scratch.map (·.1) ++ ids
  newly : ∀ id, id ∈ after.newly_acked_packets ↔ id ∈ before.newly_acked_packets ∨ id ∈ ids
  lost : after.lost_packets = before.lost_packets
  recv : after.recv_buffer = before.recv_buffer

private theorem acknowledge_none (self : PacketHeaderManager) : Acknowledged self self [] [] :=
  ⟨⟨List.nodup_nil,by simp,by simp,rfl⟩,by simp,by simp,by simp,rfl,rfl⟩

private theorem acknowledge_one (self : PacketHeaderManager) (real : Duration) (id : PacketId) :
    ∃ ids, Acknowledged self (self.acknowledge real id) [id] ids := by
  cases sent : self.sent_packets_not_acked.lookup id with
  | none =>
    have absent : id ∉ self.sent_packets_not_acked := AList.lookup_eq_none.mp sent
    have unchanged : self.acknowledge real id = self := by simp [acknowledge,update_sent_packets_not_acked,sent]
    rw [unchanged]
    refine ⟨[],{ acknowledge_none self with mem := fun other => ?_ }⟩
    simp only [List.not_mem_nil,List.mem_singleton,false_iff,not_and]
    rintro rfl
    exact absent
  | some time =>
    have present : id ∈ self.sent_packets_not_acked := (Maps.mem_iff_lookup _ _).mpr ⟨time,sent⟩
    have acked : self.acknowledge real id =
        ({ self with sent_packets_not_acked := Maps.swapRemove self.sent_packets_not_acked id }
          : PacketHeaderManager).record_newly_acked_packet id real time := by
      simp [acknowledge,update_sent_packets_not_acked,sent]
    rw [acked]
    refine ⟨[id],⟨List.nodup_singleton id,by simpa using present,fun other => ?_,rfl⟩,fun other => ?_,?_,
      fun other => ?_,
      rfl,rfl⟩
    · simp [record_newly_acked_packet,Maps.lookup_swapRemove]
    · simp only [List.mem_singleton,iff_self_and]
      rintro rfl
      exact present
    · simp [record_newly_acked_packet]
    · rw [Maps.mem_iff_lookup,Maps.mem_iff_lookup]
      simp only [record_newly_acked_packet,Maps.lookup_insertBack,List.mem_singleton]
      by_cases same : other = id
      · simp [same]
      · simp [same]

private theorem Acknowledged.append {a b c : PacketHeaderManager} {asked asked' ids ids' : List PacketId}
    (first : Acknowledged a b asked ids) (second : Acknowledged b c asked' ids') :
    Acknowledged a c (asked ++ asked') (ids ++ ids') where
  classified := {
    distinct := by
      refine List.nodup_append.mpr ⟨first.classified.distinct,second.classified.distinct,?_⟩
      rintro id before _ again rfl
      exact ((first.classified.mem id).mp (second.classified.inFlight id again)).2 before
    inFlight := by
      intro id member
      rcases List.mem_append.mp member with before | later
      · exact first.classified.inFlight id before
      · exact ((first.classified.mem id).mp (second.classified.inFlight id later)).1
    left := by
      intro id
      rw [second.classified.left,first.classified.left]
      by_cases later : id ∈ ids'
      · simp [later]
      · simp [later]
    next := second.classified.next.trans first.classified.next }
  mem := by
    intro id
    rw [List.mem_append,List.mem_append,first.mem,second.mem,first.classified.mem,first.mem]
    tauto
  scratch := by rw [second.scratch,first.scratch,List.append_assoc]
  newly := by
    intro id
    rw [second.newly,first.newly,List.mem_append,or_assoc]
  lost := second.lost.trans first.lost
  recv := second.recv.trans first.recv

private theorem acknowledge_all (real : Duration) (asked : List PacketId) (self : PacketHeaderManager) :
    ∃ ids, Acknowledged self (asked.foldl (acknowledge · real) self) asked ids := by
  induction asked generalizing self with
  | nil => exact ⟨[],acknowledge_none self⟩
  | cons id asked ih =>
    obtain ⟨ids,first⟩ := acknowledge_one self real id
    obtain ⟨ids',rest⟩ := ih (self.acknowledge real id)
    exact ⟨ids ++ ids',first.append rest⟩

/-- Whatever the header says, it reports the packets in flight that it acknowledges. -/
theorem process_acknowledged (self : PacketHeaderManager) (header : PacketHeader) (real : Duration) :
    ∃ ids, Acknowledged (self.record_received header)
      (self.process_recv_packet_header header real) (acks header) ids := by
  have loop : ∀ (is : List Nat) (self : PacketHeaderManager),
      is.foldl (fun self i => if header.get_bitfield_bit (i - 1) then
          self.acknowledge real (header.last_ack_packet_id.wrapping_sub i) else self) self =
        ((is.filter fun i => header.get_bitfield_bit (i - 1)).map header.last_ack_packet_id.wrapping_sub).foldl
          (acknowledge · real) self := by
    intro is
    induction is with
    | nil => intro _; rfl
    | cons i is ih =>
      intro self
      by_cases bit : header.get_bitfield_bit (i - 1) = true
      · simp [bit,ih]
      · simp [bit,ih]
  rw [process_recv_packet_header,loop]
  exact acknowledge_all real (acks header) (self.record_received header)

end Lightyear.Header
