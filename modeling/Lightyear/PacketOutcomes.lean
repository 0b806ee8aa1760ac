import Lightyear.Header
import Lightyear.Runs

/-!
The outcome of every packet: the reports of the `PacketHeaderManager`, and the
`PacketMessageAckTracker` of `channel/builder.rs`, which the transport drains with
them in `plugin.rs`.
-/
namespace Lightyear.PacketOutcomes
open Maps (Map)
open Lightyear.Ids Lightyear.Ids.WrappingId Lightyear.Message Lightyear.Header
open Lightyear.Header.PacketHeaderManager

/-- `ChannelKind(TypeId)` -/
abbrev ChannelKind := Nat
abbrev PacketMessageAcks := List (ChannelKind × MessageAck)

/-- `PacketMessageAckTracker`, without its pool of allocations. -/
structure PacketMessageAckTracker where
  tracked : Map PacketId PacketMessageAcks

namespace PacketMessageAckTracker

def track (self : PacketMessageAckTracker) (packet_id : PacketId) (channel_kind : ChannelKind)
    (message_ack : MessageAck) : PacketMessageAckTracker :=
  match self.tracked.lookup packet_id with
  | some message_acks => ⟨self.tracked.insert packet_id (message_acks ++ [(channel_kind,message_ack)])⟩
  | none => ⟨self.tracked.insert packet_id [(channel_kind,message_ack)]⟩

def take (self : PacketMessageAckTracker) (packet_id : PacketId) :
    PacketMessageAckTracker × Option PacketMessageAcks :=
  (⟨self.tracked.erase packet_id⟩,self.tracked.lookup packet_id)

end PacketMessageAckTracker
open PacketMessageAckTracker

/-- The fields of `Transport` that a packet's outcome involves; of the senders only their keys. -/
structure Transport where
  header_manager : PacketHeaderManager
  packet_message_acks : PacketMessageAckTracker
  senders : List ChannelKind

/-- The inner `try_for_each` of both drains: the acks that are handed to a sender, and whether all of them were. -/
def hand (senders : List ChannelKind) : PacketMessageAcks → PacketMessageAcks × Bool
  | [] => ([],true)
  | ack :: acks =>
    if ack.1 ∈ senders then (ack :: (hand senders acks).1,(hand senders acks).2)
    else ([],false)

/-- The outer `try_for_each`: the acks that are handed over for each packet. It stops at the first
    channel without a sender, and what is left of the packets is dropped. -/
def settle (senders : List ChannelKind) (tracker : PacketMessageAckTracker) :
    List PacketId → PacketMessageAckTracker × List (PacketId × PacketMessageAcks)
  | [] => (tracker,[])
  | packet :: packets =>
    match tracker.take packet with
    | (tracker,none) => settle senders tracker packets
    | (tracker,some message_acks) =>
      match hand senders message_acks with
      | (handed,true) => ((settle senders tracker packets).1,(packet,handed) :: (settle senders tracker packets).2)
      | (handed,false) => (tracker,[(packet,handed)])

namespace Transport

def new (senders : List ChannelKind) : Transport := ⟨.new,⟨∅⟩,senders⟩

/-- `buffer_send`, for a packet that entered the link: its id is committed, and the acks of its messages
    are tracked. -/
def commit_packet (self : Transport) (real : Duration) (messages : PacketMessageAcks) : Transport :=
  let packet_id := self.header_manager.next_packet_id
  { self with
    header_manager := self.header_manager.commit_send_packet packet_id real
    packet_message_acks := messages.foldl (fun tracker m => tracker.track packet_id m.1 m.2) self.packet_message_acks }

def commit_ack_only (self : Transport) : Transport :=
  { self with header_manager := self.header_manager.commit_send_ack_only self.header_manager.next_packet_id }

/-- `lost_packets.drain(..)` -/
def drain_lost (self : Transport) : Transport × List (PacketId × PacketMessageAcks) :=
  let settled := settle self.senders self.packet_message_acks self.header_manager.lost_packets
  ({ self with
      header_manager := { self.header_manager with lost_packets := [] }
      packet_message_acks := settled.1 },settled.2)

/-- `newly_acked_packets.drain(..)` -/
def drain_acked (self : Transport) : Transport × List (PacketId × PacketMessageAcks) :=
  let settled := settle self.senders self.packet_message_acks self.header_manager.newly_acked_packets.keys
  ({ self with
      header_manager := { self.header_manager with newly_acked_packets := ∅ }
      packet_message_acks := settled.1 },settled.2)

end Transport

inductive Outcome where
  | Acked
  | Lost
deriving DecidableEq, Repr

/-- A packet that was sent: the how many-th it is, and the acks that were registered for it. -/
structure Packet where
  index : Nat
  packet_id : PacketId
  ack_eliciting : Bool
  messages : PacketMessageAcks

/-- A transport with its history: the packets sent, newest first, which of them were reported as what, and
    the acks that were handed to the channels for which of them. -/
structure History where
  transport : Transport
  sent : List Packet
  reports : List (Option Nat × Outcome)
  handed : List (Option Nat × Outcome × PacketMessageAcks)

/-- The packet that a report of an id is about: the newest one that waits for an acknowledgement. -/
def owner (sent : List Packet) (id : PacketId) : Option Packet :=
  sent.find? fun p => p.ack_eliciting && p.packet_id == id

def History.note (s : History) (transport : Transport) (outcome : Outcome) (ids : List PacketId) : History :=
  { s with
    transport := transport
    reports := s.reports ++ ids.map fun id => ((owner s.sent id).map (·.index),outcome) }

def History.hand_over (s : History) (outcome : Outcome) (drained : Transport × List (PacketId × PacketMessageAcks)) :
    History :=
  { s with
    transport := drained.1
    handed := s.handed ++ drained.2.map fun d => ((owner s.sent d.1).map (·.index),outcome,d.2) }

/-- The operations, in any order. A data packet has messages of registered channels only. -/
inductive Event where
  | Send (real : Duration) (messages : PacketMessageAcks)
  | SendAckOnly
  | Receive (header : PacketHeader) (real : Duration)
  | Update (real nack_duration : Duration)
  | DrainLost
  | DrainAcked

def step (s : History) : Event → Option History
  | .Send real messages =>
    if ∀ m ∈ messages, m.1 ∈ s.transport.senders then
      some { s with
        transport := s.transport.commit_packet real messages
        sent := ⟨s.sent.length,s.transport.header_manager.next_packet_id,true,messages⟩ :: s.sent }
    else none
  | .SendAckOnly =>
    some { s with
      transport := s.transport.commit_ack_only
      sent := ⟨s.sent.length,s.transport.header_manager.next_packet_id,false,[]⟩ :: s.sent }
  | .Receive header real =>
    let manager := s.transport.header_manager.process_recv_packet_header header real
    some (s.note { s.transport with header_manager := manager } .Acked (manager.newly_acked_packet_scratch.map (·.1)))
  | .Update real nack_duration =>
    let manager := s.transport.header_manager.update real nack_duration
    some (s.note { s.transport with header_manager := manager } .Lost
      (manager.lost_packets.drop s.transport.header_manager.lost_packets.length))
  | .DrainLost => some (s.hand_over .Lost s.transport.drain_lost)
  | .DrainAcked => some (s.hand_over .Acked s.transport.drain_acked)

def start (senders : List ChannelKind) : History := ⟨.new senders,[],[],[]⟩

/-- A packet id that is in flight, or reported and not yet drained. -/
def Live (s : History) (id : PacketId) : Prop :=
  id ∈ s.transport.header_manager.sent_packets_not_acked ∨ id ∈ s.transport.header_manager.lost_packets ∨
    id ∈ s.transport.header_manager.newly_acked_packets

/-- The ids that are `Live`. -/
def History.live (s : History) : List PacketId :=
  s.transport.header_manager.sent_packets_not_acked.keys ++ s.transport.header_manager.lost_packets ++
    s.transport.header_manager.newly_acked_packets.keys

theorem mem_live {s : History} {id : PacketId} : id ∈ s.live ↔ Live s id := by
  simp only [History.live,Live,List.mem_append,← AList.mem_keys,or_assoc]

/-- When a packet is sent, fewer than `2^15` were sent since the oldest one that is in flight. A report
    that waits to be drained counts as in flight; the transport drains both lists before it sends. -/
def FewInFlight (s : History) : Event → Prop
  | .Send _ _ => ∀ id ∈ s.live, ∀ p ∈ owner s.sent id, s.sent.length < p.index + 2 ^ 15
  | _ => True

instance (s : History) (event : Event) : Decidable (FewInFlight s event) :=
  match event with
  | .Send _ _ => inferInstanceAs (Decidable (∀ id ∈ s.live, ∀ p ∈ owner s.sent id, _))
  | .SendAckOnly => .isTrue trivial
  | .Receive _ _ => .isTrue trivial
  | .Update _ _ => .isTrue trivial
  | .DrainLost => .isTrue trivial
  | .DrainAcked => .isTrue trivial

/-- Every packet that asks for an acknowledgement is reported at most once, as acked or as lost. -/
structure Exclusive (s : History) : Prop where
  once : (s.reports.map (·.1)).Nodup
  eliciting : ∀ r ∈ s.reports, ∃ p ∈ s.sent, p.ack_eliciting = true ∧ r.1 = some p.index

/-- The tracker holds ids that are in flight, or reported and not yet drained. -/
structure Bounded (s : History) : Prop where
  live : ∀ id ∈ s.transport.packet_message_acks.tracked, Live s id
  size : s.transport.packet_message_acks.tracked.keys.length ≤
    s.transport.header_manager.sent_packets_not_acked.keys.length + s.transport.header_manager.lost_packets.length +
      s.transport.header_manager.newly_acked_packets.keys.length

/-- Under each of these ids the tracker holds the acks of the one packet in flight with it, and they are
    handed over with that packet's report. -/
structure InStep (s : History) : Prop where
  own : ∀ id, Live s id → ∃ p, owner s.sent id = some p ∧
    (s.transport.packet_message_acks.tracked.lookup id).getD [] = p.messages
  handed : ∀ h ∈ s.handed, ∃ p ∈ s.sent, h.1 = some p.index ∧ h.2.2 = p.messages ∧ (h.1,h.2.1) ∈ s.reports

/-! ### The tracker -/

theorem hand_registered {senders : List ChannelKind} {message_acks : PacketMessageAcks}
    (registered : ∀ m ∈ message_acks, m.1 ∈ senders) : hand senders message_acks = (message_acks,true) := by
  induction message_acks with
  | nil => rfl
  | cons ack acks ih =>
    have rest := ih fun m member => registered m (List.mem_cons_of_mem _ member)
    simp [hand,rest,registered ack List.mem_cons_self]

/-- The tracker knows channels that have a sender. -/
def Registered (senders : List ChannelKind) (tracker : PacketMessageAckTracker) : Prop :=
  ∀ id message_acks, tracker.tracked.lookup id = some message_acks → ∀ m ∈ message_acks, m.1 ∈ senders

/-- A drain takes every packet's acks, and hands all of them over. -/
theorem settle_registered {senders : List ChannelKind} {tracker : PacketMessageAckTracker}
    (registered : Registered senders tracker) (packets : List PacketId) :
    (∀ id, (settle senders tracker packets).1.tracked.lookup id =
      if id ∈ packets then none else tracker.tracked.lookup id) ∧
    ∀ d ∈ (settle senders tracker packets).2, d.1 ∈ packets ∧ tracker.tracked.lookup d.1 = some d.2 := by
  induction packets generalizing tracker with
  | nil => exact ⟨by simp [settle],by simp [settle]⟩
  | cons packet packets ih =>
    have taken : ∀ id, (tracker.take packet).1.tracked.lookup id =
        if id = packet then none else tracker.tracked.lookup id := fun id => Maps.lookup_erase_ite ..
    have kept : Registered senders (tracker.take packet).1 := by
      intro id message_acks stored
      rw [taken] at stored
      by_cases same : id = packet
      · simp [same] at stored
      · rw [if_neg same] at stored
        exact registered id message_acks stored
    obtain ⟨left,given⟩ := ih kept
    have leftAll : ∀ id, (settle senders (tracker.take packet).1 packets).1.tracked.lookup id =
        if id ∈ packet :: packets then none else tracker.tracked.lookup id := by
      intro id
      rw [left,taken]
      by_cases same : id = packet
      · simp [same]
      · simp [same]
    have givenAll : ∀ d ∈ (settle senders (tracker.take packet).1 packets).2,
        d.1 ∈ packet :: packets ∧ tracker.tracked.lookup d.1 = some d.2 := by
      intro d member
      obtain ⟨inPackets,stored⟩ := given d member
      rw [taken] at stored
      by_cases same : d.1 = packet
      · simp [same] at stored
      · rw [if_neg same] at stored
        exact ⟨List.mem_cons_of_mem _ inPackets,stored⟩
    cases stored : tracker.tracked.lookup packet with
    | none =>
      have next : settle senders tracker (packet :: packets) = settle senders (tracker.take packet).1 packets := by
        simp [settle,take,stored]
      rw [next]
      exact ⟨leftAll,givenAll⟩
    | some message_acks =>
      have next : settle senders tracker (packet :: packets) =
          ((settle senders (tracker.take packet).1 packets).1,
            (packet,message_acks) :: (settle senders (tracker.take packet).1 packets).2) := by
        simp [settle,take,stored,hand_registered (registered packet message_acks stored)]
      rw [next]
      refine ⟨leftAll,fun d member => ?_⟩
      rcases List.mem_cons.mp member with rfl | later
      · exact ⟨List.mem_cons_self,stored⟩
      · exact givenAll d later

theorem track_all (messages : PacketMessageAcks) (tracker : PacketMessageAckTracker) (packet_id id : PacketId) :
    ((messages.foldl (fun tracker m => tracker.track packet_id m.1 m.2) tracker).tracked.lookup id) =
      if id = packet_id ∧ messages ≠ [] then some ((tracker.tracked.lookup packet_id).getD [] ++ messages)
      else tracker.tracked.lookup id := by
  induction messages generalizing tracker with
  | nil => simp
  | cons m messages ih =>
    have tracked : ∀ other, (tracker.track packet_id m.1 m.2).tracked.lookup other =
        if other = packet_id then some ((tracker.tracked.lookup packet_id).getD [] ++ [m])
        else tracker.tracked.lookup other := by
      intro other
      cases stored : tracker.tracked.lookup packet_id with
      | none => simp [track,stored,Maps.lookup_insert_ite]
      | some message_acks => simp [track,stored,Maps.lookup_insert_ite]
    rw [List.foldl_cons,ih,tracked,tracked]
    by_cases same : id = packet_id
    · subst same
      by_cases last : messages = []
      · simp [last]
      · simp [last]
    · simp [same]

/-- What holds in every run, whatever the ids stand for. -/
structure Kept (s : History) : Prop extends Exclusive s where
  next : s.transport.header_manager.next_packet_id = ofIndex s.sent.length
  numbered : ∀ p ∈ s.sent, p.packet_id = ofIndex p.index ∧ p.index < s.sent.length
  unreported : ∀ id ∈ s.transport.header_manager.sent_packets_not_acked,
    ∃ p, owner s.sent id = some p ∧ some p.index ∉ s.reports.map (·.1)
  live : ∀ id ∈ s.transport.packet_message_acks.tracked, Live s id
  registered : Registered s.transport.senders s.transport.packet_message_acks

theorem owner_facts {sent : List Packet} {id : PacketId} {p : Packet} (owns : owner sent id = some p) :
    p ∈ sent ∧ p.ack_eliciting = true ∧ p.packet_id = id := by
  have holds := List.find?_some owns
  simp only [Bool.and_eq_true,beq_iff_eq] at holds
  exact ⟨List.mem_of_find?_eq_some owns,holds.1,holds.2⟩

section Kept
variable {s : History}

/-- Packets in flight with different ids are different packets. -/
theorem owner_inj (kept : Kept s) {id other : PacketId} {p q : Packet} (owns : owner s.sent id = some p)
    (ownsOther : owner s.sent other = some q) (same : p.index = q.index) : id = other := by
  obtain ⟨inSent,-,rfl⟩ := owner_facts owns
  obtain ⟨inSentOther,-,rfl⟩ := owner_facts ownsOther
  rw [(kept.numbered p inSent).1,(kept.numbered q inSentOther).1,same]

theorem owner_eq (kept : Kept s) {id : PacketId}
    (inFlight : id ∈ s.transport.header_manager.sent_packets_not_acked) :
    ∃ p, owner s.sent id = some p ∧ (owner s.sent id).map (·.index) = some p.index ∧
      some p.index ∉ s.reports.map (·.1) := by
  obtain ⟨p,owns,unreported⟩ := kept.unreported id inFlight
  exact ⟨p,owns,by rw [owns]; rfl,unreported⟩

/-- An operation reports the packets in flight that it classifies: each of them for the first time. -/
theorem exclusive_note (kept : Kept s) {manager : PacketHeaderManager} {ids : List PacketId} (outcome : Outcome)
    (classified : Classified s.transport.header_manager manager ids) :
    Exclusive (s.note { s.transport with header_manager := manager } outcome ids) ∧
    ∀ id ∈ manager.sent_packets_not_acked, ∃ p, owner s.sent id = some p ∧
      some p.index ∉ (s.note { s.transport with header_manager := manager } outcome ids).reports.map (·.1) := by
  have reported : (s.note { s.transport with header_manager := manager } outcome ids).reports.map (·.1) =
      s.reports.map (·.1) ++ ids.map fun id => (owner s.sent id).map (·.index) := by
    simp [History.note,Function.comp_def]
  refine ⟨⟨?_,?_⟩,?_⟩
  · rw [reported]
    refine List.nodup_append.mpr ⟨kept.once,?_,?_⟩
    · refine List.Nodup.map_on (fun id member other memberOther same => ?_) classified.distinct
      obtain ⟨p,owns,isIndex,-⟩ := owner_eq kept (classified.inFlight id member)
      obtain ⟨q,ownsOther,isIndexOther,-⟩ := owner_eq kept (classified.inFlight other memberOther)
      rw [isIndex,isIndexOther] at same
      exact owner_inj kept owns ownsOther (Option.some.inj same)
    · rintro n old _ new rfl
      obtain ⟨id,member,isIndex⟩ := List.mem_map.mp new
      obtain ⟨p,-,isOwn,unreported⟩ := owner_eq kept (classified.inFlight id member)
      rw [← isIndex,isOwn] at old
      exact unreported old
  · intro r member
    rcases List.mem_append.mp member with old | new
    · exact kept.eliciting r old
    · obtain ⟨id,inIds,rfl⟩ := List.mem_map.mp new
      obtain ⟨p,owns,isIndex,-⟩ := owner_eq kept (classified.inFlight id inIds)
      obtain ⟨inSent,eliciting,-⟩ := owner_facts owns
      exact ⟨p,inSent,eliciting,isIndex⟩
  · intro id inFlight
    obtain ⟨before,notNow⟩ := (classified.mem id).mp inFlight
    obtain ⟨p,owns,-,unreported⟩ := owner_eq kept before
    refine ⟨p,owns,?_⟩
    rw [reported,List.mem_append,not_or]
    refine ⟨unreported,fun now => ?_⟩
    obtain ⟨other,inIds,isIndex⟩ := List.mem_map.mp now
    obtain ⟨q,ownsOther,isOther,-⟩ := owner_eq kept (classified.inFlight other inIds)
    rw [isOther] at isIndex
    exact notNow (owner_inj kept owns ownsOther (Option.some.inj isIndex).symm ▸ inIds)

/-- A packet that was reported and not drained stays one that the tracker may know. -/
theorem kept_note (kept : Kept s) {manager : PacketHeaderManager} {ids : List PacketId} (outcome : Outcome)
    (classified : Classified s.transport.header_manager manager ids)
    (live : ∀ id, Live s id → Live (s.note { s.transport with header_manager := manager } outcome ids) id) :
    Kept (s.note { s.transport with header_manager := manager } outcome ids) := by
  obtain ⟨exclusive,unreported⟩ := exclusive_note kept outcome classified
  exact ⟨exclusive,classified.next.trans kept.next,kept.numbered,unreported,
    fun id tracked => live id (kept.live id tracked),
    kept.registered⟩

theorem process_facts (s : History) (header : PacketHeader) (real : Duration) :
    ∃ ids, (s.transport.header_manager.process_recv_packet_header header real).newly_acked_packet_scratch.map (·.1) =
        ids ∧
      Classified s.transport.header_manager (s.transport.header_manager.process_recv_packet_header header real) ids ∧
      (∀ id, id ∈ (s.transport.header_manager.process_recv_packet_header header real).newly_acked_packets ↔
        id ∈ s.transport.header_manager.newly_acked_packets ∨ id ∈ ids) ∧
      (s.transport.header_manager.process_recv_packet_header header real).lost_packets =
        s.transport.header_manager.lost_packets := by
  obtain ⟨ids,acked⟩ := process_acknowledged s.transport.header_manager header real
  have classified := acked.classified
  exact ⟨ids,by simpa [record_received] using acked.scratch,
    ⟨classified.distinct,classified.inFlight,classified.left,classified.next⟩,acked.newly,acked.lost⟩

/-- What is acknowledged stays live until it is drained. -/
theorem live_receive (s : History) (header : PacketHeader) (real : Duration) (ids : List PacketId) (id : PacketId)
    (reports : (s.transport.header_manager.process_recv_packet_header header real).newly_acked_packet_scratch.map
      (·.1) =
      ids) :
    Live (s.note { s.transport with
      header_manager := s.transport.header_manager.process_recv_packet_header header real } .Acked ids) id ↔
        Live s id := by
  obtain ⟨ids',same,classified,newly,lost⟩ := process_facts s header real
  obtain rfl := same.symm.trans reports
  simp only [Live,History.note,classified.mem,newly,lost]
  have was := classified.inFlight id
  tauto

theorem update_facts (s : History) (real nack_duration : Duration) :
    ∃ ids, (s.transport.header_manager.update real nack_duration).lost_packets.drop
        s.transport.header_manager.lost_packets.length = ids ∧
      Classified s.transport.header_manager (s.transport.header_manager.update real nack_duration) ids ∧
      (s.transport.header_manager.update real nack_duration).lost_packets =
        s.transport.header_manager.lost_packets ++ ids ∧
      (s.transport.header_manager.update real nack_duration).newly_acked_packets =
        s.transport.header_manager.newly_acked_packets := by
  obtain ⟨ids,classified,lost,newly⟩ := update_classified s.transport.header_manager real nack_duration
  exact ⟨ids,by rw [lost,List.drop_left],classified,lost,newly⟩

theorem live_update (s : History) (real nack_duration : Duration) (ids : List PacketId) (id : PacketId)
    (reports : (s.transport.header_manager.update real nack_duration).lost_packets.drop
      s.transport.header_manager.lost_packets.length = ids) :
    Live (s.note { s.transport with
      header_manager := s.transport.header_manager.update real nack_duration } .Lost ids) id ↔ Live s id := by
  obtain ⟨ids',same,classified,lost,newly⟩ := update_facts s real nack_duration
  obtain rfl := same.symm.trans reports
  simp only [Live,History.note,classified.mem,newly,lost,List.mem_append]
  have was := classified.inFlight id
  tauto

/-- The transport after a data packet, and its history. -/
abbrev sending (s : History) (real : Duration) (messages : PacketMessageAcks) : History :=
  { s with
    transport := s.transport.commit_packet real messages
    sent := ⟨s.sent.length,s.transport.header_manager.next_packet_id,true,messages⟩ :: s.sent }

theorem owner_send (s : History) (real : Duration) (messages : PacketMessageAcks) (id : PacketId) :
    owner (sending s real messages).sent id =
      if id = s.transport.header_manager.next_packet_id then
        some ⟨s.sent.length,s.transport.header_manager.next_packet_id,true,messages⟩
      else owner s.sent id := by
  rw [owner,List.find?_cons]
  by_cases same : id = s.transport.header_manager.next_packet_id
  · simp [same]
  · have differs : (s.transport.header_manager.next_packet_id == id) = false := by
      simpa using fun equal => same equal.symm
    simp [same,differs,owner]

theorem live_send (s : History) (real : Duration) (messages : PacketMessageAcks) (id : PacketId) :
    Live (sending s real messages) id ↔ id = s.transport.header_manager.next_packet_id ∨ Live s id := by
  have inFlight : id ∈ (sending s real messages).transport.header_manager.sent_packets_not_acked ↔
      id = s.transport.header_manager.next_packet_id ∨ id ∈ s.transport.header_manager.sent_packets_not_acked := by
    rw [Maps.mem_iff_lookup,Maps.mem_iff_lookup]
    simp only [Transport.commit_packet,commit_send_packet,Maps.lookup_insertBack]
    by_cases same : id = s.transport.header_manager.next_packet_id
    · simp [same]
    · simp [same]
  rw [Live,inFlight,or_assoc]
  rfl

theorem unsent_index (kept : Kept s) : some s.sent.length ∉ s.reports.map (·.1) := by
  intro member
  obtain ⟨r,reported,same⟩ := List.mem_map.mp member
  obtain ⟨p,inSent,-,isIndex⟩ := kept.eliciting r reported
  have equal := Option.some.inj (same.symm.trans isIndex)
  have low := (kept.numbered p inSent).2
  omega

theorem kept_send (kept : Kept s) (real : Duration) {messages : PacketMessageAcks}
    (registered : ∀ m ∈ messages, m.1 ∈ s.transport.senders) : Kept (sending s real messages) where
  once := kept.once
  eliciting := by
    intro r member
    obtain ⟨p,inSent,facts⟩ := kept.eliciting r member
    exact ⟨p,List.mem_cons_of_mem _ inSent,facts⟩
  next := by
    have step := add_assign_ofIndex s.sent.length 1
    simpa [Transport.commit_packet,commit_send_packet,kept.next] using step
  numbered := by
    intro p member
    rcases List.mem_cons.mp member with rfl | old
    · exact ⟨kept.next,by simp⟩
    · have known := kept.numbered p old
      exact ⟨known.1,by simp only [List.length_cons]; omega⟩
  unreported := by
    intro id inFlight
    rw [owner_send]
    by_cases same : id = s.transport.header_manager.next_packet_id
    · exact ⟨_,if_pos same,unsent_index kept⟩
    · rw [if_neg same]
      refine kept.unreported id ?_
      rw [Maps.mem_iff_lookup] at *
      simpa [Transport.commit_packet,commit_send_packet,Maps.lookup_insertBack,same] using inFlight
  live := by
    intro id tracked
    rw [live_send]
    by_cases same : id = s.transport.header_manager.next_packet_id
    · exact .inl same
    · refine .inr (kept.live id ?_)
      rw [Maps.mem_iff_lookup] at *
      simpa [Transport.commit_packet,track_all,same] using tracked
  registered := by
    intro id message_acks stored m member
    simp only [Transport.commit_packet,track_all] at stored
    split at stored
    · obtain rfl := Option.some.inj stored
      rcases List.mem_append.mp member with old | new
      · cases before : s.transport.packet_message_acks.tracked.lookup s.transport.header_manager.next_packet_id with
        | none => simp [before] at old
        | some tracked => exact kept.registered _ tracked before m (by simpa [before] using old)
      · exact registered m new
    · exact kept.registered id message_acks stored m member

/-- The transport after an acknowledgement of its own, and its history. -/
abbrev sendingAckOnly (s : History) : History :=
  { s with
    transport := s.transport.commit_ack_only
    sent := ⟨s.sent.length,s.transport.header_manager.next_packet_id,false,[]⟩ :: s.sent }

theorem kept_ack_only (kept : Kept s) : Kept (sendingAckOnly s) where
  once := kept.once
  eliciting := by
    intro r member
    obtain ⟨p,inSent,facts⟩ := kept.eliciting r member
    exact ⟨p,List.mem_cons_of_mem _ inSent,facts⟩
  next := by
    have step := add_assign_ofIndex s.sent.length 1
    simpa [Transport.commit_ack_only,commit_send_ack_only,kept.next] using step
  numbered := by
    intro p member
    rcases List.mem_cons.mp member with rfl | old
    · exact ⟨kept.next,by simp⟩
    · have known := kept.numbered p old
      exact ⟨known.1,by simp only [List.length_cons]; omega⟩
  unreported := kept.unreported
  live := kept.live
  registered := kept.registered

/-- A drain forgets what it settles, and nothing else. -/
theorem kept_hand_over (kept : Kept s) (outcome : Outcome) {drained : Transport × List (PacketId × PacketMessageAcks)}
    {packets : List PacketId} (senders : drained.1.senders = s.transport.senders)
    (next : drained.1.header_manager.next_packet_id = s.transport.header_manager.next_packet_id)
    (inFlight : drained.1.header_manager.sent_packets_not_acked = s.transport.header_manager.sent_packets_not_acked)
    (tracked : ∀ id, drained.1.packet_message_acks.tracked.lookup id =
      if id ∈ packets then none else s.transport.packet_message_acks.tracked.lookup id)
    (live : ∀ id ∉ packets, Live s id → Live (s.hand_over outcome drained) id) :
    Kept (s.hand_over outcome drained) := by
  refine ⟨⟨kept.once,kept.eliciting⟩,next.trans kept.next,kept.numbered,?_,?_,?_⟩
  · intro id member
    exact kept.unreported id (inFlight ▸ member)
  · intro id member
    obtain ⟨message_acks,stored⟩ := (Maps.mem_iff_lookup _ _).mp member
    have left := (tracked id).symm.trans stored
    split at left
    · cases left
    · next notDrained => exact live id notDrained (kept.live id ((Maps.mem_iff_lookup _ _).mpr ⟨message_acks,left⟩))
  · intro id message_acks stored
    have left := (tracked id).symm.trans stored
    split at left
    · cases left
    · rw [History.hand_over,senders]
      exact kept.registered id message_acks left

theorem kept_drain_lost (kept : Kept s) : Kept (s.hand_over .Lost s.transport.drain_lost) := by
  refine kept_hand_over kept .Lost rfl rfl rfl
    (settle_registered kept.registered s.transport.header_manager.lost_packets).1 ?_
  intro id notLost live
  rcases live with inFlight | lost | newly
  · exact .inl inFlight
  · exact absurd lost notLost
  · exact .inr (.inr newly)

theorem kept_drain_acked (kept : Kept s) : Kept (s.hand_over .Acked s.transport.drain_acked) := by
  refine kept_hand_over kept .Acked rfl rfl rfl
    (settle_registered kept.registered s.transport.header_manager.newly_acked_packets.keys).1 ?_
  intro id notAcked live
  rcases live with inFlight | lost | newly
  · exact .inl inFlight
  · exact .inr (.inl lost)
  · exact absurd (AList.mem_keys.mp newly) notAcked

end Kept

theorem kept_step {s s' : History} {event : Event} (kept : Kept s) (executed : step s event = some s') : Kept s' := by
  cases event with
  | Send real messages =>
    simp only [step] at executed
    split at executed
    · next registered =>
      obtain rfl := Option.some.inj executed
      exact kept_send kept real registered
    · cases executed
  | SendAckOnly =>
    obtain rfl := Option.some.inj executed
    exact kept_ack_only kept
  | Receive header real =>
    obtain rfl := Option.some.inj executed
    obtain ⟨ids,reports,classified,-,-⟩ := process_facts s header real
    rw [reports]
    exact kept_note kept .Acked classified fun id => (live_receive s header real ids id reports).mpr
  | Update real nack_duration =>
    obtain rfl := Option.some.inj executed
    obtain ⟨ids,reports,classified,-,-⟩ := update_facts s real nack_duration
    rw [reports]
    exact kept_note kept .Lost classified fun id => (live_update s real nack_duration ids id reports).mpr
  | DrainLost =>
    obtain rfl := Option.some.inj executed
    exact kept_drain_lost kept
  | DrainAcked =>
    obtain rfl := Option.some.inj executed
    exact kept_drain_acked kept

theorem kept_start (senders : List ChannelKind) : Kept (start senders) where
  once := by simp [start]
  eliciting := by simp [start]
  next := rfl
  numbered := by simp [start]
  unreported := by simp [start,Transport.new,PacketHeaderManager.new]
  live := by simp [start,Transport.new]
  registered := by simp [start,Transport.new,Registered]

theorem bounded_of_kept {s : History} (kept : Kept s) : Bounded s := by
  refine ⟨kept.live,?_⟩
  have within : s.transport.packet_message_acks.tracked.keys ⊆ s.live :=
    fun id tracked => mem_live.mpr (kept.live id (AList.mem_keys.mpr tracked))
  have size := (List.subperm_of_subset s.transport.packet_message_acks.tracked.keys_nodup within).length_le
  simpa [History.live,Nat.add_assoc] using size

/-! ### What runs keep in which ids are told apart -/

/-- Reports that wait to be drained are about the packets that their ids belong to. -/
structure Matched (s : History) : Prop extends InStep s where
  lost : ∀ id ∈ s.transport.header_manager.lost_packets, ∀ p ∈ owner s.sent id, (some p.index,Outcome.Lost) ∈ s.reports
  acked : ∀ id ∈ s.transport.header_manager.newly_acked_packets, ∀ p ∈ owner s.sent id,
    (some p.index,Outcome.Acked) ∈ s.reports

section Matched
variable {s : History}

/-- The next id is not in use. -/
theorem next_not_live (kept : Kept s) (matched : Matched s) {real : Duration} {messages : PacketMessageAcks}
    (few : FewInFlight s (.Send real messages)) : ¬ Live s s.transport.header_manager.next_packet_id := by
  intro live
  obtain ⟨p,owns,-⟩ := matched.own _ live
  have near := few _ (mem_live.mpr live) p owns
  obtain ⟨inSent,-,isId⟩ := owner_facts owns
  obtain ⟨isIndex,low⟩ := kept.numbered p inSent
  rw [isIndex,kept.next] at isId
  have same := ofIndex_inj (by omega) (by omega) isId
  omega

theorem matched_send (kept : Kept s) (matched : Matched s) (real : Duration) (messages : PacketMessageAcks)
    (few : FewInFlight s (.Send real messages)) : Matched (sending s real messages) := by
  have unused := next_not_live kept matched few
  have others : ∀ {id}, Live s id → owner (sending s real messages).sent id = owner s.sent id := by
    intro id live
    have other : id ≠ s.transport.header_manager.next_packet_id := fun same => unused (same ▸ live)
    rw [owner_send,if_neg other]
  refine ⟨⟨?_,?_⟩,?_,?_⟩
  · intro id live
    rw [owner_send]
    by_cases same : id = s.transport.header_manager.next_packet_id
    · refine ⟨_,if_pos same,?_⟩
      have absent : s.transport.packet_message_acks.tracked.lookup s.transport.header_manager.next_packet_id = none :=
        AList.lookup_eq_none.mpr fun tracked => unused (kept.live _ tracked)
      rw [same]
      by_cases last : messages = []
      · simp [Transport.commit_packet,absent,last]
      · simp [Transport.commit_packet,track_all,absent,last]
    · rw [if_neg same]
      have old := ((live_send s real messages id).mp live).resolve_left same
      obtain ⟨p,owns,tracked⟩ := matched.own id old
      exact ⟨p,owns,by simpa [Transport.commit_packet,track_all,same] using tracked⟩
  · intro h member
    obtain ⟨p,inSent,facts⟩ := matched.handed h member
    exact ⟨p,List.mem_cons_of_mem _ inSent,facts⟩
  · intro id lost p owns
    rw [others (.inr (.inl lost))] at owns
    exact matched.lost id lost p owns
  · intro id newly p owns
    rw [others (.inr (.inr newly))] at owns
    exact matched.acked id newly p owns

theorem matched_ack_only (matched : Matched s) : Matched (sendingAckOnly s) := by
  refine ⟨⟨matched.own,?_⟩,matched.lost,matched.acked⟩
  intro h member
  obtain ⟨p,inSent,facts⟩ := matched.handed h member
  exact ⟨p,List.mem_cons_of_mem _ inSent,facts⟩

theorem matched_receive (matched : Matched s) {header : PacketHeader} {real : Duration} {ids : List PacketId}
    (reports : (s.transport.header_manager.process_recv_packet_header header real).newly_acked_packet_scratch.map
      (·.1) =
      ids) :
    Matched (s.note { s.transport with
      header_manager := s.transport.header_manager.process_recv_packet_header header real } .Acked ids) := by
  obtain ⟨ids',same,-,newly,lost⟩ := process_facts s header real
  obtain rfl := same.symm.trans reports
  refine ⟨⟨fun id live => matched.own id ((live_receive s header real ids' id same).mp live),?_⟩,?_,?_⟩
  · intro h member
    obtain ⟨p,inSent,isIndex,acks,reported⟩ := matched.handed h member
    exact ⟨p,inSent,isIndex,acks,List.mem_append_left _ reported⟩
  · intro id member p owns
    exact List.mem_append_left _ (matched.lost id (lost ▸ member) p owns)
  · intro id member p owns
    rcases (newly id).mp member with old | new
    · exact List.mem_append_left _ (matched.acked id old p owns)
    · have isOwner : owner s.sent id = some p := owns
      exact List.mem_append_right _ (List.mem_map.mpr ⟨id,new,by rw [isOwner]; rfl⟩)

theorem matched_update (matched : Matched s) {real nack_duration : Duration} {ids : List PacketId}
    (reports : (s.transport.header_manager.update real nack_duration).lost_packets.drop
      s.transport.header_manager.lost_packets.length = ids) :
    Matched (s.note { s.transport with
      header_manager := s.transport.header_manager.update real nack_duration } .Lost ids) := by
  obtain ⟨ids',same,-,lost,newly⟩ := update_facts s real nack_duration
  obtain rfl := same.symm.trans reports
  refine ⟨⟨fun id live => matched.own id ((live_update s real nack_duration ids' id same).mp live),?_⟩,?_,?_⟩
  · intro h member
    obtain ⟨p,inSent,isIndex,acks,reported⟩ := matched.handed h member
    exact ⟨p,inSent,isIndex,acks,List.mem_append_left _ reported⟩
  · intro id member p owns
    rcases List.mem_append.mp (lost ▸ member : id ∈ _ ++ ids') with old | new
    · exact List.mem_append_left _ (matched.lost id old p owns)
    · have isOwner : owner s.sent id = some p := owns
      exact List.mem_append_right _ (List.mem_map.mpr ⟨id,new,by rw [isOwner]; rfl⟩)
  · intro id member p owns
    exact List.mem_append_left _ (matched.acked id (newly ▸ member) p owns)

/-- A packet has one outcome, and none while it is in flight. -/
theorem outcome_unique (kept : Kept s) {p : Packet} {a b : Outcome} (first : (some p.index,a) ∈ s.reports)
    (second : (some p.index,b) ∈ s.reports) : a = b :=
  (Prod.mk.inj (List.inj_on_of_nodup_map kept.once first second rfl)).2

/-- A drain hands over, for each packet that it drains, the acks that were registered for it. -/
theorem handed_hand_over (kept : Kept s) (matched : Matched s) {outcome : Outcome} {packets : List PacketId}
    (live : ∀ id ∈ packets, Live s id)
    (reported : ∀ id ∈ packets, ∀ p ∈ owner s.sent id, (some p.index,outcome) ∈ s.reports) :
    ∀ h ∈ s.handed ++ (settle s.transport.senders s.transport.packet_message_acks packets).2.map
        (fun d => ((owner s.sent d.1).map (·.index),outcome,d.2)),
      ∃ p ∈ s.sent, h.1 = some p.index ∧ h.2.2 = p.messages ∧ (h.1,h.2.1) ∈ s.reports := by
  intro h member
  rcases List.mem_append.mp member with old | new
  · exact matched.handed h old
  obtain ⟨d,isHanded,rfl⟩ := List.mem_map.mp new
  obtain ⟨drained,stored⟩ := (settle_registered kept.registered packets).2 d isHanded
  obtain ⟨p,owns,tracked⟩ := matched.own d.1 (live d.1 drained)
  rw [stored] at tracked
  rw [owns]
  exact ⟨p,(owner_facts owns).1,rfl,tracked,reported d.1 drained p owns⟩

/-- What a drain leaves in the tracker is still the acks of the packets that stay live. -/
theorem own_hand_over (kept : Kept s) (matched : Matched s) (packets : List PacketId) {id : PacketId}
    (live : Live s id) (stays : id ∉ packets) : ∃ p, owner s.sent id = some p ∧
      ((settle s.transport.senders s.transport.packet_message_acks packets).1.tracked.lookup id).getD [] =
        p.messages := by
  obtain ⟨p,owns,tracked⟩ := matched.own id live
  rw [(settle_registered kept.registered packets).1,if_neg stays]
  exact ⟨p,owns,tracked⟩

theorem matched_drain_lost (kept : Kept s) (matched : Matched s) :
    Matched (s.hand_over .Lost s.transport.drain_lost) := by
  refine ⟨⟨?_,handed_hand_over kept matched (fun id lost => .inr (.inl lost)) matched.lost⟩,?_,matched.acked⟩
  · intro id live
    rcases live with inFlight | lost | newly
    · refine own_hand_over kept matched _ (.inl inFlight) fun lost => ?_
      obtain ⟨p,owns,unreported⟩ := kept.unreported id inFlight
      exact unreported (List.mem_map_of_mem (f := Prod.fst) (matched.lost id lost p owns))
    · cases lost
    · refine own_hand_over kept matched _ (.inr (.inr newly)) fun lost => ?_
      obtain ⟨p,owns,-⟩ := matched.own id (.inr (.inr newly))
      cases outcome_unique kept (matched.lost id lost p owns) (matched.acked id newly p owns)
  · intro id lost
    cases lost

theorem matched_drain_acked (kept : Kept s) (matched : Matched s) :
    Matched (s.hand_over .Acked s.transport.drain_acked) := by
  have isKey : ∀ {id}, id ∈ s.transport.header_manager.newly_acked_packets.keys →
      id ∈ s.transport.header_manager.newly_acked_packets := AList.mem_keys.mpr
  refine ⟨⟨?_,handed_hand_over kept matched (fun id newly => .inr (.inr (isKey newly)))
    fun id newly => matched.acked id (isKey newly)⟩,matched.lost,?_⟩
  · intro id live
    rcases live with inFlight | lost | newly
    · refine own_hand_over kept matched _ (.inl inFlight) fun newly => ?_
      obtain ⟨p,owns,unreported⟩ := kept.unreported id inFlight
      exact unreported (List.mem_map_of_mem (f := Prod.fst) (matched.acked id (isKey newly) p owns))
    · refine own_hand_over kept matched _ (.inr (.inl lost)) fun newly => ?_
      obtain ⟨p,owns,-⟩ := matched.own id (.inr (.inl lost))
      cases outcome_unique kept (matched.lost id lost p owns) (matched.acked id (isKey newly) p owns)
    · simp [History.hand_over,Transport.drain_acked] at newly
  · intro id newly
    simp [History.hand_over,Transport.drain_acked] at newly

end Matched

theorem matched_step {s s' : History} {event : Event} (kept : Kept s) (matched : Matched s)
    (few : FewInFlight s event) (executed : step s event = some s') : Matched s' := by
  cases event with
  | Send real messages =>
    simp only [step] at executed
    split at executed
    · obtain rfl := Option.some.inj executed
      exact matched_send kept matched real messages few
    · cases executed
  | SendAckOnly =>
    obtain rfl := Option.some.inj executed
    exact matched_ack_only matched
  | Receive header real =>
    obtain rfl := Option.some.inj executed
    exact matched_receive matched rfl
  | Update real nack_duration =>
    obtain rfl := Option.some.inj executed
    exact matched_update matched rfl
  | DrainLost =>
    obtain rfl := Option.some.inj executed
    exact matched_drain_lost kept matched
  | DrainAcked =>
    obtain rfl := Option.some.inj executed
    exact matched_drain_acked kept matched

theorem matched_start (senders : List ChannelKind) : Matched (start senders) where
  own := by simp [start,Transport.new,PacketHeaderManager.new,Live]
  handed := by simp [start]
  lost := by simp [start,Transport.new,PacketHeaderManager.new]
  acked := by simp [start,Transport.new,PacketHeaderManager.new]

/-- In every run each packet that asks for an acknowledgement is reported at most once, and the tracker holds
    only live ids. With fewer than `2^15` packets in flight, it holds for each of these the acks of that very
    packet, and hands them over with its report. -/
theorem outcomes_exclusive (senders : List ChannelKind) :
    (∀ s, Runs.Reaches step (fun _ _ _ => True) (start senders) s → Exclusive s ∧ Bounded s) ∧
    ∀ s, Runs.Reaches step (fun s event _ => FewInFlight s event) (start senders) s → InStep s := by
  constructor
  · intro s reached
    have kept := reached.invariant Kept (kept_start senders) fun _ _ _ kept executed _ => kept_step kept executed
    exact ⟨kept.toExclusive,bounded_of_kept kept⟩
  · intro s reached
    have both := reached.invariant (fun s => Kept s ∧ Matched s) ⟨kept_start senders,matched_start senders⟩
      fun _ _ _ known executed few => ⟨kept_step known.1 executed,matched_step known.1 known.2 few executed⟩
    exact both.2.toInStep

/-- Of two packets one is acknowledged and one times out; a late acknowledgement of the second changes nothing. -/
theorem outcomes_exclusive_late :
    (∃ s, Runs.run step (fun _ _ _ => True) (start [7])
        [.Send 0 [(7,⟨ofIndex 0,none⟩)],.Send 1 [(7,⟨ofIndex 1,none⟩)],.Receive ⟨.Data,zero,ofIndex 0,0,0⟩ 2,
          .Update 5 3,
          .DrainLost,.DrainAcked,.Receive ⟨.Data,ofIndex 1,ofIndex 1,1,0⟩ 6] = some s ∧
      s.reports = [(some 0,.Acked),(some 1,.Lost)] ∧ Exclusive s ∧ Bounded s) ∧
    ∃ s, Runs.run step (fun s event _ => FewInFlight s event) (start [7])
        [.Send 0 [(7,⟨ofIndex 0,none⟩)],.Send 1 [(7,⟨ofIndex 1,none⟩)],.Receive ⟨.Data,zero,ofIndex 0,0,0⟩ 2,
          .Update 5 3,
          .DrainLost,.DrainAcked,.Receive ⟨.Data,ofIndex 1,ofIndex 1,1,0⟩ 6] = some s ∧
      s.handed = [(some 1,.Lost,[(7,⟨ofIndex 1,none⟩)]),(some 0,.Acked,[(7,⟨ofIndex 0,none⟩)])] ∧ InStep s := by
  constructor
  · obtain ⟨s,executed,reports⟩ := Option.map_eq_some_iff.mp (show (Runs.run step (fun _ _ _ => True) (start [7])
      [.Send 0 [(7,⟨ofIndex 0,none⟩)],.Send 1 [(7,⟨ofIndex 1,none⟩)],.Receive ⟨.Data,zero,ofIndex 0,0,0⟩ 2,.Update 5 3,
        .DrainLost,.DrainAcked,.Receive ⟨.Data,ofIndex 1,ofIndex 1,1,0⟩ 6]).map (fun s => s.reports) =
      some [(some 0,.Acked),(some 1,.Lost)] by decide)
    exact ⟨s,executed,reports,(outcomes_exclusive [7]).1 s (Runs.reaches_of_run .start executed)⟩
  · obtain ⟨s,executed,handed⟩ := Option.map_eq_some_iff.mp (show (Runs.run step (fun s event _ => FewInFlight s event)
      (start [7])
      [.Send 0 [(7,⟨ofIndex 0,none⟩)],.Send 1 [(7,⟨ofIndex 1,none⟩)],.Receive ⟨.Data,zero,ofIndex 0,0,0⟩ 2,.Update 5 3,
        .DrainLost,.DrainAcked,.Receive ⟨.Data,ofIndex 1,ofIndex 1,1,0⟩ 6]).map (fun s => s.handed) =
      some [(some 1,.Lost,[(7,⟨ofIndex 1,none⟩)]),(some 0,.Acked,[(7,⟨ofIndex 0,none⟩)])] by decide)
    exact ⟨s,executed,handed,(outcomes_exclusive [7]).2 s (Runs.reaches_of_run .start executed)⟩

end Lightyear.PacketOutcomes
