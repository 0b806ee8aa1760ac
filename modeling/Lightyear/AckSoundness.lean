import Lightyear.Header
import Lightyear.Runs

/-!
Two peers with a `PacketHeaderManager` each, over a network that loses, duplicates
and reorders packets. A packet id is acknowledged falsely only through the id that
stands for "nothing received yet", which is also the id of a real packet.
-/
namespace Lightyear.AckSoundness
open Lightyear.Ids Lightyear.Ids.WrappingId Lightyear.Message Lightyear.AckBits Lightyear.Header
open Lightyear.Header.PacketHeaderManager

inductive Side where
  | One
  | Two
deriving DecidableEq, Repr

def Side.other : Side → Side
  | .One => .Two
  | .Two => .One

@[simp] theorem Side.other_other (side : Side) : side.other.other = side := by cases side <;> rfl

theorem Side.other_ne (side : Side) : side.other ≠ side := by cases side <;> decide

/-- A packet on the network: the how many-th of its sender it is, and what its sender had
    received when it built the header. -/
structure Packet where
  index : Nat
  header : PacketHeader
  seen : List Nat
deriving DecidableEq

/-- A peer, with the packets it sent, newest first, the packets of the other peer that it
    received, and its own packets that were reported to it as received. -/
structure Peer where
  manager : PacketHeaderManager
  sent : List Packet
  seen : List Nat
  acked : List Nat

namespace Peer

def new : Peer := ⟨.new,[],[],[]⟩

/-- The packet that an id in flight belongs to: the newest one that waits for an acknowledgement. -/
def owner (self : Peer) (id : PacketId) : Option Packet :=
  self.sent.find? fun p => p.header.packet_type.is_ack_eliciting && p.header.packet_id == id

def send (self : Peer) (packet_type : PacketType) (tick : Tick) (real : Duration) : Peer :=
  let header := self.manager.preview_send_packet_header packet_type tick
  { self with
    manager :=
      if packet_type.is_ack_eliciting then self.manager.commit_send_packet header.packet_id real
      else self.manager.commit_send_ack_only header.packet_id
    sent := ⟨self.sent.length,header,self.seen⟩ :: self.sent }

def receive (self : Peer) (packet : Packet) (real : Duration) : Peer :=
  let manager := self.manager.process_recv_packet_header packet.header real
  { self with
    manager := manager
    seen := self.seen ++ [packet.index]
    acked := self.acked ++ manager.newly_acked_packet_scratch.filterMap fun acked =>
      (self.owner acked.1).map (·.index) }

/-- The transport takes the reports. -/
def drain (self : Peer) : Peer :=
  { self with manager := { self.manager with lost_packets := [], newly_acked_packets := ∅ } }

end Peer

abbrev System := Side → Peer

def start : System := fun _ => .new

/-- What a peer does. Of the other peer's packets any one may arrive at any time, again too. -/
inductive Action where
  | Send (packet_type : PacketType) (tick : Tick) (real : Duration)
  | Deliver (n : Nat) (real : Duration)
  | Update (real nack_duration : Duration)
  | Drain

def Peer.act (self other : Peer) : Action → Option Peer
  | .Send packet_type tick real => some (self.send packet_type tick real)
  | .Deliver n real => other.sent.reverse[n]?.map fun packet => self.receive packet real
  | .Update real nack_duration => some { self with manager := self.manager.update real nack_duration }
  | .Drain => some self.drain

def step (s : System) (event : Side × Action) : Option System :=
  ((s event.1).act (s event.1.other) event.2).map (Function.update s event.1)

/-- A packet id is among the newly acknowledged ones only if the other peer received a packet with that id. -/
def AckedReceived (self other : Peer) : Prop :=
  ∀ id ∈ self.manager.newly_acked_packets, ∃ p ∈ self.sent, p.header.packet_id = id ∧ p.index ∈ other.seen

def Sound (s : System) : Prop := ∀ side : Side, AckedReceived (s side) (s side.other)

/-- Fewer than `2^15` packets from the oldest one in flight on. -/
def FewInFlight (self : Peer) : Prop :=
  ∀ id ∈ self.manager.sent_packets_not_acked.keys, ∀ p ∈ self.owner id, self.sent.length < p.index + 2 ^ 15

/-- A header that was built before anything was received does not arrive while a packet with the
    largest id is in flight, unless a packet with that id was received by now. -/
def Started (self other : Peer) : Action → Prop
  | .Deliver n _ => ∀ packet ∈ other.sent.reverse[n]?, packet.seen = [] → max ∈ self.manager.sent_packets_not_acked →
      ∃ p ∈ self.sent, p.header.packet_id = max ∧ p.index ∈ other.seen
  | _ => True

/-- Ids are told apart: what arrives is less than half the id space from the newest packet that
    arrived, and what is in flight from the newest packet that the arriving header knows. -/
def InWindow (self other : Peer) : Action → Prop
  | .Deliver n _ => ∀ packet ∈ other.sent.reverse[n]?,
      (∀ newest ∈ self.seen.max?, newest < packet.index + 2 ^ 15 ∧ packet.index ≤ newest + 2 ^ 15) ∧
      (packet.seen = [] → max ∉ self.manager.sent_packets_not_acked) ∧
      ∀ newest ∈ packet.seen.max?, ∀ id ∈ self.manager.sent_packets_not_acked.keys, ∀ p ∈ self.owner id,
        newest < p.index + 2 ^ 15 ∧ p.index < newest + 2 ^ 15
  | _ => True

instance (self other : Peer) (action : Action) : Decidable (Started self other action) :=
  match action with
  | .Deliver n _ => inferInstanceAs (Decidable (∀ packet ∈ other.sent.reverse[n]?, _ → _ → _))
  | .Send _ _ _ => .isTrue trivial
  | .Update _ _ => .isTrue trivial
  | .Drain => .isTrue trivial

instance (self other : Peer) (action : Action) : Decidable (InWindow self other action) :=
  match action with
  | .Deliver n _ => inferInstanceAs (Decidable (∀ packet ∈ other.sent.reverse[n]?, _ ∧ _ ∧ _))
  | .Send _ _ _ => .isTrue trivial
  | .Update _ _ => .isTrue trivial
  | .Drain => .isTrue trivial

/-! ### Headers between two peers -/

/-- The ids that a peer has received, as they are on the wire. -/
abbrev wireIds (seen : List Nat) : List PacketId := seen.map fun n : Nat => ofIndex n

/-- A header was built by a peer that had received the packets `seen`. -/
structure BuiltFrom (header : PacketHeader) (seen : List Nat) : Prop where
  last : header.last_ack_packet_id = (received (wireIds seen)).last_recv_packet_id.getD max
  bits : header.ack_bitfield = (received (wireIds seen)).get_bitfield

/-- Whatever ids a peer receives, they are the ids of some packets near each other. -/
theorem received_near (ids : List PacketId) (nonempty : ids ≠ []) :
    ∃ near newest, near.map ofIndex = ids ∧ Exact (received ids) near newest := by
  induction ids using List.reverseRecOn with
  | nil => exact absurd rfl nonempty
  | append_singleton ids id ih =>
    have snoc : received (ids ++ [id]) = (received ids).recv_packet id := by simp [received]
    rw [snoc]
    cases ids with
    | nil =>
      obtain ⟨n,-,rfl⟩ := ofIndex_surjective id
      exact ⟨[n],n,rfl,exact_first n⟩
    | cons first ids =>
      obtain ⟨near,newest,same,known⟩ := ih (by simp)
      -- The packet with this id that is nearest to the newest one.
      have low : -2 ^ 15 ≤ (ofIndex newest).sub id := BitVec.le_toInt _
      have high : (ofIndex newest).sub id < 2 ^ 15 := BitVec.toInt_lt
      have isId := ofIndex_sub_sub newest id
      have next : Exact ((received (first :: ids)).recv_packet (ofIndex (newest - (ofIndex newest).sub id))) _ _ :=
        exact_recv known (by omega) (by omega)
      rw [isId] at next
      exact ⟨_,_,by simp [same,isId],next⟩

/-- A header acknowledges packets that its sender received, none more than 32 before the newest. -/
theorem acks_exact {header : PacketHeader} {seen : List Nat} (built : BuiltFrom header seen) {near : List Int}
    {newest : Int} (known : Exact (received (wireIds seen)) near newest) {id : PacketId} (member : id ∈ acks header) :
    ∃ n ∈ near, id = ofIndex n ∧ newest - 32 ≤ n ∧ n ≤ newest := by
  have last : header.last_ack_packet_id = ofIndex newest := by rw [built.last,known.last]; rfl
  rcases mem_acks.mp member with rfl | ⟨i,low,bit,rfl⟩
  · exact ⟨newest,known.member,last,by omega,le_rfl⟩
  · rw [built.bits,get_bitfield_bit _ low,known.bits i low] at bit
    refine ⟨newest - 1 - i,by simpa using bit,?_,by omega,by omega⟩
    rw [last,wrapping_sub_ofIndex]
    congr 1
    push_cast
    omega

/-- A header acknowledges only ids that its sender received, once it received any. -/
theorem acks_received {header : PacketHeader} {seen : List Nat} (built : BuiltFrom header seen) (nonempty : seen ≠ [])
    {id : PacketId} (member : id ∈ acks header) : ∃ n ∈ seen, ofIndex (n : Nat) = id := by
  obtain ⟨near,newest,same,known⟩ := received_near (wireIds seen) (by simpa using nonempty)
  obtain ⟨n,isNear,rfl,-⟩ := acks_exact built known member
  have inIds : ofIndex n ∈ wireIds seen := same ▸ List.mem_map_of_mem isNear
  obtain ⟨m,inSeen,equal⟩ := List.mem_map.mp inIds
  exact ⟨m,inSeen,equal⟩

/-- Before anything was received, a header acknowledges the largest id. -/
theorem acks_fresh {header : PacketHeader} (built : BuiltFrom header []) (id : PacketId) :
    id ∈ acks header ↔ id = max := by
  rw [mem_acks,built.last,built.bits]
  have none : ∀ i < 32, (received (wireIds [])).get_bitfield.getLsbD i = false := by decide
  constructor
  · rintro (last | ⟨i,low,bit,-⟩)
    · exact last
    · rw [none i low] at bit
      cases bit
  · exact .inl

/-- What a peer knows, whatever was lost, duplicated or reordered. -/
structure Linked (peer other : Peer) : Prop where
  next : peer.manager.next_packet_id = ofIndex peer.sent.length
  numbered : ∀ p ∈ peer.sent, p.header.packet_id = ofIndex p.index
  recv : peer.manager.recv_buffer = received (wireIds peer.seen)
  built : ∀ p ∈ peer.sent, BuiltFrom p.header p.seen
  before : ∀ p ∈ peer.sent, ∀ n ∈ p.seen, n ∈ peer.seen
  owned : ∀ id ∈ peer.manager.sent_packets_not_acked, ∃ p, peer.owner id = some p
  arrived : ∀ n ∈ peer.seen, ∃ p ∈ other.sent, p.index = n

theorem owner_mem {self : Peer} {id : PacketId} {p : Packet} (owns : self.owner id = some p) :
    p ∈ self.sent ∧ p.header.packet_id = id := by
  have holds := List.find?_some owns
  simp only [Bool.and_eq_true,beq_iff_eq] at holds
  exact ⟨List.mem_of_find?_eq_some owns,holds.2⟩

theorem linked_new : Linked .new .new where
  next := rfl
  numbered := by simp [Peer.new]
  recv := rfl
  built := by simp [Peer.new]
  before := by simp [Peer.new]
  owned := by simp [Peer.new,PacketHeaderManager.new]
  arrived := by simp [Peer.new]

section Linked
variable {self other self' other' : Peer}

/-- The other peer only has to keep what it sent. -/
theorem linked_other (known : Linked self other) (sent : ∀ p ∈ other.sent, p ∈ other'.sent) : Linked self other' :=
  { known with
    arrived := by
      intro n seen
      obtain ⟨p,member,same⟩ := known.arrived n seen
      exact ⟨p,sent p member,same⟩ }

/-- An operation that classifies packets in flight, and touches nothing else that matters here. -/
theorem linked_classified (known : Linked self other) {manager : PacketHeaderManager} {ids : List PacketId}
    (classified : Classified self.manager manager ids) (recv : manager.recv_buffer = self.manager.recv_buffer) :
    Linked { self with manager } other :=
  { known with
    next := classified.next.trans known.next
    recv := recv.trans known.recv
    owned := fun id inFlight => known.owned id ((classified.mem id).mp inFlight).1 }

theorem linked_send (known : Linked self other) (packet_type : PacketType) (tick : Tick) (real : Duration) :
    Linked (self.send packet_type tick real) other where
  next := by
    have step : ofIndex ((self.sent.length : Int) + 1) = (ofIndex self.sent.length).add_assign 1 :=
      (add_assign_ofIndex _ 1).symm
    cases eliciting : packet_type.is_ack_eliciting
    · simp [Peer.send,eliciting,commit_send_ack_only,known.next,step]
    · simp [Peer.send,eliciting,commit_send_packet,known.next,step]
  numbered := by
    intro p member
    rcases List.mem_cons.mp member with rfl | old
    · exact known.next
    · exact known.numbered p old
  recv := by
    have same : (self.send packet_type tick real).manager.recv_buffer = self.manager.recv_buffer := by
      cases eliciting : packet_type.is_ack_eliciting
      · simp [Peer.send,eliciting,commit_send_ack_only]
      · simp [Peer.send,eliciting,commit_send_packet]
    exact same.trans known.recv
  built := by
    intro p member
    rcases List.mem_cons.mp member with rfl | old
    · exact ⟨by rw [← known.recv]; rfl,by rw [← known.recv]; rfl⟩
    · exact known.built p old
  before := by
    intro p member
    rcases List.mem_cons.mp member with rfl | old
    · exact fun n seen => seen
    · exact known.before p old
  owned := by
    intro id inFlight
    have kept : id ∈ self.manager.sent_packets_not_acked →
        ∃ p, (self.send packet_type tick real).owner id = some p := by
      intro old
      obtain ⟨p,owns⟩ := known.owned id old
      rw [Peer.owner,Peer.send,List.find?_cons]
      split
      · exact ⟨_,rfl⟩
      · exact ⟨p,owns⟩
    cases eliciting : packet_type.is_ack_eliciting
    · have same : (self.send packet_type tick real).manager.sent_packets_not_acked =
          self.manager.sent_packets_not_acked := by
        simp [Peer.send,eliciting,commit_send_ack_only]
      exact kept (same ▸ inFlight)
    · by_cases own : id = self.manager.next_packet_id
      · have owns : (self.send packet_type tick real).owner id =
            some ⟨self.sent.length,self.manager.preview_send_packet_header packet_type tick,self.seen⟩ := by
          rw [Peer.owner,Peer.send,List.find?_cons]
          simp [preview_send_packet_header,eliciting,own]
        exact ⟨_,owns⟩
      · have same : (self.send packet_type tick real).manager.sent_packets_not_acked =
            Maps.insertBack self.manager.sent_packets_not_acked self.manager.next_packet_id real := by
          simp [Peer.send,eliciting,commit_send_packet,preview_send_packet_header]
        rw [same,Maps.mem_iff_lookup,Maps.lookup_insertBack,if_neg own,← Maps.mem_iff_lookup] at inFlight
        exact kept inFlight
  arrived := known.arrived

theorem linked_receive (known : Linked self other) {packet : Packet} (member : packet ∈ other.sent)
    (fromOther : Linked other self) (real : Duration) : Linked (self.receive packet real) other := by
  obtain ⟨ids,acked⟩ := process_acknowledged self.manager packet.header real
  refine ⟨acked.classified.next.trans known.next,known.numbered,?_,known.built,?_,?_,?_⟩
  · have snoc : received (wireIds (self.seen ++ [packet.index])) =
        (received (wireIds self.seen)).recv_packet (ofIndex packet.index) := by simp [received]
    rw [Peer.receive,snoc,← known.recv,← fromOther.numbered packet member]
    exact acked.recv
  · intro p sent n seen
    exact List.mem_append_left _ (known.before p sent n seen)
  · intro id inFlight
    exact known.owned id ((acked.classified.mem id).mp inFlight).1
  · intro n seen
    rcases List.mem_append.mp seen with old | new
    · exact known.arrived n old
    · exact ⟨packet,member,(List.mem_singleton.mp new).symm⟩

theorem linked_act (known : Linked self other) (fromOther : Linked other self) {action : Action}
    (acts : self.act other action = some self') : Linked self' other := by
  cases action with
  | Send packet_type tick real =>
    obtain rfl := Option.some.inj acts
    exact linked_send known packet_type tick real
  | Deliver n real =>
    obtain ⟨packet,sent,rfl⟩ := Option.map_eq_some_iff.mp acts
    exact linked_receive known (List.mem_reverse.mp (List.mem_of_getElem? sent)) fromOther real
  | Update real nack_duration =>
    obtain rfl := Option.some.inj acts
    obtain ⟨ids,classified,-,-⟩ := update_classified self.manager real nack_duration
    exact linked_classified known classified rfl
  | Drain =>
    obtain rfl := Option.some.inj acts
    exact ⟨known.next,known.numbered,known.recv,known.built,known.before,known.owned,known.arrived⟩

/-- A peer forgets nothing that it sent or received. -/
theorem act_grows {action : Action} (acts : self.act other action = some self') :
    (∀ p ∈ self.sent, p ∈ self'.sent) ∧ ∀ n ∈ self.seen, n ∈ self'.seen := by
  cases action with
  | Send packet_type tick real =>
    obtain rfl := Option.some.inj acts
    exact ⟨fun p member => List.mem_cons_of_mem _ member,fun n seen => seen⟩
  | Deliver n real =>
    obtain ⟨packet,-,rfl⟩ := Option.map_eq_some_iff.mp acts
    exact ⟨fun p member => member,fun n seen => List.mem_append_left _ seen⟩
  | Update real nack_duration =>
    obtain rfl := Option.some.inj acts
    exact ⟨fun p member => member,fun n seen => seen⟩
  | Drain =>
    obtain rfl := Option.some.inj acts
    exact ⟨fun p member => member,fun n seen => seen⟩

end Linked

/-- What a step does: one side acts, the other one stays. -/
theorem step_cases {s s' : System} {event : Side × Action} (executed : step s event = some s') :
    ∃ self', (s event.1).act (s event.1.other) event.2 = some self' ∧ s' event.1 = self' ∧
      s' event.1.other = s event.1.other := by
  obtain ⟨self',acts,rfl⟩ := Option.map_eq_some_iff.mp executed
  refine ⟨self',acts,?_,?_⟩
  · simp
  · simp [Side.other_ne]

/-- A property of both ends of a link is kept when it is kept for the side that acts, and
    for the side that watches. -/
theorem sides_step {holds : Peer → Peer → Prop} {s s' : System} {event : Side × Action}
    (executed : step s event = some s')
    (acting : ∀ self', (s event.1).act (s event.1.other) event.2 = some self' → holds self' (s event.1.other))
    (watching : ∀ self', (s event.1).act (s event.1.other) event.2 = some self' → holds (s event.1.other) self')
    (side : Side) : holds (s' side) (s' side.other) := by
  obtain ⟨self',acts,own,others⟩ := step_cases executed
  by_cases same : side = event.1
  · subst same
    rw [own,others]
    exact acting self' acts
  · have isOther : side = event.1.other := by
      revert same
      cases side <;> cases event.1 <;> simp [Side.other]
    rw [isOther,others,Side.other_other,own]
    exact watching self' acts

theorem linked_step {s s' : System} {event : Side × Action} (known : ∀ side, Linked (s side) (s side.other))
    (executed : step s event = some s') (side : Side) : Linked (s' side) (s' side.other) := by
  have fromOther : Linked (s event.1.other) (s event.1) := by simpa using known event.1.other
  exact sides_step executed (fun _ acts => linked_act (known event.1) fromOther acts)
    (fun _ acts => linked_other fromOther (act_grows acts).1) side

/-! ### Soundness -/

section Sound
variable {self other self' : Peer} {action : Action}

/-- Of a header that was built after something arrived, every acknowledgement is true. -/
theorem acked_received {packet : Packet} {id : PacketId} (known : Linked self other) (fromOther : Linked other self)
    (member : packet ∈ other.sent) (nonempty : packet.seen ≠ []) (acked : id ∈ acks packet.header) :
    ∃ p ∈ self.sent, p.header.packet_id = id ∧ p.index ∈ other.seen := by
  obtain ⟨n,seen,rfl⟩ := acks_received (fromOther.built packet member) nonempty acked
  have received := fromOther.before packet member n seen
  obtain ⟨p,sent,rfl⟩ := fromOther.arrived n received
  exact ⟨p,sent,known.numbered p sent,received⟩

/-- What a step of one side does to the acknowledgements that it has: exactly the condition keeps them true. -/
theorem acked_act (known : Linked self other) (fromOther : Linked other self) (sound : AckedReceived self other)
    (acts : self.act other action = some self') : AckedReceived self' other ↔ Started self other action := by
  cases action with
  | Send packet_type tick real =>
    obtain rfl := Option.some.inj acts
    refine iff_of_true ?_ trivial
    have same : (self.send packet_type tick real).manager.newly_acked_packets = self.manager.newly_acked_packets := by
      cases eliciting : packet_type.is_ack_eliciting
      · simp [Peer.send,eliciting,commit_send_ack_only]
      · simp [Peer.send,eliciting,commit_send_packet]
    intro id newly
    obtain ⟨p,sent,isId,seen⟩ := sound id (same ▸ newly)
    exact ⟨p,List.mem_cons_of_mem _ sent,isId,seen⟩
  | Update real nack_duration =>
    obtain rfl := Option.some.inj acts
    exact iff_of_true sound trivial
  | Drain =>
    obtain rfl := Option.some.inj acts
    refine iff_of_true ?_ trivial
    intro id newly
    simp [Peer.drain] at newly
  | Deliver n real =>
    obtain ⟨packet,sent,rfl⟩ := Option.map_eq_some_iff.mp acts
    have member : packet ∈ other.sent := List.mem_reverse.mp (List.mem_of_getElem? sent)
    obtain ⟨ids,acked⟩ := process_acknowledged self.manager packet.header real
    constructor
    · intro soundAfter other' same fresh inFlight
      obtain rfl := Option.some.inj (sent.symm.trans same)
      have built := fromOther.built packet member
      rw [fresh] at built
      have isAcked : max ∈ ids := (acked.mem max).mpr ⟨(acks_fresh built max).mpr rfl,inFlight⟩
      exact soundAfter max ((acked.newly max).mpr (.inr isAcked))
    · intro started id newly
      rcases (acked.newly id).mp newly with old | reported
      · exact sound id old
      obtain ⟨inHeader,inFlight⟩ := (acked.mem id).mp reported
      by_cases fresh : packet.seen = []
      · have built := fromOther.built packet member
        rw [fresh] at built
        rw [(acks_fresh built id).mp inHeader] at inFlight ⊢
        exact started packet sent fresh inFlight
      · have received := acked_received known fromOther member fresh inHeader
        exact received

/-- The other side keeps its acknowledgements. -/
theorem acked_watching (sound : AckedReceived other self) (acts : self.act other action = some self') :
    AckedReceived other self' := by
  intro id newly
  obtain ⟨p,sent,isId,seen⟩ := sound id newly
  exact ⟨p,sent,isId,(act_grows acts).2 _ seen⟩

end Sound

theorem sound_step {s s' : System} {event : Side × Action} (known : ∀ side, Linked (s side) (s side.other))
    (sound : Sound s) (executed : step s event = some s') :
    Sound s' ↔ Started (s event.1) (s event.1.other) event.2 := by
  have fromOther : Linked (s event.1.other) (s event.1) := by simpa using known event.1.other
  have soundOther : AckedReceived (s event.1.other) (s event.1) := by simpa using sound event.1.other
  constructor
  · intro soundAfter
    obtain ⟨self',acts,own,others⟩ := step_cases executed
    have after := soundAfter event.1
    rw [own,others] at after
    exact (acked_act (known event.1) fromOther (sound event.1) acts).mp after
  · intro started
    exact sides_step executed (fun _ acts => (acked_act (known event.1) fromOther (sound event.1) acts).mpr started)
      (fun _ acts => acked_watching soundOther acts)

theorem sound_reached {s : System}
    (reached : Runs.Reaches step (fun s event _ => Started (s event.1) (s event.1.other) event.2) start s) :
    (∀ side, Linked (s side) (s side.other)) ∧ Sound s := by
  refine reached.invariant (fun s => (∀ side, Linked (s side) (s side.other)) ∧ Sound s)
    ⟨fun side => linked_new,fun side id newly => ?_⟩ ?_
  · simp [start,Peer.new,PacketHeaderManager.new] at newly
  · rintro before event after ⟨known,sound⟩ executed started
    exact ⟨linked_step known executed,(sound_step known sound executed).mpr started⟩

/-- The packets `seen` arrived near enough to each other for the receive buffer to tell them apart. -/
def Tight (seen : List Nat) : Prop :=
  ∀ newest ∈ seen.max?, Exact (received (wireIds seen)) (seen.map fun n : Nat => (n : Int)) newest

theorem tight_snoc {seen : List Nat} {n : Nat} (tight : Tight seen)
    (near : ∀ newest ∈ seen.max?, newest < n + 2 ^ 15 ∧ n ≤ newest + 2 ^ 15) : Tight (seen ++ [n]) := by
  intro top isTop
  have snoc : received (wireIds (seen ++ [n])) = (received (wireIds seen)).recv_packet (ofIndex n) := by simp [received]
  rw [snoc]
  cases before : seen.max? with
  | none =>
    have empty := List.max?_eq_none_iff.mp before
    subst empty
    simp only [List.nil_append,List.max?_singleton,Option.mem_def,Option.some.injEq] at isTop
    subst isTop
    exact exact_first n
  | some newest =>
    obtain ⟨low,high⟩ := near newest before
    have next := exact_recv (tight newest before) (n := n) (by omega) (by omega)
    have same : (top : Int) = Max.max (newest : Int) n := by
      have greatest := List.max?_eq_some_iff.mp isTop
      have old := List.max?_eq_some_iff.mp before
      rcases Nat.le_total newest n with le | le
      · have least := greatest.2 n (by simp)
        have reached : top ≤ n := by
          rcases List.mem_append.mp greatest.1 with inSeen | new
          · exact (old.2 top inSeen).trans le
          · exact (List.mem_singleton.mp new).le
        omega
      · have least := greatest.2 newest (List.mem_append_left _ old.1)
        have reached : top ≤ newest := by
          rcases List.mem_append.mp greatest.1 with inSeen | new
          · exact old.2 top inSeen
          · exact (List.mem_singleton.mp new).le.trans le
        omega
    rw [same]
    simpa using next

/-- What a peer knows when ids are told apart: of its own packets, the ones reported were received. -/
structure Exactly (peer other : Peer) : Prop where
  seen : Tight peer.seen
  sent : ∀ p ∈ peer.sent, Tight p.seen
  acked : ∀ n ∈ peer.acked, n ∈ other.seen

section Exactly
variable {self other self' : Peer} {action : Action}

theorem exactly_act (known : Linked self other) (fromOther : Linked other self) (exactly : Exactly self other)
    (exactlyOther : Exactly other self) (window : InWindow self other action)
    (acts : self.act other action = some self') :
    Exactly self' other := by
  cases action with
  | Send packet_type tick real =>
    obtain rfl := Option.some.inj acts
    refine ⟨exactly.seen,?_,exactly.acked⟩
    intro p member
    rcases List.mem_cons.mp member with rfl | old
    · exact exactly.seen
    · exact exactly.sent p old
  | Update real nack_duration =>
    obtain rfl := Option.some.inj acts
    exact ⟨exactly.seen,exactly.sent,exactly.acked⟩
  | Drain =>
    obtain rfl := Option.some.inj acts
    exact ⟨exactly.seen,exactly.sent,exactly.acked⟩
  | Deliver n real =>
    obtain ⟨packet,sent,rfl⟩ := Option.map_eq_some_iff.mp acts
    have member : packet ∈ other.sent := List.mem_reverse.mp (List.mem_of_getElem? sent)
    obtain ⟨near,notFresh,apart⟩ := window packet sent
    refine ⟨tight_snoc exactly.seen near,exactly.sent,?_⟩
    intro n isAcked
    rcases List.mem_append.mp isAcked with old | new
    · exact exactly.acked n old
    obtain ⟨ids,acked⟩ := process_acknowledged self.manager packet.header real
    obtain ⟨⟨id,sample⟩,reported,owns⟩ := List.mem_filterMap.mp new
    obtain ⟨p,isOwner,rfl⟩ := Option.map_eq_some_iff.mp owns
    have isId : id ∈ ids := by
      have scratch := acked.scratch
      simp only [record_received,List.map_nil,List.nil_append] at scratch
      exact scratch ▸ List.mem_map_of_mem reported
    obtain ⟨inHeader,inFlight⟩ := (acked.mem id).mp isId
    have built := fromOther.built packet member
    cases isNewest : packet.seen.max? with
    | none =>
      have fresh := List.max?_eq_none_iff.mp isNewest
      rw [fresh] at built
      rw [(acks_fresh built id).mp inHeader] at inFlight
      exact absurd inFlight (notFresh fresh)
    | some newest =>
      obtain ⟨m,seen,same,low,high⟩ := acks_exact built (exactlyOther.sent packet member newest isNewest) inHeader
      obtain ⟨k,seenK,rfl⟩ := List.mem_map.mp seen
      obtain ⟨inSent,hasId⟩ := owner_mem isOwner
      obtain ⟨above,below⟩ := apart newest isNewest id (AList.mem_keys.mp inFlight) p isOwner
      have equal : (p.index : Int) = k :=
        ofIndex_inj (by omega) (by omega) ((known.numbered p inSent).symm.trans (hasId.trans same))
      rw [Int.natCast_inj.mp equal]
      exact fromOther.before packet member k seenK

theorem exactly_watching (exactly : Exactly other self) (acts : self.act other action = some self') :
    Exactly other self' :=
  ⟨exactly.seen,exactly.sent,fun n acked => (act_grows acts).2 n (exactly.acked n acked)⟩

end Exactly

theorem exactly_reached {s : System}
    (reached : Runs.Reaches step (fun s event _ => InWindow (s event.1) (s event.1.other) event.2) start s) :
    (∀ side, Linked (s side) (s side.other)) ∧ ∀ side, Exactly (s side) (s side.other) := by
  refine reached.invariant
    (fun s => (∀ side, Linked (s side) (s side.other)) ∧ ∀ side, Exactly (s side) (s side.other))
    ⟨fun side => linked_new,fun side => ⟨?_,?_,?_⟩⟩ ?_
  · intro newest isNewest
    simp [start,Peer.new] at isNewest
  · simp [start,Peer.new]
  · simp [start,Peer.new]
  · rintro before event after ⟨known,exactly⟩ executed window
    have fromOther : Linked (before event.1.other) (before event.1) := by simpa using known event.1.other
    have exactlyOther : Exactly (before event.1.other) (before event.1) := by simpa using exactly event.1.other
    exact ⟨linked_step known executed,sides_step executed
      (fun _ acts => exactly_act (known event.1) fromOther (exactly event.1) exactlyOther window acts)
      (fun _ acts => exactly_watching exactlyOther acts)⟩

/-! ### The id of nothing -/

/-- In every run in which no header from before the first packet arrives while the largest id is
    in flight, only received ids are acknowledged, and a step that breaks this condition acknowledges
    an id falsely. When moreover ids are told apart, the acknowledged packets themselves were received. -/
theorem ack_sound (s : System) :
    (Runs.Reaches step (fun s event _ => Started (s event.1) (s event.1.other) event.2) start s →
      Sound s ∧ ∀ event s', step s event = some s' → (Sound s' ↔ Started (s event.1) (s event.1.other) event.2)) ∧
    (Runs.Reaches step (fun s event _ => InWindow (s event.1) (s event.1.other) event.2) start s →
      ∀ side, ∀ n ∈ (s side).acked, n ∈ (s side.other).seen) := by
  constructor
  · intro reached
    obtain ⟨known,sound⟩ := sound_reached reached
    exact ⟨sound,fun event s' executed => sound_step known sound executed⟩
  · intro reached side
    exact ((exactly_reached reached).2 side).acked

theorem ack_sound_both :
    (∃ s, Runs.run step (fun s event _ => Started (s event.1) (s event.1.other) event.2) start
        [(.One,.Send .Data 0 0),(.Two,.Deliver 0 1),(.Two,.Send .Data 0 1),(.One,.Deliver 0 2)] = some s ∧
      zero ∈ (s .One).manager.newly_acked_packets ∧ Sound s) ∧
    ∃ s, Runs.run step (fun s event _ => InWindow (s event.1) (s event.1.other) event.2) start
        [(.One,.Send .Data 0 0),(.Two,.Deliver 0 1),(.Two,.Send .Data 0 1),(.One,.Deliver 0 2)] = some s ∧
      (s .One).acked = [0] ∧ ∀ n ∈ (s .One).acked, n ∈ (s .Two).seen := by
  constructor
  · obtain ⟨s,executed,acked⟩ := Option.map_eq_some_iff.mp (show (Runs.run step
      (fun s event _ => Started (s event.1) (s event.1.other) event.2) start
      [(.One,.Send .Data 0 0),(.Two,.Deliver 0 1),(.Two,.Send .Data 0 1),(.One,.Deliver 0 2)]).map
      (fun s => decide (zero ∈ (s .One).manager.newly_acked_packets)) = some true by decide)
    exact ⟨s,executed,of_decide_eq_true acked,((ack_sound s).1 (Runs.reaches_of_run .start executed)).1⟩
  · obtain ⟨s,executed,acked⟩ := Option.map_eq_some_iff.mp (show (Runs.run step
      (fun s event _ => InWindow (s event.1) (s event.1.other) event.2) start
      [(.One,.Send .Data 0 0),(.Two,.Deliver 0 1),(.Two,.Send .Data 0 1),(.One,.Deliver 0 2)]).map
      (fun s => (s .One).acked) = some [0] by decide)
    exact ⟨s,executed,acked,(ack_sound s).2 (Runs.reaches_of_run .start executed) .One⟩

theorem linked_reached {meets : System → Side × Action → System → Prop} {s : System}
    (reached : Runs.Reaches step meets start s) : ∀ side, Linked (s side) (s side.other) :=
  reached.invariant (fun s => ∀ side, Linked (s side) (s side.other)) (fun _ => linked_new)
    fun _ _ _ known executed _ => linked_step known executed

@[simp] private theorem data_eliciting : PacketType.Data.is_ack_eliciting = true := rfl

private theorem few_of_empty {self : Peer} (empty : self.manager.sent_packets_not_acked = ∅) : FewInFlight self := by
  intro id inFlight
  rw [empty] at inFlight
  cases inFlight

private theorem send_entries {self : Peer} (empty : self.manager.sent_packets_not_acked = ∅) (tick : Tick)
    (real : Duration) : (self.send .Data tick real).manager.sent_packets_not_acked.entries =
      [⟨self.manager.next_packet_id,real⟩] := by
  simp [Peer.send,commit_send_packet,preview_send_packet_header,empty,Maps.insertBack]

private theorem few_send {self : Peer} (empty : self.manager.sent_packets_not_acked = ∅) (tick : Tick)
    (real : Duration) :
    FewInFlight (self.send .Data tick real) := by
  intro id inFlight p owns
  rw [AList.keys,send_entries empty] at inFlight
  obtain rfl : id = self.manager.next_packet_id := by simpa [List.keys] using inFlight
  have isOwner : (self.send .Data tick real).owner self.manager.next_packet_id =
      some ⟨self.sent.length,self.manager.preview_send_packet_header .Data tick,self.seen⟩ := by
    rw [Peer.owner,Peer.send,List.find?_cons]
    simp [preview_send_packet_header]
  obtain rfl := Option.some.inj (isOwner.symm.trans owns)
  simp [Peer.send]

/-- A packet that is lost leaves nothing in flight. -/
private theorem lose_empty {self : Peer} (empty : self.manager.sent_packets_not_acked = ∅) (tick : Tick)
    {real later nack_duration : Duration} (long : nack_duration < later - real) :
    ((self.send .Data tick real).manager.update later nack_duration).sent_packets_not_acked = ∅ := by
  apply AList.ext
  change List.filter _ (self.send .Data tick real).manager.sent_packets_not_acked.entries = []
  rw [send_entries empty]
  simp [is_lost,long]

private theorem few_sides {s : System} {side : Side} {self : Peer} (others : FewInFlight (s side.other))
    (own : FewInFlight self) (any : Side) : FewInFlight (Function.update s side self any) := by
  by_cases same : any = side
  · subst same; simpa using own
  · have isOther : any = side.other := by
      revert same
      cases any <;> cases side <;> simp [Side.other]
    rw [isOther,Function.update_of_ne (Side.other_ne side)]
    exact others

/-- 11 ms, one longer than the shortest nack timeout of the default settings. -/
private def frame : Duration := 11000000

/-- However many packets were lost, the sender has nothing in flight and the other peer knows of nothing. -/
private theorem exhausted (count : Nat) :
    ∃ s, Runs.Reaches step (fun _ _ after => ∀ side, FewInFlight (after side)) start s ∧
      (s .One).sent.length = count ∧ (s .One).manager.sent_packets_not_acked = ∅ ∧ s .Two = .new := by
  induction count with
  | zero => exact ⟨start,.start,rfl,rfl,rfl⟩
  | succ count ih =>
    obtain ⟨s,reached,length,empty,fresh⟩ := ih
    have others : FewInFlight (s .Two) := by rw [fresh]; exact few_of_empty rfl
    have long : 10000000 < (count + 1) * frame - count * frame := by rw [← Nat.sub_mul]; simp [frame]
    let one := (s .One).send .Data 0 (count * frame)
    let sent := Function.update s .One one
    let lost := Function.update sent .One
      { one with manager := one.manager.update ((count + 1) * frame) 10000000 }
    have afterSend : Runs.Reaches step (fun _ _ after => ∀ side, FewInFlight (after side)) start sent :=
      .step (.One,.Send .Data 0 (count * frame)) reached rfl (few_sides others (few_send empty 0 _))
    have afterLoss : Runs.Reaches step (fun _ _ after => ∀ side, FewInFlight (after side)) start lost := by
      refine .step (.One,.Update ((count + 1) * frame) 10000000) afterSend ?_
        (few_sides ?_ (few_of_empty (lose_empty empty 0 long)))
      · simp [step,Peer.act,sent,lost]
      · simpa [sent,Side.other] using others
    refine ⟨lost,afterLoss,?_,?_,?_⟩
    · simp [lost,one,Peer.send,length]
    · simpa [lost,one] using lose_empty empty 0 long
    · simpa [lost,sent] using fresh

/-- A peer sends 65536 packets, of which none arrives, each but the last found to be lost before the next is
    sent. The first header of the other peer acknowledges the last one. -/
theorem nothing_received_acknowledges :
    ¬ ∀ s, Runs.Reaches step (fun _ _ after => ∀ side, FewInFlight (after side)) start s → Sound s := by
  intro sound
  obtain ⟨s,reached,length,empty,fresh⟩ := exhausted 65535
  have isLast : (s .One).manager.next_packet_id = max := by
    rw [(linked_reached reached .One).next,length]
    decide
  have others : FewInFlight (s .Two) := by rw [fresh]; exact few_of_empty rfl
  let one := (s .One).send .Data 0 (65535 * frame)
  let two := Peer.new.send .Data 0 (65535 * frame)
  let sent := Function.update (Function.update s .One one) .Two two
  have fewOne : FewInFlight one := few_send empty 0 _
  have afterSends : Runs.Reaches step (fun _ _ after => ∀ side, FewInFlight (after side)) start sent := by
    refine .step (.Two,.Send .Data 0 (65535 * frame))
      (.step (.One,.Send .Data 0 (65535 * frame)) reached rfl (few_sides others fewOne)) ?_
      (few_sides ?_ (few_send rfl 0 _))
    · simp [step,Peer.act,sent,one,two,fresh]
    · simpa [Side.other] using fewOne
  obtain ⟨packet,sends⟩ : ∃ packet, two.sent.reverse[0]? = some packet := ⟨_,rfl⟩
  have built : BuiltFrom packet.header [] := by
    obtain rfl := Option.some.inj sends
    exact ⟨rfl,rfl⟩
  obtain ⟨ids,acked⟩ := process_acknowledged one.manager packet.header (65536 * frame)
  let after := Function.update sent .One (one.receive packet (65536 * frame))
  have afterAck : Runs.Reaches step (fun _ _ after => ∀ side, FewInFlight (after side)) start after := by
    refine .step (.One,.Deliver 0 (65536 * frame)) afterSends ?_ (few_sides ?_ ?_)
    · simp only [step,Peer.act,sent,Side.other,Function.update_self,sends]
      simp [after,sent,one]
    · have fewTwo : FewInFlight two := few_send rfl 0 _
      simpa [sent,Side.other] using fewTwo
    · intro id inFlight p owns
      refine fewOne id ?_ p owns
      exact AList.mem_keys.mp (((acked.classified.mem id).mp (AList.mem_keys.mpr inFlight)).1)
  have inFlight : WrappingId.max ∈ one.manager.sent_packets_not_acked := by
    rw [AList.mem_keys,AList.keys,send_entries empty,isLast]
    simp [List.keys]
  have isAcked : WrappingId.max ∈ (one.receive packet (65536 * frame)).manager.newly_acked_packets :=
    (acked.newly max).mpr (.inr ((acked.mem max).mpr ⟨(acks_fresh built max).mpr rfl,inFlight⟩))
  obtain ⟨p,-,-,seen⟩ := sound after afterAck .One max (by simpa [after] using isAcked)
  simp [after,sent,two,Side.other,Peer.send,Peer.new] at seen

end Lightyear.AckSoundness
