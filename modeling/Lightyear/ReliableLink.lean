import Lightyear.Receive
import Lightyear.Runs
import Lightyear.SendReliable

/-!
A reliable channel end to end: a sender, the messages in flight, and a receiver. The network keeps
what it delivers, so that messages are lost, duplicated and reordered in any way.
-/
namespace Lightyear.ReliableLink
open Lightyear.Ids Lightyear.Ids.WrappingId Lightyear.Message Lightyear.Compression Lightyear.Fragments
open Lightyear.Reassembly Lightyear.Receive Lightyear.Receive.ChannelReceive Lightyear.SendReliable

/-- The two ends of a channel and what happened to them. A message in flight has its send order with it. -/
structure Link where
  sender : ReliableSendState
  network : List (Nat × MessageData)
  receiver : ChannelReceive
  buffered : List Bytes
  /-- The message and the piece of it that each arrival brought, the last arrival first. -/
  arrived : List (Nat × Nat)
  returned : List Returned

inductive Event where
  | Send (message : Bytes)
  /-- One candidate of the sender enters the network and is committed. -/
  | Transmit (candidate : Nat) (sent_at : Duration)
  | Ack (ack : MessageAck)
  | UpdateSender (now rtt : Duration)
  | Deliver (message : Nat) (tick : Tick)
  | Lose (message : Nat)
  | UpdateReceiver (now : Duration)
  | Read

def Link.start (settings : ReliableSettings) (mode : ChannelMode) (fragmenter : FragmentSender) : Link :=
  ⟨.new settings,[],.new mode fragmenter.fragment_size fragmenter.positive,[],[],[]⟩

/-- The newest of `count` messages that has the id. -/
def latest (count : Nat) (id : MessageId) : Option Nat := (List.range count).reverse.find? fun n => ofIndex n = id

/-- What was returned once `read_message` has returned `message`. -/
def note (count : Nat) (returned : List Returned) : Option (Tick × Bytes × Option MessageId) → List Returned
  | none => returned
  | some (_,bytes,id) => returned ++ [⟨id.bind (latest count),id,bytes⟩]

def step (lz4 : Lz4) (fragmenter : FragmentSender) (config : CompressionConfig) (s : Link) : Event → Option Link
  | .Send message =>
    if message.length > isize_max then none
    else
      (s.sender.buffer_send lz4 fragmenter message config).map fun (sender,_) =>
        { s with sender,buffered := s.buffered ++ [message] }
  | .Transmit candidate sent_at =>
    s.sender.collect_candidates[candidate]?.map fun c =>
      { s with sender := s.sender.commit_send c.key sent_at,network := s.network ++ [(c.send_order,c.message)] }
  | .Ack ack => (s.sender.receive_ack ack).map fun (sender,_) => { s with sender }
  | .UpdateSender now rtt => some { s with sender := s.sender.update now rtt }
  | .Deliver message tick =>
    s.network[message]?.map fun (n,data) =>
      { s with
        receiver := (s.receiver.buffer_recv lz4 ⟨data,tick,config⟩).1,
        arrived := (n,pieceIndex data) :: s.arrived }
  | .Lose message => some { s with network := s.network.eraseIdx message }
  | .UpdateReceiver now => some { s with receiver := s.receiver.update now }
  | .Read =>
    some { s with
      receiver := s.receiver.read_message.1,
      returned := note s.buffered.length s.returned s.receiver.read_message.2 }

/-- Every message that was not returned yet is among the newest `2^15 - 1`. -/
def FewUnread (count : Nat) (returned : List Returned) : Prop :=
  ∀ n < count, some n ∉ returned.map (·.index) → count < n + 2 ^ 15

/-- The window of the ids from the oldest message that is not returned, or in the network, to the newest one that was
    buffered has fewer than `2^15` of them. A channel that returns out of order may be done with most of these. -/
def FewOutstanding (s : Link) : Prop :=
  FewUnread s.buffered.length s.returned ∧ ∀ m ∈ s.network, s.buffered.length < m.1 + 2 ^ 15

instance (count : Nat) (returned : List Returned) : Decidable (FewUnread count returned) :=
  inferInstanceAs (Decidable (∀ n < count, some n ∉ returned.map (·.index) → count < n + 2 ^ 15))

instance : DecidablePred FewOutstanding := fun _ => inferInstanceAs (Decidable (_ ∧ _))

theorem latest_eq {count n : Nat} (inside : n < count) (near : count ≤ n + 2 ^ 16) :
    latest count (ofIndex n) = some n := by
  induction count with
  | zero => omega
  | succ count ih =>
    simp only [latest,List.range_succ,List.reverse_append,List.reverse_cons,List.reverse_nil,List.nil_append,
      List.singleton_append,List.find?_cons]
    rcases Nat.lt_or_ge n count with older | last
    · have other : ofIndex (count : Int) ≠ ofIndex (n : Int) := fun same => by
        have := ofIndex_inj (by omega) (by omega) same
        omega
      simp only [other,decide_false]
      exact ih older (by omega)
    · obtain rfl : n = count := by omega
      simp

/-- All that is in flight was sent. -/
structure Sending (lz4 : Lz4) (fragmenter : FragmentSender) (config : CompressionConfig) (s : Link) : Prop where
  tracks : Tracks lz4 fragmenter config s.buffered s.sender
  fits : ∀ payload ∈ s.buffered, payload.length ≤ isize_max
  network : ∀ m ∈ s.network, ∃ payload, s.buffered[m.1]? = some payload ∧
    m.2 ∈ wire lz4 fragmenter config (ofIndex m.1) payload

section Sending
variable {lz4 : Lz4} {fragmenter : FragmentSender} {config : CompressionConfig} {s s' : Link} {event : Event}

theorem sending_start (settings : ReliableSettings) (mode : ChannelMode) :
    Sending lz4 fragmenter config (.start settings mode fragmenter) :=
  ⟨tracks_new settings,by simp [Link.start],by simp [Link.start]⟩

theorem sending_step (known : Sending lz4 fragmenter config s)
    (executed : step lz4 fragmenter config s event = some s') : Sending lz4 fragmenter config s' := by
  cases event with
  | Send message =>
    simp only [step] at executed
    split at executed
    · cases executed
    next fits =>
    obtain ⟨⟨sender,id⟩,sent,rfl⟩ := Option.map_eq_some_iff.mp executed
    refine ⟨tracks_buffer_send known.tracks sent,?_,?_⟩
    · intro payload member
      rcases List.mem_append.mp member with old | new
      · exact known.fits payload old
      · rw [List.mem_singleton.mp new]
        omega
    · intro m inFlight
      obtain ⟨payload,inBuffer,isWire⟩ := known.network m inFlight
      refine ⟨payload,?_,isWire⟩
      rw [List.getElem?_append_left (List.getElem?_eq_some_iff.mp inBuffer).1,inBuffer]
  | Transmit candidate sent_at =>
    obtain ⟨c,isCandidate,rfl⟩ := Option.map_eq_some_iff.mp executed
    refine ⟨tracks_commit_send known.tracks c.key sent_at,known.fits,?_⟩
    intro m inFlight
    rcases List.mem_append.mp inFlight with old | new
    · exact known.network m old
    · rw [List.mem_singleton.mp new]
      exact candidate_wire known.tracks (List.mem_of_getElem? isCandidate)
  | Ack ack =>
    obtain ⟨⟨sender,done⟩,acked,rfl⟩ := Option.map_eq_some_iff.mp executed
    exact ⟨tracks_receive_ack known.tracks acked,known.fits,known.network⟩
  | UpdateSender now rtt =>
    obtain rfl := Option.some.inj executed
    exact ⟨tracks_update known.tracks now rtt,known.fits,known.network⟩
  | Deliver message tick =>
    obtain ⟨m,-,rfl⟩ := Option.map_eq_some_iff.mp executed
    exact ⟨known.tracks,known.fits,known.network⟩
  | Lose message =>
    obtain rfl := Option.some.inj executed
    exact ⟨known.tracks,known.fits,fun m inFlight => known.network m (List.mem_of_mem_eraseIdx inFlight)⟩
  | UpdateReceiver now =>
    obtain rfl := Option.some.inj executed
    exact ⟨known.tracks,known.fits,known.network⟩
  | Read =>
    obtain rfl := Option.some.inj executed
    exact ⟨known.tracks,known.fits,known.network⟩

end Sending

/-! ### The receiving side -/

/-- An invariant of the receiver, in terms of what was buffered, what arrived and what was returned: what it
    takes to hold in every run with a small window of ids. -/
structure Maintained (lz4 : Lz4) (fragmenter : FragmentSender) (config : CompressionConfig) (mode : ChannelMode)
    (holds : List Bytes → ChannelReceive → List (Nat × Nat) → List Returned → Prop) : Prop where
  start : holds [] (.new mode fragmenter.fragment_size fragmenter.positive) [] []
  send : ∀ buffered receiver arrived returned message, holds buffered receiver arrived returned →
    FewUnread buffered.length returned → holds (buffered ++ [message]) receiver arrived returned
  deliver : ∀ buffered receiver arrived returned (n : Nat) data payload tick, holds buffered receiver arrived returned →
    FewUnread buffered.length returned → buffered[n]? = some payload → payload.length ≤ isize_max →
    data ∈ wire lz4 fragmenter config (ofIndex n) payload → buffered.length < n + 2 ^ 15 →
    holds buffered (receiver.buffer_recv lz4 ⟨data,tick,config⟩).1 ((n,pieceIndex data) :: arrived) returned
  update : ∀ buffered receiver arrived returned now, holds buffered receiver arrived returned →
    holds buffered (receiver.update now) arrived returned
  read : ∀ buffered receiver arrived returned, holds buffered receiver arrived returned →
    FewUnread buffered.length returned →
    holds buffered receiver.read_message.1 arrived (note buffered.length returned receiver.read_message.2)

theorem Maintained.reaches {lz4 : Lz4} {fragmenter : FragmentSender} {config : CompressionConfig} {mode : ChannelMode}
    {holds : List Bytes → ChannelReceive → List (Nat × Nat) → List Returned → Prop}
    (maintained : Maintained lz4 fragmenter config mode holds) {settings : ReliableSettings} {s : Link}
    (reached : Runs.Reaches (step lz4 fragmenter config) (fun _ _ after => FewOutstanding after)
      (.start settings mode fragmenter) s) :
    Sending lz4 fragmenter config s ∧ FewOutstanding s ∧ holds s.buffered s.receiver s.arrived s.returned := by
  refine reached.invariant (fun s => Sending lz4 fragmenter config s ∧ FewOutstanding s ∧
    holds s.buffered s.receiver s.arrived s.returned)
      ⟨sending_start settings mode,⟨by simp [FewUnread,Link.start],by simp [Link.start]⟩,
    maintained.start⟩ ?_
  rintro before event after ⟨sending,few,known⟩ executed fewAfter
  refine ⟨sending_step sending executed,fewAfter,?_⟩
  cases event with
  | Send message =>
    simp only [step] at executed
    split at executed
    · cases executed
    obtain ⟨sender,-,rfl⟩ := Option.map_eq_some_iff.mp executed
    exact maintained.send _ _ _ _ message known few.1
  | Transmit candidate sent_at =>
    obtain ⟨c,-,rfl⟩ := Option.map_eq_some_iff.mp executed
    exact known
  | Ack ack =>
    obtain ⟨sender,-,rfl⟩ := Option.map_eq_some_iff.mp executed
    exact known
  | UpdateSender now rtt =>
    obtain rfl := Option.some.inj executed
    exact known
  | Deliver message tick =>
    obtain ⟨m,inFlight,rfl⟩ := Option.map_eq_some_iff.mp executed
    have member := List.mem_of_getElem? inFlight
    obtain ⟨payload,inBuffer,isWire⟩ := sending.network m member
    exact maintained.deliver _ _ _ _ m.1 m.2 payload tick known few.1 inBuffer
      (sending.fits payload (List.mem_of_getElem? inBuffer)) isWire (few.2 m member)
  | Lose message =>
    obtain rfl := Option.some.inj executed
    exact known
  | UpdateReceiver now =>
    obtain rfl := Option.some.inj executed
    exact maintained.update _ _ _ _ now known
  | Read =>
    obtain rfl := Option.some.inj executed
    exact maintained.read _ _ _ _ known few.1

end Lightyear.ReliableLink
