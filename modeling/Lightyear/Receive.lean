import Lightyear.Reassembly

/-!
`channel/receive.rs`: the receiving half of a channel, with one state for each delivery mode.
-/
namespace Lightyear.Receive
open Lightyear.Ids Lightyear.Message Lightyear.Compression Lightyear.Fragments Lightyear.Reassembly

/-- `ChannelMode`, without the resend settings that only senders read. -/
inductive ChannelMode where
  | UnorderedUnreliableWithAcks
  | UnorderedUnreliable
  | SequencedUnreliable
  | UnorderedReliable
  | SequencedReliable
  | OrderedReliable
deriving DecidableEq, Repr

/-- `DISCARD_AFTER`, three seconds. -/
def DISCARD_AFTER : Duration := 3000000000

abbrev ReceivedMessage := Tick × Bytes

inductive RecvState where
  | UnreliableUnordered (ready : List ReceivedMessage)
  | UnreliableSequenced (ready : Option (Tick × Bytes × MessageId)) (newest_seen newest_completed : Option MessageId)
  | ReliableUnordered (pending : MessageId) (ready : List (MessageId × Tick × Bytes)) (received : Finset MessageId)
  | ReliableOrdered (pending : MessageId) (ready : Maps.Map MessageId ReceivedMessage)
  | ReliableSequenced (ready : Option (Tick × Bytes × MessageId)) (newest_seen newest_completed : Option MessageId)

structure ReceiveMessage where
  data : MessageData
  remote_sent_tick : Tick
  compression : CompressionConfig

namespace RecvState

def new : ChannelMode → RecvState
  | .UnorderedUnreliableWithAcks => .UnreliableUnordered []
  | .UnorderedUnreliable => .UnreliableUnordered []
  | .SequencedUnreliable => .UnreliableSequenced none none none
  | .UnorderedReliable => .ReliableUnordered .zero [] ∅
  | .OrderedReliable => .ReliableOrdered .zero ∅
  | .SequencedReliable => .ReliableSequenced none none none

def expires_fragments : RecvState → Bool
  | .UnreliableUnordered .. => true
  | .UnreliableSequenced .. => true
  | _ => false

/-- The match on `newest_seen` that the two sequenced states share: whether the message
    is accepted, and the new `ready` and `newest_seen`. -/
def note_sequence (ready : Option (Tick × Bytes × MessageId)) (newest_seen : Option MessageId)
    (message_id : MessageId) :
    Bool × Option (Tick × Bytes × MessageId) × Option MessageId :=
  match newest_seen with
  | none => (true,ready,some message_id)
  | some newest =>
    if message_id.lt newest then (false,ready,newest_seen)
    else if message_id.gt newest then (true,none,some message_id)
    else (true,ready,newest_seen)

def prepare_receive (self : RecvState) (message_id : Option MessageId) : RecvState × Except ChannelReceiveError Bool :=
  match self with
  | .UnreliableUnordered .. => (self,.ok true)
  | .UnreliableSequenced ready newest_seen newest_completed =>
    match message_id with
    | none => (self,.error .MissingMessageId)
    | some message_id =>
      let (accepted,ready,newest_seen) := note_sequence ready newest_seen message_id
      (.UnreliableSequenced ready newest_seen newest_completed,.ok accepted)
  | .ReliableUnordered pending _ received =>
    match message_id with
    | none => (self,.error .MissingMessageId)
    | some message_id => (self,.ok (decide (message_id.sub pending ≥ 0) && decide (message_id ∉ received)))
  | .ReliableOrdered pending ready =>
    match message_id with
    | none => (self,.error .MissingMessageId)
    | some message_id => (self,.ok (decide (message_id.sub pending ≥ 0) && decide (message_id ∉ ready)))
  | .ReliableSequenced ready newest_seen newest_completed =>
    match message_id with
    | none => (self,.error .MissingMessageId)
    | some message_id =>
      if newest_completed = some message_id then (self,.ok false)
      else
        let (accepted,ready,newest_seen) := note_sequence ready newest_seen message_id
        (.ReliableSequenced ready newest_seen newest_completed,.ok accepted)

/-- The two sequenced branches of `push_completed`. -/
def complete_sequence (ready : Option (Tick × Bytes × MessageId)) (newest_seen newest_completed : Option MessageId)
    (message_id : MessageId) (tick : Tick) (bytes : Bytes) :
    Option (Tick × Bytes × MessageId) × Option MessageId :=
  if newest_completed = some message_id ∨ (newest_seen.map fun newest => message_id.lt newest).getD false = true then
    (ready,newest_completed)
  else (some (tick,bytes,message_id),some message_id)

/-- `push_completed`. A message without an id was refused by `prepare_receive`, so the
    `expect`s on it never fail. -/
def push_completed (self : RecvState) (message_id : Option MessageId) (tick : Tick) (bytes : Bytes) : RecvState :=
  match self,message_id with
  | .UnreliableUnordered ready,_ => .UnreliableUnordered (ready ++ [(tick,bytes)])
  | .UnreliableSequenced ready newest_seen newest_completed,some message_id =>
    let (ready,newest_completed) := complete_sequence ready newest_seen newest_completed message_id tick bytes
    .UnreliableSequenced ready newest_seen newest_completed
  | .ReliableSequenced ready newest_seen newest_completed,some message_id =>
    let (ready,newest_completed) := complete_sequence ready newest_seen newest_completed message_id tick bytes
    .ReliableSequenced ready newest_seen newest_completed
  | .ReliableUnordered pending ready received,some message_id =>
    .ReliableUnordered pending (ready ++ [(message_id,tick,bytes)]) (insert message_id received)
  | .ReliableOrdered pending ready,some message_id =>
    .ReliableOrdered pending (ready.insert message_id (tick,bytes))
  | state,none => state

/-- `while received.remove(pending) { *pending += 1; }`, which removes an id in every round. -/
def skip_received : Nat → MessageId → Finset MessageId → MessageId × Finset MessageId
  | 0,pending,received => (pending,received)
  | rounds + 1,pending,received =>
    if pending ∈ received then skip_received rounds (pending.add_assign 1) (received.erase pending)
    else (pending,received)

def read_message (self : RecvState) : RecvState × Option (Tick × Bytes × Option MessageId) :=
  match self with
  | .UnreliableUnordered ready =>
    match ready with
    | [] => (self,none)
    | (tick,bytes) :: ready => (.UnreliableUnordered ready,some (tick,bytes,none))
  | .UnreliableSequenced ready newest_seen newest_completed =>
    (.UnreliableSequenced none newest_seen newest_completed,ready.map fun (tick,bytes,id) => (tick,bytes,some id))
  | .ReliableSequenced ready newest_seen newest_completed =>
    (.ReliableSequenced none newest_seen newest_completed,ready.map fun (tick,bytes,id) => (tick,bytes,some id))
  | .ReliableUnordered pending ready received =>
    match ready with
    | [] => (self,none)
    | (message_id,tick,bytes) :: ready =>
      let (pending,received) :=
        if pending = message_id then skip_received received.card pending received else (pending,received)
      (.ReliableUnordered pending ready received,some (tick,bytes,some message_id))
  | .ReliableOrdered pending ready =>
    match ready.lookup pending with
    | none => (self,none)
    | some (tick,bytes) =>
      (.ReliableOrdered (pending.add_assign 1) (ready.erase pending),some (tick,bytes,some pending))

end RecvState

structure ChannelReceive where
  fragments : FragmentReceiver
  current_time : Duration
  state : RecvState

namespace ChannelReceive

/-- `new`, then `set_fragment_size`. -/
def new (mode : ChannelMode) (fragment_size : Nat) (positive : 0 < fragment_size) : ChannelReceive :=
  ⟨.new fragment_size positive,0,.new mode⟩

def update (self : ChannelReceive) (now : Duration) : ChannelReceive :=
  { self with
    current_time := now,
    fragments := if self.state.expires_fragments then self.fragments.cleanup (now - DISCARD_AFTER) else self.fragments }

/-- The message that is complete once `message` has been received, if one is. -/
def assemble (lz4 : Lz4) (self : FragmentReceiver) (time : Option Duration) (message : ReceiveMessage) :
    FragmentReceiver × Except ChannelReceiveError (Option ReceivedMessage) :=
  match message.data with
  | .Single single => (self,.ok (some (message.remote_sent_tick,single.bytes)))
  | .Fragment fragment => self.receive_fragment lz4 fragment message.remote_sent_tick time message.compression

def buffer_recv (lz4 : Lz4) (self : ChannelReceive) (message : ReceiveMessage) :
    ChannelReceive × Except ChannelReceiveError Unit :=
  let message_id := message.data.message_id
  match self.state.prepare_receive message_id with
  | (state,.error error) => ({ self with state },.error error)
  | (state,.ok false) => ({ self with state },.ok ())
  | (state,.ok true) =>
    match assemble lz4 self.fragments (if state.expires_fragments then some self.current_time else none) message with
    | (fragments,.error error) => ({ self with state,fragments },.error error)
    | (fragments,.ok none) => ({ self with state,fragments },.ok ())
    | (fragments,.ok (some (tick,bytes))) =>
      ({ self with state := state.push_completed message_id tick bytes,fragments },.ok ())

def read_message (self : ChannelReceive) : ChannelReceive × Option (Tick × Bytes × Option MessageId) :=
  let (state,message) := self.state.read_message
  ({ self with state },message)

end ChannelReceive

open ChannelReceive

/-- What `read_message` returned, with the index that its id stands for. -/
structure Returned where
  index : Option Nat
  id : Option MessageId
  bytes : Bytes
deriving DecidableEq

/-! ### Messages on the wire -/

section Wire
variable {lz4 : Lz4} {sender : FragmentSender} {config : CompressionConfig} {self : FragmentReceiver} {id : MessageId}
  {payload : Bytes} {got : List Nat}

/-- The fragments that a receiver holds of a message; a small message has none. -/
structure Held (lz4 : Lz4) (sender : FragmentSender) (config : CompressionConfig) (receiver : FragmentReceiver)
    (id : MessageId) (payload : Bytes) (got : List Nat) : Prop where
  small : payload.length ≤ sender.fragment_size → got = [] ∧ receiver.fragment_messages.lookup id = none
  large : sender.fragment_size < payload.length → ∃ first, Holding (cut lz4 sender id payload config) receiver got first

theorem held_of_lookup_eq {other : FragmentReceiver} (held : Held lz4 sender config self id payload got)
    (same : other.fragment_messages.lookup id = self.fragment_messages.lookup id) :
    Held lz4 sender config other id payload got := by
  refine ⟨fun small => ⟨(held.small small).1,same.trans (held.small small).2⟩,fun large => ?_⟩
  obtain ⟨first,holding⟩ := held.large large
  exact ⟨first,(holding_of_lookup_eq (by rw [cut_message_id,same])).mpr holding⟩

theorem held_none (absent : self.fragment_messages.lookup id = none) : Held lz4 sender config self id payload [] := by
  refine ⟨fun _ => ⟨rfl,absent⟩,fun _ => ⟨0,?_⟩⟩
  unfold Holding
  rw [cut_message_id,absent]

theorem lookup_of_held (held : Held lz4 sender config self id payload []) :
    self.fragment_messages.lookup id = none := by
  rcases Nat.lt_or_ge sender.fragment_size payload.length with large | small
  · obtain ⟨first,holding⟩ := held.large large
    unfold Holding at holding
    rw [cut_message_id] at holding
    split at holding
    · next absent => exact absent
    · exact absurd rfl holding.2.1
  · exact (held.small small).2

/-- The pieces of a message: its fragments, or the one single message that it is. -/
def pieceCount (lz4 : Lz4) (sender : FragmentSender) (config : CompressionConfig) (id : MessageId) (payload : Bytes) :
    Nat :=
  if sender.fragment_size < payload.length then (cut lz4 sender id payload config).count else 1

def pieceIndex : MessageData → Nat
  | .Single _ => 0
  | .Fragment data => data.fragment_id

theorem pieceCount_pos : 0 < pieceCount lz4 sender config id payload := by
  unfold pieceCount
  split
  · next large => exact cut_count_pos large
  · exact Nat.one_pos

theorem assemble_size (lz4 : Lz4) (self : FragmentReceiver) (time : Option Duration) (message : ReceiveMessage) :
    (assemble lz4 self time message).1.fragment_size = self.fragment_size := by
  unfold assemble
  split
  · rfl
  · exact receive_fragment_size ..

theorem assemble_other (lz4 : Lz4) (self : FragmentReceiver) (time : Option Duration) {message : ReceiveMessage}
    {id other : MessageId} (isId : message.data.message_id = some id) (different : other ≠ id) :
    (assemble lz4 self time message).1.fragment_messages.lookup other = self.fragment_messages.lookup other := by
  unfold assemble
  split
  · rfl
  · next fragment isFragment =>
    rw [isFragment,MessageData.message_id,Option.some.injEq] at isId
    exact receive_fragment_other _ _ _ _ _ _ (isId ▸ different)

/-- A piece of a message that was missing is held, the last one gives the payload. -/
theorem assemble_wire (inverts : lz4.Inverts) (fits : payload.length ≤ isize_max)
    (size : self.fragment_size = sender.fragment_size) (held : Held lz4 sender config self id payload got)
    {data : MessageData} (member : data ∈ wire lz4 sender config id payload) (tick : Tick) (time : Option Duration) :
    ∃ completed got', (assemble lz4 self time ⟨data,tick,config⟩).2 = .ok completed ∧
      Held lz4 sender config (assemble lz4 self time ⟨data,tick,config⟩).1 id payload got' ∧
      ((∃ t, completed = some (t,payload)) ∧ got' = [] ∧
          (∀ j < pieceCount lz4 sender config id payload, j ∈ pieceIndex data :: got) ∨
        completed = none ∧ (∀ j, j ∈ got' ↔ j ∈ pieceIndex data :: got) ∧
          ∃ j < pieceCount lz4 sender config id payload, j ∉ pieceIndex data :: got) := by
  rcases mem_wire.mp member with ⟨small,rfl⟩ | ⟨large,i,low,rfl⟩
  · refine ⟨_,got,rfl,held,.inl ⟨⟨tick,rfl⟩,(held.small small).1,?_⟩⟩
    simp [pieceCount,pieceIndex,Nat.not_lt.mpr small]
  · have decodes : (cut lz4 sender id payload config).Decodes lz4 config payload := cut_decodes inverts large fits
    obtain ⟨first,holding⟩ := held.large large
    obtain ⟨answered,kept⟩ := receive_piece decodes (size.trans (cut_size ..).symm) holding low tick time
    have isIndex : pieceIndex (.Fragment ((cut lz4 sender id payload config).piece i)) = i := rfl
    have isCount : pieceCount lz4 sender config id payload = (cut lz4 sender id payload config).count := if_pos large
    have last := completes_iff decodes holding low
    rw [isIndex,isCount]
    refine ⟨_,gather (cut lz4 sender id payload config).count got i,answered,
      ⟨fun small => by omega,fun _ => ⟨_,kept⟩⟩,?_⟩
    by_cases completed : completes (cut lz4 sender id payload config).count got i = true
    · rw [if_pos completed]
      exact .inl ⟨⟨_,rfl⟩,gather_eq_nil.mpr completed,last.mp completed⟩
    · rw [if_neg completed]
      refine .inr ⟨rfl,fun j => ?_,?_⟩
      · rw [mem_gather]
        simp [completed]
      · rw [last] at completed
        push Not at completed
        exact completed

/-- Expiry drops what is held of a message as a whole. -/
theorem held_cleanup (held : Held lz4 sender config self id payload got) (time : Duration) :
    Held lz4 sender config (self.cleanup time) id payload got ∨
      Held lz4 sender config (self.cleanup time) id payload [] := by
  have looked : (self.cleanup time).fragment_messages.lookup id = _ := Maps.lookup_retain _ self.fragment_messages id
  cases stored : self.fragment_messages.lookup id with
  | none => exact .inl (held_of_lookup_eq held (by rw [looked,stored]; rfl))
  | some c =>
    by_cases keeps : ((c.last_received.map fun t => decide (t > time)).getD true) = true
    · exact .inl (held_of_lookup_eq held (by rw [looked,stored]; simp [Option.filter,keeps]))
    · exact .inr (held_none (by rw [looked,stored]; simp [Option.filter,keeps]))

end Wire

/-- The state once the message that an arrival completed, if any, was pushed. -/
def pushed (state : RecvState) (message_id : Option MessageId) : Option ReceivedMessage → RecvState
  | none => state
  | some (tick,bytes) => state.push_completed message_id tick bytes

section BufferRecv
variable {lz4 : Lz4} {self : ChannelReceive} {message : ReceiveMessage} {state : RecvState}

theorem buffer_recv_refused (prepared : self.state.prepare_receive message.data.message_id = (self.state,.ok false)) :
    self.buffer_recv lz4 message = (self,.ok ()) := by
  simp [buffer_recv,prepared]

theorem buffer_recv_accepted (prepared : self.state.prepare_receive message.data.message_id = (state,.ok true))
    {completed : Option ReceivedMessage}
    (answered : (assemble lz4 self.fragments (if state.expires_fragments then some self.current_time else none)
      message).2 = .ok completed) :
    self.buffer_recv lz4 message =
      ({ self with
        fragments := (assemble lz4 self.fragments (if state.expires_fragments then some self.current_time else none)
          message).1,
        state := pushed state message.data.message_id completed },.ok ()) := by
  simp only [buffer_recv,prepared]
  revert answered
  rcases assemble lz4 self.fragments (if state.expires_fragments then some self.current_time else none) message with
    ⟨fragments,error | _ | ⟨tick,bytes⟩⟩
  · rintro ⟨⟩
  · rintro ⟨⟩; rfl
  · rintro ⟨⟩; rfl

end BufferRecv

/-- The rounds that `read_message` allows are enough for its loop to stop. -/
theorem skip_received_stops {rounds : Nat} {pending : MessageId} {received : Finset MessageId}
    (enough : received.card ≤ rounds) :
    (RecvState.skip_received rounds pending received).1 ∉ (RecvState.skip_received rounds pending received).2 := by
  induction rounds generalizing pending received with
  | zero =>
    have empty : received = ∅ := Finset.card_eq_zero.mp (by omega)
    simp [RecvState.skip_received,empty]
  | succ rounds ih =>
    unfold RecvState.skip_received
    by_cases present : pending ∈ received
    · rw [if_pos present]
      apply ih
      rw [Finset.card_erase_of_mem present]
      omega
    · rw [if_neg present]
      exact present

end Lightyear.Receive
