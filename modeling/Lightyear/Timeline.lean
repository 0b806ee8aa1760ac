import Lightyear.OrderedReliable
import Lightyear.ReadyBuffer
import Lightyear.Tick
import Mathlib.Data.Prod.Lex

/-!
Messages that wait for a timeline, `receive.rs` of the messages crate: what a channel
hands over is kept until the timeline reaches the tick of the message.
-/
namespace Lightyear.Timeline
open Lightyear.Ids Lightyear.Ids.WrappingId Lightyear.Message Lightyear.Compression Lightyear.Fragments
open Lightyear.Receive Lightyear.SendReliable Lightyear.ReliableLink Lightyear.OrderedReliable
open Lightyear.Utils

def MAX_PENDING_TIMELINE_PAYLOADS : Nat := 4096
def MAX_TIMELINE_LAG_TICKS : Nat := 100

variable {M : Type}

structure ReceivedMessage (M : Type) where
  data : M
  remote_tick : Tick
  message_id : Option MessageId
deriving DecidableEq

inductive MessageError where
  | Deserialization
  | TimelineTooFarBehind (target current : Tick) (max_lag_ticks : Nat)
  | PendingTimelineOverflow (limit : Nat)
deriving DecidableEq

/-- The key of a waiting message: its tick, and how many messages were pushed before it. -/
abbrev Key := Tick ×ₗ Nat

structure TimelineMessageBuffer (M : Type) where
  pending : ReadyBuffer Key (ReceivedMessage M)
  next_sequence : Nat

namespace TimelineMessageBuffer

def default : TimelineMessageBuffer M := ⟨.new,0⟩

def push (self : TimelineMessageBuffer M) (message : ReceivedMessage M) :
    Except MessageError (TimelineMessageBuffer M) :=
  if self.pending.len ≥ MAX_PENDING_TIMELINE_PAYLOADS then
    .error (.PendingTimelineOverflow MAX_PENDING_TIMELINE_PAYLOADS)
  else
    let key := toLex (message.remote_tick,self.next_sequence)
    .ok ⟨self.pending.push key message,(self.next_sequence + 1) % 2 ^ 64⟩

/-- `release_until`, with the buffer after it. -/
def release_until (self : TimelineMessageBuffer M) (tick : Tick) :
    List (ReceivedMessage M) × TimelineMessageBuffer M :=
  let (released,pending) := self.pending.drain_until (toLex (tick,2 ^ 64 - 1))
  (released.map (·.2),{ self with pending })

end TimelineMessageBuffer

/-- A `MessageReceiver`, with the buffer of the one timeline that its channel is registered on. -/
structure MessageReceiver (M : Type) where
  ready : List (ReceivedMessage M)
  pending : TimelineMessageBuffer M

namespace MessageReceiver

def default : MessageReceiver M := ⟨[],.default⟩

/-- `receive_message_bytes`, then `push_received` with the target timeline. -/
def receive_message_bytes (deserialize : Bytes → Option M) (self : MessageReceiver M) (current_tick : Tick)
    (bytes : Bytes) (tick : Tick) (message_id : Option MessageId) : Except MessageError (MessageReceiver M) :=
  let delta := tick.diff current_tick
  if delta > 0 ∧ delta > MAX_TIMELINE_LAG_TICKS then
    .error (.TimelineTooFarBehind tick current_tick MAX_TIMELINE_LAG_TICKS)
  else
    match deserialize bytes with
    | none => .error .Deserialization
    | some data => do
      let pending ← self.pending.push ⟨data,tick,message_id⟩
      pure { self with pending }

def release_timeline_until (self : MessageReceiver M) (tick : Tick) : MessageReceiver M :=
  let (released,pending) := self.pending.release_until tick
  ⟨self.ready ++ released,pending⟩

/-- `receive`, with the receiver after it. -/
def receive (self : MessageReceiver M) : List (ReceivedMessage M) × MessageReceiver M :=
  (self.ready,{ self with ready := [] })

end MessageReceiver

/-- A channel, the receiver of its messages, and the messages that the application has taken. -/
structure TimedLink (M : Type) where
  link : Link
  receiver : MessageReceiver M
  taken : List (ReceivedMessage M)

inductive TimedEvent where
  /-- Anything that happens to the channel but a read. -/
  | Channel (event : Event)
  /-- The channel is asked for its next message, while the timeline is at a tick. -/
  | Receive (current_tick : Tick)
  /-- The timeline has reached a tick. -/
  | Release (tick : Tick)
  | Take

def TimedLink.start (settings : ReliableSettings) (fragmenter : FragmentSender) : TimedLink M :=
  ⟨.start settings .OrderedReliable fragmenter,.default,[]⟩

def step (lz4 : Lz4) (fragmenter : FragmentSender) (config : CompressionConfig) (deserialize : Bytes → Option M)
    (s : TimedLink M) : TimedEvent → Option (TimedLink M)
  | .Channel .Read => none
  | .Channel event => (ReliableLink.step lz4 fragmenter config s.link event).map fun link => { s with link }
  | .Receive current_tick =>
    (ReliableLink.step lz4 fragmenter config s.link .Read).map fun link =>
      match s.link.receiver.read_message.2 with
      | none => { s with link }
      | some (tick,bytes,message_id) =>
        -- A message that is refused was read all the same, and is lost.
        match s.receiver.receive_message_bytes deserialize current_tick bytes tick message_id with
        | .error _ => { s with link }
        | .ok receiver => { s with link,receiver }
  | .Release tick => some { s with receiver := s.receiver.release_timeline_until tick }
  | .Take =>
    let (messages,receiver) := s.receiver.receive
    some { s with receiver,taken := s.taken ++ messages }

/-- What the timeline has released to the application. -/
def TimedLink.released (s : TimedLink M) : List (ReceivedMessage M) := s.taken ++ s.receiver.ready

/-- The id and the content of each message that was sent on the channel. -/
def sent (deserialize : Bytes → Option M) (buffered : List Bytes) : List (Option MessageId × Option M) :=
  buffered.zipIdx.map fun (bytes,n) => (some (ofIndex n),deserialize bytes)

/-- A message that is accepted goes before one that waits: its tick is earlier, or the sequence numbers have wrapped. -/
def Overtakes (deserialize : Bytes → Option M) (s : TimedLink M) : TimedEvent → Prop
  | .Receive current_tick =>
    match s.link.receiver.read_message.2 with
    | none => False
    | some (tick,bytes,message_id) =>
      (s.receiver.receive_message_bytes deserialize current_tick bytes tick message_id).toOption.isSome ∧
        ∃ waiting ∈ s.receiver.pending.pending.heap, toLex (tick,s.receiver.pending.next_sequence) ≤ waiting.1
  | _ => False

instance (deserialize : Bytes → Option M) (s : TimedLink M) : DecidablePred (Overtakes deserialize s)
  | .Receive current_tick => by
    unfold Overtakes
    cases s.link.receiver.read_message.2 with
    | none => exact instDecidableFalse
    | some message => exact instDecidableAnd
  | .Channel _ => instDecidableFalse
  | .Release _ => instDecidableFalse
  | .Take => instDecidableFalse

section Order
variable {lz4 : Lz4} {fragmenter : FragmentSender} {config : CompressionConfig} {deserialize : Bytes → Option M}

private theorem push_ok {self after : TimelineMessageBuffer M} {message : ReceivedMessage M}
    (pushed : self.push message = .ok after) :
    after.pending = self.pending.push (toLex (message.remote_tick,self.next_sequence)) message := by
  unfold TimelineMessageBuffer.push at pushed
  split at pushed
  · cases pushed
  · cases pushed
    rfl

private theorem receive_message_bytes_ok {self after : MessageReceiver M} {current_tick tick : Tick} {bytes : Bytes}
    {message_id : Option MessageId}
    (accepted : self.receive_message_bytes deserialize current_tick bytes tick message_id = .ok after) :
    ∃ data, deserialize bytes = some data ∧ after.ready = self.ready ∧
      after.pending.pending =
        self.pending.pending.push (toLex (tick,self.pending.next_sequence)) ⟨data,tick,message_id⟩ := by
  simp only [MessageReceiver.receive_message_bytes] at accepted
  split_ifs at accepted with tooFar
  cases decoded : deserialize bytes with
  | none => rw [decoded] at accepted; cases accepted
  | some data =>
    simp only [decoded] at accepted
    cases pushed : self.pending.push ⟨data,tick,message_id⟩ with
    | error error => rw [pushed] at accepted; cases accepted
    | ok pending =>
      rw [pushed] at accepted
      cases accepted
      exact ⟨data,rfl,rfl,push_ok pushed⟩

/-- A channel event other than a read returns nothing and forgets nothing. -/
private theorem channel_step {s s' : Link} {event : Event} (noRead : event ≠ .Read)
    (executed : ReliableLink.step lz4 fragmenter config s event = some s') :
    s'.returned = s.returned ∧ s.buffered <+: s'.buffered := by
  cases event with
  | Send message =>
    simp only [ReliableLink.step] at executed
    split at executed
    · cases executed
    obtain ⟨sender,-,rfl⟩ := Option.map_eq_some_iff.mp executed
    exact ⟨rfl,List.prefix_append _ _⟩
  | Transmit candidate sent_at =>
    obtain ⟨c,-,rfl⟩ := Option.map_eq_some_iff.mp executed
    exact ⟨rfl,List.prefix_rfl⟩
  | Ack ack =>
    obtain ⟨sender,-,rfl⟩ := Option.map_eq_some_iff.mp executed
    exact ⟨rfl,List.prefix_rfl⟩
  | UpdateSender now rtt =>
    obtain rfl := Option.some.inj executed
    exact ⟨rfl,List.prefix_rfl⟩
  | Deliver message tick =>
    obtain ⟨m,-,rfl⟩ := Option.map_eq_some_iff.mp executed
    exact ⟨rfl,List.prefix_rfl⟩
  | Lose message =>
    obtain rfl := Option.some.inj executed
    exact ⟨rfl,List.prefix_rfl⟩
  | UpdateReceiver now =>
    obtain rfl := Option.some.inj executed
    exact ⟨rfl,List.prefix_rfl⟩
  | Read => exact absurd rfl noRead

private theorem sent_prefix {buffered more : List Bytes} (grows : buffered <+: more) :
    sent deserialize buffered <+: sent deserialize more := by
  obtain ⟨rest,rfl⟩ := grows
  rw [sent,sent,List.zipIdx_append,List.map_append]
  exact List.prefix_append _ _

private theorem channel_ok {s after : TimedLink M} {event : Event}
    (executed : step lz4 fragmenter config deserialize s (.Channel event) = some after) :
    event ≠ .Read ∧ ∃ link, ReliableLink.step lz4 fragmenter config s.link event = some link ∧
      { s with link } = after := by
  cases event <;> simp only [step,Option.map_eq_some_iff,reduceCtorEq] at executed <;>
    exact ⟨by simp,executed⟩

/-- What a read of the channel leads to: nothing is ready, the message is refused, or it waits behind those
before it. -/
private theorem receive_ok {s after : TimedLink M} {current_tick : Tick}
    (executed : step lz4 fragmenter config deserialize s (.Receive current_tick) = some after) :
    ∃ link, ReliableLink.step lz4 fragmenter config s.link .Read = some link ∧ after.link = link ∧
      after.taken = s.taken ∧
      (after.receiver = s.receiver ∨ ∃ tick bytes message_id,
        s.link.receiver.read_message.2 = some (tick,bytes,message_id) ∧
          s.receiver.receive_message_bytes deserialize current_tick bytes tick message_id = .ok after.receiver) := by
  simp only [step,Option.map_eq_some_iff] at executed
  obtain ⟨link,linkStep,isAfter⟩ := executed
  refine ⟨link,linkStep,?_⟩
  split at isAfter
  · rw [← isAfter]
    exact ⟨rfl,rfl,Or.inl rfl⟩
  · next tick bytes message_id read =>
    split at isAfter
    · rw [← isAfter]
      exact ⟨rfl,rfl,Or.inl rfl⟩
    · next receiver accepted =>
      rw [← isAfter]
      exact ⟨rfl,rfl,Or.inr ⟨tick,bytes,message_id,read,accepted⟩⟩

/-- The channel of a run is in a run of its own. -/
private theorem link_reached {meets : TimedLink M → TimedEvent → TimedLink M → Prop}
    (few : ∀ before event after, meets before event after → FewOutstanding after.link) {settings : ReliableSettings}
    {s : TimedLink M} (reached : Runs.Reaches (step lz4 fragmenter config deserialize) meets
      (.start settings fragmenter) s) :
    Runs.Reaches (ReliableLink.step lz4 fragmenter config) (fun _ _ after => FewOutstanding after)
      (.start settings .OrderedReliable fragmenter) s.link := by
  refine reached.invariant (fun s => Runs.Reaches (ReliableLink.step lz4 fragmenter config)
    (fun _ _ after => FewOutstanding after) (.start settings .OrderedReliable fragmenter) s.link) .start
    fun before event after known executed condition => ?_
  have fewAfter := few before event after condition
  cases event with
  | Channel event =>
    obtain ⟨-,link,linkStep,rfl⟩ := channel_ok executed
    exact .step _ known linkStep fewAfter
  | Receive current_tick =>
    obtain ⟨link,linkStep,rfl,-⟩ := receive_ok executed
    exact .step .Read known linkStep fewAfter
  | Release tick => cases executed; exact known
  | Take => cases executed; exact known

/-- The messages that the receiver has: those released, then those that wait. -/
private def kept (s : TimedLink M) : List (Option MessageId × Option M) :=
  (s.released ++ s.receiver.pending.pending.heap.map (·.2)).map fun message => (message.message_id,some message.data)

/-- The receiver has messages in the order of the channel, and they wait in this order. -/
private structure InSequence (deserialize : Bytes → Option M) (s : TimedLink M) : Prop where
  kept : (kept s).Sublist ((sent deserialize s.link.buffered).take s.link.returned.length)
  ordered : s.receiver.pending.pending.Ordered

/-- The message that the channel hands over is the one sent next. -/
private theorem read_sent (deserialize : Bytes → Option M) (inverts : lz4.Inverts) {settings : ReliableSettings}
    {s : Link}
    (reached : Runs.Reaches (ReliableLink.step lz4 fragmenter config) (fun _ _ after => FewOutstanding after)
      (.start settings .OrderedReliable fragmenter) s) {tick : Tick} {bytes : Bytes} {message_id : Option MessageId}
    (read : s.receiver.read_message.2 = some (tick,bytes,message_id)) :
    (sent deserialize s.buffered)[s.returned.length]? = some (message_id,deserialize bytes) := by
  have maintained := inOrder_maintained inverts fragmenter config
  obtain ⟨-,few,ready,known⟩ := maintained.reaches reached
  obtain ⟨ready',after⟩ := maintained.read _ _ s.arrived _ ⟨ready,known⟩ few.1
  obtain ⟨isIndex,inBuffer⟩ := after.sound s.returned.length
    ⟨message_id.bind (latest s.buffered.length),message_id,bytes⟩ (by simp [note,read])
  obtain ⟨id,rfl,isLatest⟩ := Option.bind_eq_some_iff.mp isIndex
  have isId := List.find?_some isLatest
  rw [decide_eq_true_eq] at isId
  simp [sent,List.getElem?_zipIdx,inBuffer,isId]

private theorem returned_grows (s : Link) :
    s.returned.length ≤ (note s.buffered.length s.returned s.receiver.read_message.2).length := by
  unfold note
  split <;> simp

private theorem inSequence_step (inverts : lz4.Inverts) {settings : ReliableSettings} {before after : TimedLink M}
    {event : TimedEvent} (known : InSequence deserialize before)
    (reached : Runs.Reaches (ReliableLink.step lz4 fragmenter config) (fun _ _ after => FewOutstanding after)
      (.start settings .OrderedReliable fragmenter) before.link)
    (executed : step lz4 fragmenter config deserialize before event = some after)
    (behind : ¬ Overtakes deserialize before event) : InSequence deserialize after := by
  cases event with
  | Channel event =>
    obtain ⟨noRead,link,linkStep,rfl⟩ := channel_ok executed
    obtain ⟨returned,grows⟩ := channel_step noRead linkStep
    refine ⟨known.kept.trans ?_,known.ordered⟩
    rw [returned]
    exact (( sent_prefix grows).take _).sublist
  | Receive current_tick =>
    obtain ⟨link,linkStep,isLink,taken,outcome⟩ := receive_ok executed
    obtain rfl := Option.some.inj linkStep
    rcases outcome with same | ⟨tick,bytes,message_id,read,accepted⟩
    · have sameKept : kept after = kept before := by rw [kept,TimedLink.released,taken,same,kept,TimedLink.released]
      refine ⟨?_,same ▸ known.ordered⟩
      rw [sameKept,isLink]
      exact known.kept.trans (List.take_sublist_take_left (returned_grows ..))
    · obtain ⟨data,decoded,ready,pending⟩ := receive_message_bytes_ok accepted
      have next := read_sent deserialize inverts reached read
      have returned : after.link.returned.length = before.link.returned.length + 1 := by
        simp [isLink,note,read]
      have waits : kept after = kept before ++ [(message_id,some data)] := by
        simp [kept,TimedLink.released,taken,ready,pending,ReadyBuffer.push]
      refine ⟨?_,?_⟩
      · rw [waits,returned,isLink,List.take_add_one,next,decoded]
        exact known.kept.append (List.Sublist.refl _)
      · rw [pending]
        refine known.ordered.push _ fun waiting member => ?_
        simp only [Overtakes,read,accepted] at behind
        exact not_le.mp fun le => behind ⟨rfl,waiting,member,le⟩
  | Release tick =>
    cases executed
    obtain ⟨split,ordered⟩ := known.ordered.drain_until (toLex (tick,2 ^ 64 - 1))
    refine ⟨?_,ordered⟩
    have same : kept { before with receiver := before.receiver.release_timeline_until tick } = kept before := by
      simp only [kept,TimedLink.released,MessageReceiver.release_timeline_until,TimelineMessageBuffer.release_until]
      rw [← split]
      simp
    rw [same]
    exact known.kept
  | Take =>
    cases executed
    exact ⟨by simpa [kept,TimedLink.released,MessageReceiver.receive] using known.kept,known.ordered⟩

end Order

/-- In every run with fewer than `2^15` ids outstanding, in which no message overtakes one that waits, the application
gets the messages in the order in which they were sent. -/
theorem released_in_order {lz4 : Lz4} (inverts : lz4.Inverts) (fragmenter : FragmentSender) (config : CompressionConfig)
    (deserialize : Bytes → Option M) (settings : ReliableSettings) {s : TimedLink M}
    (reached : Runs.Reaches (step lz4 fragmenter config deserialize)
      (fun before event after => FewOutstanding after.link ∧ ¬ Overtakes deserialize before event)
      (.start settings fragmenter) s) :
    (s.released.map fun message => (message.message_id,some message.data)).Sublist
    (sent deserialize s.link.buffered) := by
  have known : InSequence deserialize s := by
    induction reached with
    | start => exact ⟨by simp [kept,TimedLink.released,TimedLink.start,MessageReceiver.default,
        TimelineMessageBuffer.default,ReadyBuffer.new],List.Pairwise.nil⟩
    | step event reached executed condition ih =>
      exact inSequence_step inverts ih (link_reached (fun _ _ _ condition => condition.1) reached) executed condition.2
  have all := known.kept
  rw [kept,List.map_append] at all
  exact (List.sublist_append_left _ _).trans (all.trans (List.take_sublist _ _))

/-- The messages `[1]` and `[2]` are sent at tick 10. The first is lost, and sent again at tick `again`. -/
private def resent (again : Tick) : List TimedEvent :=
  [.Channel (.Send [1]),.Channel (.Send [2]),.Channel (.Transmit 0 0),.Channel (.Transmit 0 0),.Channel (.Lose 1),
    .Channel (.Deliver 0 10),.Channel (.UpdateSender 6 0),.Channel (.Transmit 0 6),.Channel (.Deliver 1 again),
      .Receive 10,
    .Receive 10,.Release 15,.Release 30,.Take]

/-- The message is sent again in the tick of its successor. -/
theorem released_in_order_resent :
    ∃ s : TimedLink Bytes, s.released.map (·.data) = [[1],[2]] ∧
      (s.released.map fun message => (message.message_id,some message.data)).Sublist (sent some s.link.buffered) := by
  obtain ⟨s,reached,both⟩ := Runs.reaches_of_check (step .literals ⟨2,by decide⟩ .LZ4 some)
    (fun before event after => FewOutstanding after.link ∧ ¬ Overtakes some before event)
    (.start ⟨fun _ => 5⟩ ⟨2,by decide⟩) (fun s => decide (s.released.map (·.data) = [[1],[2]])) (resent 10)
      (by decide +kernel)
  exact ⟨s,of_decide_eq_true both,released_in_order literals_inverts ⟨2,by decide⟩ .LZ4 some ⟨fun _ => 5⟩ reached⟩

/-- The message is sent again at tick 20, and the timeline passes tick 15 in between. -/
theorem resent_message_overtaken :
    ¬ ∀ (lz4 : Lz4) (fragmenter : FragmentSender) (config : CompressionConfig) (deserialize : Bytes → Option Bytes)
      (settings : ReliableSettings) (s : TimedLink Bytes), lz4.Inverts →
      Runs.Reaches (step lz4 fragmenter config deserialize) (fun _ _ after => FewOutstanding after.link)
        (.start settings fragmenter) s →
      (s.released.map fun message => (message.message_id,some message.data)).Sublist
        (sent deserialize s.link.buffered) := by
  intro inOrder
  obtain ⟨s,reached,swapped⟩ := Runs.reaches_of_check (step .literals ⟨2,by decide⟩ .LZ4 some)
    (fun _ _ after => FewOutstanding after.link) (.start ⟨fun _ => 5⟩ ⟨2,by decide⟩)
    (fun s => decide (s.released.map (·.data) = [[2],[1]] ∧ s.link.buffered = [[1],[2]])) (resent 20)
      (by decide +kernel)
  obtain ⟨order,buffered⟩ := of_decide_eq_true swapped
  have sublist := (inOrder _ _ _ _ _ s literals_inverts reached).map Prod.snd
  rw [List.map_map,buffered,
    show (Prod.snd ∘ fun message : ReceivedMessage Bytes => (message.message_id,some message.data)) =
    some ∘ (·.data) from rfl,← List.map_map,order] at sublist
  exact absurd sublist (by decide)

end Lightyear.Timeline
