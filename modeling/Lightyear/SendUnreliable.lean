import Lightyear.Batches
import Lightyear.Fragments

/-!
`channel/send.rs` for the unreliable channels, and `channel/fragments/ack.rs`. Priorities, which only
order the candidates, are left out.
-/
namespace Lightyear.SendUnreliable
open Lightyear.Ids Lightyear.Ids.WrappingId Lightyear.Message Lightyear.Compression Lightyear.Fragments

structure FragmentAckTracker where
  num_fragments : Nat
  num_received_fragments : Nat
  received : List Bool
  last_received : Option Duration
deriving DecidableEq, Repr

namespace FragmentAckTracker

def new (num_fragments : Nat) : FragmentAckTracker := ⟨num_fragments,0,List.replicate num_fragments false,none⟩

/-- `None` stands for a panic: a fragment that the message does not have. -/
def receive_ack (self : FragmentAckTracker) (fragment_index : Nat) (received_time : Option Duration) :
    Option (FragmentAckTracker × Bool) :=
  let self := { self with last_received := received_time }
  match self.received[fragment_index]? with
  | none => none
  | some known =>
    let self :=
      if known then self
      else { self with
        received := self.received.set fragment_index true,num_received_fragments := self.num_received_fragments + 1 }
    some (self,decide (self.num_received_fragments = self.num_fragments))

end FragmentAckTracker

structure FragmentAckReceiver where
  fragment_messages : Maps.Map MessageId FragmentAckTracker

namespace FragmentAckReceiver

def new : FragmentAckReceiver := ⟨∅⟩

def add_new_fragment_to_wait_for (self : FragmentAckReceiver) (message_id : MessageId) (num_fragments : Nat) :
    FragmentAckReceiver :=
  ⟨self.fragment_messages.insert message_id (.new num_fragments)⟩

def discard_message (self : FragmentAckReceiver) (message_id : MessageId) : FragmentAckReceiver :=
  ⟨self.fragment_messages.erase message_id⟩

def cleanup (self : FragmentAckReceiver) (cleanup_time : Duration) : FragmentAckReceiver :=
  ⟨Maps.retain (fun _ c => (c.last_received.map fun t => decide (t > cleanup_time)).getD true) self.fragment_messages⟩

def receive_fragment_ack (self : FragmentAckReceiver) (message_id : MessageId) (fragment_index : FragmentIndex)
    (current_time : Option Duration) : Option (FragmentAckReceiver × Bool) :=
  match self.fragment_messages.lookup message_id with
  | none => some (self,false)
  | some fragment_ack_tracker =>
    match fragment_ack_tracker.receive_ack fragment_index current_time with
    | none => none
    | some (_,true) => some (⟨self.fragment_messages.erase message_id⟩,true)
    | some (fragment_ack_tracker,false) => some (⟨self.fragment_messages.insert message_id fragment_ack_tracker⟩,false)

end FragmentAckReceiver

inductive UnreliableDelivery where
  | Unordered
  | Sequenced
  | UnorderedWithAcks
deriving DecidableEq, Repr

inductive SendFlushOutcome where
  | Complete
  | BandwidthLimited
  | StagingFailed
deriving DecidableEq, Repr

structure PendingSendMessage where
  message : MessageData
  committed : Bool
  fragment_started : Bool
deriving DecidableEq, Repr

namespace PendingSendMessage

def new (message : MessageData) : PendingSendMessage := ⟨message,false,false⟩

def fragment_message_id (self : PendingSendMessage) : Option MessageId :=
  match self.message with
  | .Single _ => none
  | .Fragment fragment => some fragment.message_id

end PendingSendMessage

structure UnreliableSendState where
  delivery : UnreliableDelivery
  singles : List PendingSendMessage
  fragments : List PendingSendMessage
  next_message_id : MessageId
  fragment_acks : Option FragmentAckReceiver
  retry_unsent_messages : Bool

structure SendCandidate where
  key : SendMessageKey
  message : MessageData
deriving DecidableEq, Repr

/-- Three seconds. -/
def DISCARD_AFTER : Duration := 3000000000

namespace UnreliableSendState

def new (delivery : UnreliableDelivery) (retry_unsent_messages : Bool) : UnreliableSendState :=
  ⟨delivery,[],[],.zero,if delivery = .UnorderedWithAcks then some .new else none,retry_unsent_messages⟩

def update (self : UnreliableSendState) (elapsed : Duration) : UnreliableSendState :=
  { self with fragment_acks := self.fragment_acks.map (·.cleanup (elapsed - DISCARD_AFTER)) }

/-- `None` stands for `unreachable!`. -/
def buffer_send (lz4 : Lz4) (self : UnreliableSendState) (fragmenter : FragmentSender) (message : Bytes)
    (compression : CompressionConfig) : Option (UnreliableSendState × Option MessageId) :=
  let message_id := self.next_message_id
  let is_fragmented : Bool := message.length > fragmenter.fragment_size
  let has_id : Bool := is_fragmented || self.delivery ≠ .Unordered
  let queued : Option UnreliableSendState :=
    if is_fragmented then
      (fragmenter.build_fragments_for_message lz4 message_id message compression).map fun fragments =>
        { self with
          fragment_acks := self.fragment_acks.map (·.add_new_fragment_to_wait_for message_id fragments.length),
          fragments := self.fragments ++ fragments.map fun fragment => .new (.Fragment fragment) }
    else
      some { self with
        singles := self.singles ++ [.new (.Single ⟨if has_id then some message_id else none,message⟩)] }
  queued.map fun self =>
    if has_id then ({ self with next_message_id := self.next_message_id.add_assign 1 },some message_id) else (self,none)

/-- The entries of a queue that are not committed yet, under the keys of their positions. -/
def uncommitted (key : Nat → SendMessageKey) (queue : List PendingSendMessage) : List SendCandidate :=
  (queue.zipIdx.filter fun (pending,_) => !pending.committed).map fun (pending,index) => ⟨key index,pending.message⟩

def collect_candidates (self : UnreliableSendState) : List SendCandidate :=
  uncommitted .UnreliableSingle self.singles ++ uncommitted .UnreliableFragment self.fragments

def commit (pending : PendingSendMessage) : PendingSendMessage := { pending with committed := true }

/-- What the commit of a first fragment does to the queue. -/
def start_message (message_id : MessageId) (pending : PendingSendMessage) : PendingSendMessage :=
  if pending.fragment_message_id = some message_id then { pending with fragment_started := true } else pending

/-- `None` stands for a panic: an entry among the fragments that is none. A key that is not in the queue
    leaves the state as it is. -/
def commit_send (self : UnreliableSendState) (key : SendMessageKey) : Option UnreliableSendState :=
  match key with
  | .UnreliableSingle index => some { self with singles := self.singles.modify index commit }
  | .UnreliableFragment index =>
    match self.fragments[index]? with
    | none => some self
    | some pending =>
      match pending.fragment_message_id with
      | none => none
      | some message_id =>
        let fragments := self.fragments.modify index commit
        some { self with
          fragments := if pending.fragment_started then fragments else fragments.map (start_message message_id) }
  | _ => some self

/-- Whether a flush gives up what it could not send. -/
def discard_unsent (self : UnreliableSendState) (outcome : SendFlushOutcome) (was_ready : Bool) : Bool :=
  was_ready && !self.retry_unsent_messages && decide (outcome = .BandwidthLimited)

/-- The message of a first fragment that is given up is not waited for any longer. -/
def discard_acks (fragment_acks : FragmentAckReceiver) (pending : PendingSendMessage) : FragmentAckReceiver :=
  match pending.message with
  | .Fragment fragment =>
    if fragment.fragment_id = 0 then fragment_acks.discard_message fragment.message_id else fragment_acks
  | .Single _ => fragment_acks

def finish_send (self : UnreliableSendState) (outcome : SendFlushOutcome) (was_ready : Bool) : UnreliableSendState :=
  if self.discard_unsent outcome was_ready then
    { self with
      fragment_acks := self.fragment_acks.map fun fragment_acks =>
        (self.fragments.filter fun pending => !pending.committed && !pending.fragment_started).foldl discard_acks
          fragment_acks,
      singles := [],
      fragments := self.fragments.filter fun pending => !pending.committed && pending.fragment_started }
  else
    { self with
      singles := self.singles.filter fun pending => !pending.committed,
      fragments := self.fragments.filter fun pending => !pending.committed }

/-- `None` stands for a panic: a fragment that the message does not have. -/
def receive_ack (self : UnreliableSendState) (ack : MessageAck) : Option (UnreliableSendState × Bool) :=
  match ack.fragment_id with
  | none => some (self,decide (self.delivery = .UnorderedWithAcks))
  | some fragment_index =>
    match self.fragment_acks with
    | none => some (self,false)
    | some fragment_acks =>
      (fragment_acks.receive_fragment_ack ack.message_id fragment_index none).map fun (fragment_acks,completed) =>
        ({ self with fragment_acks := some fragment_acks },completed)

def receive_nack (self : UnreliableSendState) (nack : MessageAck) : UnreliableSendState :=
  if nack.fragment_id.isSome then
    { self with fragment_acks := self.fragment_acks.map (·.discard_message nack.message_id) }
  else self

end UnreliableSendState

/-- `ChannelSend::watches_acks` of an unreliable channel. -/
def watches_acks (self : UnreliableSendState) : Bool := decide (self.delivery = .UnorderedWithAcks)

/-- The ack that a packet gives for a candidate: nothing is recorded for a message without an id. -/
def recorded_ack (message : MessageData) : Option MessageAck :=
  message.message_id.map fun message_id => ⟨message_id,Batches.fragment_index message⟩

end Lightyear.SendUnreliable
