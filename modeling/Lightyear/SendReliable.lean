import Lightyear.Reassembly

/-!
`channel/send_reliable.rs`: the messages that a reliable sender keeps until they are acknowledged.
Priorities, which only order the candidates, are left out.
-/
namespace Lightyear.SendReliable
open Lightyear.Ids Lightyear.Ids.WrappingId Lightyear.Message Lightyear.Compression Lightyear.Fragments
open Lightyear.Reassembly

structure FragmentAck where
  data : FragmentData
  acked : Bool
  last_sent : Option Duration

inductive UnackedMessage where
  | Single (bytes : Bytes) (last_sent : Option Duration)
  | Fragmented (fragments : List FragmentAck)

structure PendingReliableMessage where
  message : UnackedMessage
  send_order : Nat

/-- `ReliableSettings`; the delay is computed with floats, so that it is any function of the RTT. -/
structure ReliableSettings where
  resend_delay : Duration → Duration

structure ReliableSendState where
  settings : ReliableSettings
  pending : Maps.Map MessageId PendingReliableMessage
  next_message_id : MessageId
  next_send_order : Nat
  current_rtt : Duration
  current_time : Duration

structure SendCandidate where
  key : SendMessageKey
  send_order : Nat
  message : MessageData

namespace ReliableSendState

def new (settings : ReliableSettings) : ReliableSendState := ⟨settings,∅,.zero,0,0,0⟩

def update (self : ReliableSendState) (now rtt : Duration) : ReliableSendState :=
  { self with current_time := now,current_rtt := rtt }

/-- The messages of a large payload with their acks, or the payload itself. -/
def unacked (lz4 : Lz4) (fragmenter : FragmentSender) (message_id : MessageId) (message : Bytes)
    (compression : CompressionConfig) : Option UnackedMessage :=
  if message.length > fragmenter.fragment_size then
    (fragmenter.build_fragments_for_message lz4 message_id message compression).map fun fragments =>
      .Fragmented (fragments.map fun data => ⟨data,false,none⟩)
  else some (.Single message none)

/-- `None` stands for a panic, which only the exhausted `u64` order can cause. -/
def buffer_send (lz4 : Lz4) (self : ReliableSendState) (fragmenter : FragmentSender) (message : Bytes)
    (compression : CompressionConfig) : Option (ReliableSendState × MessageId) :=
  let message_id := self.next_message_id
  match unacked lz4 fragmenter message_id message compression with
  | none => none
  | some message =>
    if self.next_send_order + 1 ≥ 2 ^ 64 then none
    else
      some ({ self with
        pending := self.pending.insert message_id ⟨message,self.next_send_order⟩,
        next_message_id := self.next_message_id.add_assign 1,
        next_send_order := self.next_send_order + 1 },message_id)

def should_send (self : ReliableSendState) (last_sent : Option Duration) : Bool :=
  match last_sent with
  | none => true
  | some last_sent =>
    let resend_delay := self.settings.resend_delay self.current_rtt
    resend_delay ≠ 0 && decide (self.current_time - last_sent > resend_delay)

/-- The candidates of one pending message. -/
def candidates (self : ReliableSendState) (message_id : MessageId) (pending : PendingReliableMessage) :
    List SendCandidate :=
  match pending.message with
  | .Single bytes last_sent =>
    if self.should_send last_sent then
      [⟨.ReliableSingle message_id,pending.send_order,.Single ⟨some message_id,bytes⟩⟩]
    else []
  | .Fragmented fragments =>
    (fragments.filter fun fragment => !fragment.acked && self.should_send fragment.last_sent).map fun fragment =>
      ⟨.ReliableFragment message_id fragment.data.fragment_id,pending.send_order,.Fragment fragment.data⟩

def collect_candidates (self : ReliableSendState) : List SendCandidate :=
  self.pending.entries.flatMap fun entry => self.candidates entry.1 entry.2

/-- A key that does not fit what is pending leaves the state as it is. -/
def commit_send (self : ReliableSendState) (key : SendMessageKey) (sent_at : Duration) : ReliableSendState :=
  match key with
  | .ReliableSingle message_id =>
    match self.pending.lookup message_id with
    | some ⟨.Single bytes _,send_order⟩ =>
      { self with pending := self.pending.insert message_id ⟨.Single bytes (some sent_at),send_order⟩ }
    | _ => self
  | .ReliableFragment message_id fragment_id =>
    match self.pending.lookup message_id with
    | some ⟨.Fragmented fragments,send_order⟩ =>
      let fragments := fragments.modify fragment_id fun fragment => { fragment with last_sent := some sent_at }
      { self with pending := self.pending.insert message_id ⟨.Fragmented fragments,send_order⟩ }
    | _ => self
  | _ => self

/-- `None` stands for a panic: an ack of the wrong shape or with a fragment that does not exist. -/
def receive_ack (self : ReliableSendState) (ack : MessageAck) : Option (ReliableSendState × Bool) :=
  match self.pending.lookup ack.message_id with
  | none => some (self,false)
  | some ⟨.Single _ _,_⟩ =>
    if ack.fragment_id.isSome then none
    else some ({ self with pending := self.pending.erase ack.message_id },true)
  | some ⟨.Fragmented fragments,send_order⟩ =>
    match ack.fragment_id with
    | none => none
    | some fragment_id =>
      match fragments[fragment_id]? with
      | none => none
      | some fragment =>
        if fragment.acked then some (self,false)
        else
          let fragments := fragments.set fragment_id { fragment with acked := true }
          if fragments.all (·.acked) then
            some ({ self with pending := self.pending.erase ack.message_id },true)
          else
            some ({ self with pending := self.pending.insert ack.message_id ⟨.Fragmented fragments,send_order⟩ },false)

end ReliableSendState
open ReliableSendState

/-! ### What is pending -/

/-- A pending message carries a payload as it goes on the wire. -/
def Carries (lz4 : Lz4) (fragmenter : FragmentSender) (config : CompressionConfig) (id : MessageId) (payload : Bytes) :
    UnackedMessage → Prop
  | .Single bytes _ => bytes = payload ∧ payload.length ≤ fragmenter.fragment_size
  | .Fragmented fragments => fragmenter.fragment_size < payload.length ∧
      fragments.map (·.data) = (cut lz4 fragmenter id payload config).pieces

/-- A sender that has buffered the messages in `buffered`. -/
structure Tracks (lz4 : Lz4) (fragmenter : FragmentSender) (config : CompressionConfig) (buffered : List Bytes)
    (sender : ReliableSendState) : Prop where
  next : sender.next_message_id = ofIndex buffered.length
  order : sender.next_send_order = buffered.length
  entry : ∀ id p, sender.pending.lookup id = some p → id = ofIndex p.send_order ∧
    ∃ payload, buffered[p.send_order]? = some payload ∧ Carries lz4 fragmenter config id payload p.message

section Tracks
variable {lz4 : Lz4} {fragmenter : FragmentSender} {config : CompressionConfig} {buffered : List Bytes}
  {self : ReliableSendState}

theorem tracks_new (settings : ReliableSettings) : Tracks lz4 fragmenter config [] (.new settings) :=
  ⟨rfl,rfl,by simp [ReliableSendState.new]⟩

theorem carries_unacked {id : MessageId} {message : Bytes} {unackedMessage : UnackedMessage}
    (made : unacked lz4 fragmenter id message config = some unackedMessage) :
    Carries lz4 fragmenter config id message unackedMessage := by
  unfold unacked at made
  split at made
  · next large =>
    rw [build_fragments_cut large,Option.map_some,Option.some.injEq] at made
    subst made
    exact ⟨large,by simp [List.map_map,Function.comp_def]⟩
  · next small =>
    obtain rfl := Option.some.inj made
    exact ⟨rfl,by omega⟩

/-- Changing one pending message to another that carries the same payload. -/
private theorem tracks_insert (known : Tracks lz4 fragmenter config buffered self) {id : MessageId}
    {old new : UnackedMessage} {send_order : Nat} (stored : self.pending.lookup id = some ⟨old,send_order⟩)
    (same : ∀ payload, Carries lz4 fragmenter config id payload old → Carries lz4 fragmenter config id payload new) :
    Tracks lz4 fragmenter config buffered { self with pending := self.pending.insert id ⟨new,send_order⟩ } := by
  refine ⟨known.next,known.order,fun other p present => ?_⟩
  rw [Maps.lookup_insert_ite] at present
  split at present
  · next isId =>
    obtain rfl := Option.some.inj present
    obtain ⟨named,payload,inBuffer,carries⟩ := known.entry id _ stored
    exact ⟨isId.trans named,payload,inBuffer,isId ▸ same payload carries⟩
  · exact known.entry other p present

private theorem tracks_erase (known : Tracks lz4 fragmenter config buffered self) (id : MessageId) :
    Tracks lz4 fragmenter config buffered { self with pending := self.pending.erase id } := by
  refine ⟨known.next,known.order,fun other p present => ?_⟩
  rw [Maps.lookup_erase_ite] at present
  split at present
  · cases present
  · exact known.entry other p present

theorem tracks_update (known : Tracks lz4 fragmenter config buffered self) (now rtt : Duration) :
    Tracks lz4 fragmenter config buffered (self.update now rtt) :=
  ⟨known.next,known.order,known.entry⟩

theorem tracks_buffer_send (known : Tracks lz4 fragmenter config buffered self) {message : Bytes} {id : MessageId}
    {self' : ReliableSendState} (executed : self.buffer_send lz4 fragmenter message config = some (self',id)) :
    Tracks lz4 fragmenter config (buffered ++ [message]) self' := by
  unfold buffer_send at executed
  dsimp only at executed
  split at executed
  · cases executed
  next new made =>
  split at executed
  · cases executed
  obtain ⟨rfl,rfl⟩ := Prod.mk.inj (Option.some.inj executed)
  refine ⟨?_,by simp [known.order],fun other p present => ?_⟩
  · rw [known.next,add_assign_ofIndex]
    simp
  · rw [Maps.lookup_insert_ite] at present
    split at present
    · next isId =>
      obtain rfl := Option.some.inj present
      subst isId
      refine ⟨by rw [known.next,known.order],message,by simp [known.order],carries_unacked made⟩
    · obtain ⟨named,payload,inBuffer,carries⟩ := known.entry other p present
      have inside := List.getElem?_eq_some_iff.mp inBuffer
      exact ⟨named,payload,by rw [List.getElem?_append_left inside.1,inBuffer],carries⟩

/-- Whatever is sent is a piece of the message with its send order. -/
theorem candidate_wire (known : Tracks lz4 fragmenter config buffered self) {c : SendCandidate}
    (member : c ∈ self.collect_candidates) :
    ∃ payload, buffered[c.send_order]? = some payload ∧
      c.message ∈ wire lz4 fragmenter config (ofIndex c.send_order) payload := by
  obtain ⟨⟨id,p⟩,stored,isCandidate⟩ := List.mem_flatMap.mp member
  obtain ⟨named,payload,inBuffer,carries⟩ := known.entry id p ((Maps.lookup_eq_some_iff _ _ _).mpr stored)
  unfold candidates at isCandidate
  dsimp only at isCandidate
  cases shape : p.message with
  | Single bytes last_sent =>
    rw [shape] at isCandidate carries
    dsimp only at isCandidate
    split at isCandidate
    · obtain rfl := List.mem_singleton.mp isCandidate
      obtain ⟨rfl,small⟩ := carries
      exact ⟨bytes,inBuffer,mem_wire.mpr (.inl ⟨small,by rw [named]⟩)⟩
    · cases isCandidate
  | Fragmented fragments =>
    rw [shape] at isCandidate carries
    obtain ⟨fragment,filtered,rfl⟩ := List.mem_map.mp isCandidate
    obtain ⟨large,pieces⟩ := carries
    have isPiece : fragment.data ∈ (cut lz4 fragmenter id payload config).pieces := by
      rw [← pieces]
      exact List.mem_map_of_mem (List.mem_of_mem_filter filtered)
    obtain ⟨i,low,isPiece⟩ := List.mem_map.mp isPiece
    rw [named] at low isPiece
    exact ⟨payload,inBuffer,mem_wire.mpr (.inr ⟨large,i,by simpa using low,by rw [isPiece]⟩)⟩

theorem tracks_commit_send (known : Tracks lz4 fragmenter config buffered self) (key : SendMessageKey)
    (sent_at : Duration) : Tracks lz4 fragmenter config buffered (self.commit_send key sent_at) := by
  unfold commit_send
  split
  · split
    · next stored => exact tracks_insert known stored fun _ carries => carries
    · exact known
  · split
    · next fragments send_order stored =>
      refine tracks_insert known stored fun payload ⟨large,pieces⟩ => ⟨large,?_⟩
      rw [← pieces]
      apply List.ext_getElem?
      intro i
      simp only [List.getElem?_map,List.getElem?_modify]
      split <;> simp [Function.comp_def]
    · exact known
  · exact known

theorem tracks_receive_ack (known : Tracks lz4 fragmenter config buffered self) {ack : MessageAck} {done : Bool}
    {self' : ReliableSendState} (executed : self.receive_ack ack = some (self',done)) :
    Tracks lz4 fragmenter config buffered self' := by
  unfold receive_ack at executed
  split at executed
  · obtain ⟨rfl,-⟩ := Prod.mk.inj (Option.some.inj executed)
    exact known
  · split at executed
    · cases executed
    · obtain ⟨rfl,-⟩ := Prod.mk.inj (Option.some.inj executed)
      exact tracks_erase known _
  next fragments send_order stored =>
  split at executed
  · cases executed
  next fragment_id _ =>
  split at executed
  · cases executed
  next fragment inFragments =>
  split at executed
  · obtain ⟨rfl,-⟩ := Prod.mk.inj (Option.some.inj executed)
    exact known
  dsimp only at executed
  split at executed
  · obtain ⟨rfl,-⟩ := Prod.mk.inj (Option.some.inj executed)
    exact tracks_erase known _
  · obtain ⟨rfl,-⟩ := Prod.mk.inj (Option.some.inj executed)
    refine tracks_insert known stored fun payload ⟨large,pieces⟩ => ⟨large,?_⟩
    rw [← pieces]
    apply List.ext_getElem?
    intro i
    simp only [List.getElem?_map,List.getElem?_set]
    split
    · next same =>
      subst same
      rw [if_pos (List.getElem?_eq_some_iff.mp inFragments).1,inFragments]
      rfl
    · rfl

end Tracks

end Lightyear.SendReliable
