import Lightyear.Sequenced

/-!
The reassembly buffers of a sequenced channel. Nothing drops the buffer of a message that was
overtaken, so that a later message with its id finds it.
-/
namespace Lightyear.SequencedBuffers
open Lightyear.Ids Lightyear.Ids.WrappingId Lightyear.Message Lightyear.Compression Lightyear.Fragments
open Lightyear.Reassembly Lightyear.Receive Lightyear.Receive.ChannelReceive Lightyear.Sequenced

/-- The last id that a sequenced state completed. -/
def newest_completed : RecvState → Option MessageId
  | .UnreliableSequenced _ _ completed => completed
  | .ReliableSequenced _ _ completed => completed
  | _ => none

/-- What arrives is a piece of a sent message. -/
def Genuine (lz4 : Lz4) (sender : FragmentSender) (config : CompressionConfig) (sent : Nat → Bytes) : Event → Prop
  | .Arrive n data _ => data ∈ wire lz4 sender config (ofIndex n) (sent n)
  | _ => True

instance (lz4 : Lz4) (sender : FragmentSender) (config : CompressionConfig) (sent : Nat → Bytes) :
    DecidablePred (Genuine lz4 sender config sent)
  | .Arrive n data _ => inferInstanceAs (Decidable (data ∈ wire lz4 sender config (ofIndex n) (sent n)))
  | .Update _ | .Read => .isTrue trivial

/-- A piece of a sent message arrives within half the id space of the newest message. If it is newer itself,
    no reassembly buffer is left and the last completed message had another id. -/
def Clean (lz4 : Lz4) (sender : FragmentSender) (config : CompressionConfig) (sent : Nat → Bytes) (s : Link) :
    Event → Prop
  | .Arrive n data tick =>
    Genuine lz4 sender config sent (.Arrive n data tick) ∧
    (∀ m ∈ s.arrived.max?, m < n + 2 ^ 15 ∧ n ≤ m + 2 ^ 15) ∧
    ((∀ m ∈ s.arrived, m < n) →
      s.channel.fragments.fragment_messages.keys = [] ∧ newest_completed s.channel.state ≠ some (ofIndex n))
  | _ => True

instance (lz4 : Lz4) (sender : FragmentSender) (config : CompressionConfig) (sent : Nat → Bytes) (s : Link) :
    DecidablePred (Clean lz4 sender config sent s)
  | .Arrive n data tick => inferInstanceAs (Decidable (Genuine lz4 sender config sent (.Arrive n data tick) ∧
      (∀ m ∈ s.arrived.max?, m < n + 2 ^ 15 ∧ n ≤ m + 2 ^ 15) ∧ ((∀ m ∈ s.arrived, m < n) →
        s.channel.fragments.fragment_messages.keys = [] ∧ newest_completed s.channel.state ≠ some (ofIndex n))))
  | .Update _ | .Read => .isTrue trivial

/-- The invariant: there is at most the buffer of the newest message, and it holds that message's fragments. -/
structure Kept (lz4 : Lz4) (sender : FragmentSender) (config : CompressionConfig) (sent : Nat → Bytes) (s : Link)
    (top : Option Nat) (ready : Option (Tick × Bytes × MessageId)) (completed : Option MessageId) : Prop where
  state : InState s.channel.state ready (top.map fun n : Nat => ofIndex n) completed
  newest : s.arrived.max? = top
  size : s.channel.fragments.fragment_size = sender.fragment_size
  only : ∀ id c, s.channel.fragments.fragment_messages.lookup id = some c → ∃ n, top = some n ∧ id = ofIndex n
  held : ∀ n, top = some n → ∃ got, Held lz4 sender config s.channel.fragments (ofIndex n) (sent n) got
  waiting : ∀ tick bytes id, ready = some (tick,bytes,id) → ∃ n, top = some n ∧ id = ofIndex n ∧ bytes = sent n
  recent : ∀ n, top = some n → s.index (ofIndex n) = some n
  returned : ∀ r ∈ s.returned, ∃ n ∈ s.arrived, r.index = some n ∧ r.bytes = sent n
  refused : s.refused = []

section Buffers
variable {lz4 : Lz4} {sender : FragmentSender} {config : CompressionConfig} {sent : Nat → Bytes} {s : Link}
  {top : Option Nat} {ready : Option (Tick × Bytes × MessageId)} {completed : Option MessageId}

theorem completed_of_state {state : RecvState} {seen : Option MessageId} (known : InState state ready seen completed) :
    newest_completed state = completed := by
  rcases known with rfl | rfl <;> rfl

theorem kept_start {mode : ChannelMode} (sequenced : mode = .SequencedUnreliable ∨ mode = .SequencedReliable) :
    Kept lz4 sender config sent (.start mode sender.fragment_size sender.positive) none none none :=
  ⟨sequenced_new sequenced,rfl,rfl,by simp [Link.start,ChannelReceive.new,FragmentReceiver.new],by simp,by simp,by simp,
    by simp [Link.start],rfl⟩

private theorem max_cons {arrived : List Nat} {n : Nat} (newer : ∀ m ∈ arrived, m ≤ n) :
    (n :: arrived).max? = some n := by
  rw [List.max?_eq_some_iff]
  refine ⟨by simp,fun m member => ?_⟩
  rcases List.mem_cons.mp member with rfl | old
  · exact le_rfl
  · exact newer m old

private theorem returned_cons (known : Kept lz4 sender config sent s top ready completed) (n : Nat) :
    ∀ r ∈ s.returned, ∃ m ∈ n :: s.arrived, r.index = some m ∧ r.bytes = sent m := by
  intro r member
  obtain ⟨m,arrived,index,bytes⟩ := known.returned r member
  exact ⟨m,List.mem_cons_of_mem _ arrived,index,bytes⟩

/-- A refused arrival is older than the newest message, or is that message again. -/
private theorem kept_refused (known : Kept lz4 sender config sent s top ready completed) {n : Nat}
    {message : ReceiveMessage} (isId : message.data.message_id = some (ofIndex n))
    (near : ∀ m ∈ s.arrived.max?, m < n + 2 ^ 15 ∧ n ≤ m + 2 ^ 15)
    (clean : (∀ m ∈ s.arrived, m < n) → newest_completed s.channel.state ≠ some (ofIndex n))
    (refused : Refused lz4 s.channel message (ofIndex n) (top.map fun n : Nat => ofIndex n) completed) :
    Kept lz4 sender config sent
      { s with
        channel := (s.channel.buffer_recv lz4 message).1,arrived := n :: s.arrived,
        refused := if s.refuses lz4 n message then n :: s.refused else s.refused } top ready completed := by
  have old : ∃ m, top = some m ∧ n ≤ m := by
    rcases refused.why with again | ⟨newest,isNewest,older⟩
    · by_contra none
      refine clean (fun m member => ?_) (by rw [completed_of_state known.state,again])
      by_contra high
      cases isTop : top with
      | none =>
        have empty := List.max?_eq_none_iff.mp (known.newest.trans isTop)
        rw [empty] at member
        cases member
      | some k =>
        have greatest := (List.max?_eq_some_iff.mp (known.newest.trans isTop)).2 m member
        exact none ⟨k,isTop,by omega⟩
    · obtain ⟨m,isTop,rfl⟩ := Option.map_eq_some_iff.mp isNewest
      obtain ⟨low,high⟩ := near m (known.newest.trans isTop)
      rw [lt_ofIndex (by omega) (by omega)] at older
      exact ⟨m,isTop,by simp at older; omega⟩
  obtain ⟨m,isTop,le⟩ := old
  have isMax := List.max?_eq_some_iff.mp (known.newest.trans isTop)
  have quiet : s.refuses lz4 n message = false := by
    have notFresh : ¬ ∀ k ∈ s.arrived, k < n := fun fresh => by
      have := fresh m isMax.1
      omega
    simp [Link.refuses,refused.unchanged,notFresh]
  rw [refused.unchanged,quiet]
  refine ⟨known.state,?_,known.size,known.only,known.held,known.waiting,?_,returned_cons known n,known.refused⟩
  · rw [isTop,List.max?_eq_some_iff]
    refine ⟨List.mem_cons_of_mem _ isMax.1,fun k member => ?_⟩
    rcases List.mem_cons.mp member with rfl | before
    · exact le
    · exact isMax.2 k before
  · intro k isTop'
    obtain rfl : k = m := Option.some.inj (isTop'.symm.trans isTop)
    obtain ⟨low,high⟩ := near k (known.newest.trans isTop)
    rw [index_cons]
    by_cases same : n = k
    · rw [if_pos (by rw [same]),same]
    · rw [if_neg (fun sameId => same (by have := ofIndex_inj (by omega) (by omega) sameId; omega))]
      exact known.recent k isTop

/-- An accepted arrival is the newest message, and its buffer is the only one. -/
private theorem kept_accepted (inverts : lz4.Inverts) (fits : ∀ n, (sent n).length ≤ isize_max)
    (known : Kept lz4 sender config sent s top ready completed) {n : Nat} {data : MessageData} {tick : Tick}
    (isWire : data ∈ wire lz4 sender config (ofIndex n) (sent n))
    (near : ∀ m ∈ s.arrived.max?, m < n + 2 ^ 15 ∧ n ≤ m + 2 ^ 15)
    (clean : (∀ m ∈ s.arrived, m < n) → s.channel.fragments.fragment_messages.keys = [])
    {ready' : Option (Tick × Bytes × MessageId)} {time : Option Duration}
    (accepted : Accepted lz4 s.channel ⟨data,tick,config⟩ (ofIndex n) ready (top.map fun n : Nat => ofIndex n) completed
      ready' time) :
    ∃ ready'' completed', Kept lz4 sender config sent
      { s with
        channel := (s.channel.buffer_recv lz4 ⟨data,tick,config⟩).1,arrived := n :: s.arrived,
        refused := if s.refuses lz4 n ⟨data,tick,config⟩ then n :: s.refused else s.refused }
      (some n) ready'' completed' := by
  have isId := wire_message_id isWire
  obtain ⟨how,accepted,fragments,outcome⟩ := accepted
  -- Either the newest message again, or a newer one that finds no buffer.
  have newest : top = some n ∧ ready' = ready ∨ (∀ m ∈ s.arrived, m < n) ∧
      (∀ tick bytes id, ready' ≠ some (tick,bytes,id)) := by
    rcases how with ⟨same,rfl⟩ | ⟨none,rfl⟩ | ⟨newest,isNewest,greater,rfl⟩
    · obtain ⟨m,isTop,sameId⟩ := Option.map_eq_some_iff.mp same
      obtain ⟨low,high⟩ := near m (known.newest.trans isTop)
      have : (m : Int) = n := ofIndex_inj (by omega) (by omega) sameId
      obtain rfl : m = n := by omega
      exact .inl ⟨isTop,rfl⟩
    · rw [Option.map_eq_none_iff] at none
      have empty := List.max?_eq_none_iff.mp (known.newest.trans none)
      refine .inr ⟨by simp [empty],fun tick bytes id isReady => ?_⟩
      obtain ⟨m,isTop,-⟩ := known.waiting tick bytes id isReady
      rw [none] at isTop
      cases isTop
    · obtain ⟨m,isTop,rfl⟩ := Option.map_eq_some_iff.mp isNewest
      obtain ⟨low,high⟩ := near m (known.newest.trans isTop)
      rw [gt_ofIndex (by omega) (by omega)] at greater
      have newer : m < n := by simpa using greater
      have isMax := List.max?_eq_some_iff.mp (known.newest.trans isTop)
      exact .inr ⟨fun k member => lt_of_le_of_lt (isMax.2 k member) newer,by simp⟩
  have atMost : ∀ m ∈ s.arrived, m ≤ n := by
    rcases newest with ⟨isTop,-⟩ | ⟨newer,-⟩
    · exact (List.max?_eq_some_iff.mp (known.newest.trans isTop)).2
    · exact fun m member => (newer m member).le
  have noOther : ∀ id c, s.channel.fragments.fragment_messages.lookup id = some c → id = ofIndex n := by
    intro id c stored
    rcases newest with ⟨isTop,-⟩ | ⟨newer,-⟩
    · obtain ⟨m,isTop',rfl⟩ := known.only id c stored
      rw [isTop,Option.some.injEq] at isTop'
      rw [isTop']
    · have present : id ∈ s.channel.fragments.fragment_messages := (Maps.mem_iff_lookup _ _).mpr ⟨c,stored⟩
      rw [AList.mem_keys,clean newer] at present
      cases present
  have held : ∃ got, Held lz4 sender config s.channel.fragments (ofIndex n) (sent n) got := by
    rcases newest with ⟨isTop,-⟩ | ⟨newer,-⟩
    · exact known.held n isTop
    · refine ⟨[],held_none ?_⟩
      rw [AList.lookup_eq_none,AList.mem_keys,clean newer]
      simp
  have waiting : ∀ tick bytes id, ready' = some (tick,bytes,id) → id = ofIndex n ∧ bytes = sent n := by
    intro tick bytes id isReady
    rcases newest with ⟨isTop,rfl⟩ | ⟨-,none⟩
    · obtain ⟨m,isTop',named,isPayload⟩ := known.waiting tick bytes id isReady
      obtain rfl : m = n := Option.some.inj (isTop'.symm.trans isTop)
      exact ⟨named,isPayload⟩
    · exact absurd isReady (none tick bytes id)
  obtain ⟨got,held⟩ := held
  obtain ⟨result,got',answered,held',payload⟩ := assemble_wire inverts (fits n) known.size held isWire tick time
  have common : ∀ ready'' completed', InState (s.channel.buffer_recv lz4 ⟨data,tick,config⟩).1.state ready''
      (some (ofIndex n)) completed' → (s.channel.buffer_recv lz4 ⟨data,tick,config⟩).2 = .ok () →
      (∀ tick bytes id, ready'' = some (tick,bytes,id) → id = ofIndex n ∧ bytes = sent n) →
      Kept lz4 sender config sent
        { s with
          channel := (s.channel.buffer_recv lz4 ⟨data,tick,config⟩).1,arrived := n :: s.arrived,
          refused := if s.refuses lz4 n ⟨data,tick,config⟩ then n :: s.refused else s.refused }
        (some n) ready'' completed' := by
    intro ready'' completed' state ok waiting''
    have quiet : s.refuses lz4 n ⟨data,tick,config⟩ = false := by simp [Link.refuses,ok,isId,accepted]
    rw [quiet]
    refine ⟨state,max_cons atMost,?_,?_,?_,?_,?_,returned_cons known n,known.refused⟩
    · simp only [fragments,assemble_size,known.size]
    · intro id c stored
      simp only [fragments] at stored
      refine ⟨n,rfl,?_⟩
      by_contra other
      rw [assemble_other lz4 _ _ isId other] at stored
      exact other (noOther id c stored)
    · intro m isTop
      obtain rfl : n = m := by simpa using isTop
      exact ⟨got',by simp only [fragments]; exact held'⟩
    · intro tick bytes id isReady
      obtain ⟨named,isPayload⟩ := waiting'' tick bytes id isReady
      exact ⟨n,rfl,named,isPayload⟩
    · intro m isTop
      obtain rfl : n = m := by simpa using isTop
      rw [index_cons,if_pos rfl]
  rw [answered] at outcome
  rcases payload with ⟨⟨tick',rfl⟩,-,-⟩ | ⟨rfl,-,-⟩
  · refine ⟨_,_,common _ _ outcome.2 outcome.1 fun tick bytes id isReady => ?_⟩
    split at isReady
    · exact waiting tick bytes id isReady
    · simp only [Option.some.injEq,Prod.mk.injEq] at isReady
      exact ⟨isReady.2.2.symm,isReady.2.1.symm⟩
  · exact ⟨ready',completed,common _ _ outcome.2 outcome.1 waiting⟩

/-- The invariant with its data left out. -/
def KeptSome (lz4 : Lz4) (sender : FragmentSender) (config : CompressionConfig) (sent : Nat → Bytes)
    (s : Link) : Prop :=
  ∃ top ready completed, Kept lz4 sender config sent s top ready completed

theorem kept_step (inverts : lz4.Inverts) (fits : ∀ n, (sent n).length ≤ isize_max)
    (known : Kept lz4 sender config sent s top ready completed) {event : Event} {s' : Link}
    (executed : step lz4 config s event = some s') (clean : Clean lz4 sender config sent s event) :
    KeptSome lz4 sender config sent s' := by
  cases event with
  | Arrive n data tick =>
    simp only [step] at executed
    split at executed
    swap
    · cases executed
    next isId =>
    obtain rfl := Option.some.inj executed
    obtain ⟨isWire,near,clean⟩ := clean
    rcases buffer_recv_sequenced known.state lz4 ⟨data,tick,config⟩ isId with
      refused | ⟨ready',time,accepted⟩
    · exact ⟨_,_,_,kept_refused known isId near (fun fresh => (clean fresh).2) refused⟩
    · exact ⟨_,kept_accepted inverts fits known isWire near (fun fresh => (clean fresh).1) accepted⟩
  | Update now =>
    obtain rfl := Option.some.inj executed
    refine ⟨top,ready,completed,⟨known.state,known.newest,?_,?_,?_,known.waiting,known.recent,known.returned,
      known.refused⟩⟩
    · unfold ChannelReceive.update
      split <;> exact known.size
    · intro id c stored
      unfold ChannelReceive.update at stored
      split at stored
      · rw [FragmentReceiver.cleanup,Maps.lookup_retain,Option.filter_eq_some_iff] at stored
        exact known.only id c stored.1
      · exact known.only id c stored
    · intro n isTop
      obtain ⟨got,held⟩ := known.held n isTop
      unfold ChannelReceive.update
      split
      · rcases held_cleanup held (now - DISCARD_AFTER) with kept | dropped
        · exact ⟨got,kept⟩
        · exact ⟨[],dropped⟩
      · exact ⟨got,held⟩
  | Read =>
    obtain ⟨state',read,sequenced⟩ := read_sequenced known.state
    simp only [step,read_message,read] at executed
    cases isReady : ready with
    | none =>
      rw [isReady] at executed
      obtain rfl := Option.some.inj executed
      exact ⟨top,none,completed,⟨sequenced,known.newest,known.size,known.only,known.held,by simp,known.recent,
        known.returned,known.refused⟩⟩
    | some message =>
      obtain ⟨tick,bytes,id⟩ := message
      rw [isReady] at executed
      obtain rfl := Option.some.inj executed
      obtain ⟨n,isTop,rfl,rfl⟩ := known.waiting tick bytes id isReady
      refine ⟨top,none,completed,⟨sequenced,known.newest,known.size,known.only,known.held,by simp,known.recent,?_,
        known.refused⟩⟩
      intro r member
      rcases List.mem_append.mp member with old | new
      · exact known.returned r old
      · obtain rfl := List.mem_singleton.mp new
        exact ⟨n,(index_mem (known.recent n isTop)).1,known.recent n isTop,rfl⟩

end Buffers

/-- As long as every newer message finds the buffers empty, buffers are kept only for the newest message, every
    payload returned is the payload of one sent message, and no arrival is refused that should not be. -/
theorem buffers_of_newest {lz4 : Lz4} (inverts : lz4.Inverts) (sender : FragmentSender) (config : CompressionConfig)
    {sent : Nat → Bytes} (fits : ∀ n, (sent n).length ≤ isize_max) {mode : ChannelMode}
    (sequenced : mode = .SequencedUnreliable ∨ mode = .SequencedReliable) {s : Link}
    (reached : Runs.Reaches (step lz4 config) (fun s event _ => Clean lz4 sender config sent s event)
      (.start mode sender.fragment_size sender.positive) s) :
    (∀ id ∈ s.channel.fragments.fragment_messages, ∃ n ∈ s.arrived, id = ofIndex n ∧ ∀ m ∈ s.arrived, m ≤ n) ∧
    (∀ r ∈ s.returned, ∃ n ∈ s.arrived, r.index = some n ∧ r.bytes = sent n) ∧ s.refused = [] := by
  obtain ⟨top,ready,completed,known⟩ := reached.invariant (KeptSome lz4 sender config sent)
    ⟨_,_,_,kept_start sequenced⟩ fun before event after ⟨_,_,_,known⟩ executed clean =>
      kept_step inverts fits known executed clean
  refine ⟨fun id present => ?_,known.returned,known.refused⟩
  obtain ⟨c,stored⟩ := (Maps.mem_iff_lookup _ _).mp present
  obtain ⟨n,isTop,isId⟩ := known.only id c stored
  have isMax := List.max?_eq_some_iff.mp (known.newest.trans isTop)
  exact ⟨n,isMax.1,isId,isMax.2⟩

theorem buffers_of_newest_two :
    ∃ s, Runs.run (step .literals .LZ4)
        (fun s event _ => Clean .literals ⟨2,by decide⟩ .LZ4 (fun _ => [1,2,3]) s event)
        (.start .SequencedReliable 2 (by decide))
        [.Arrive 0 (.Fragment ⟨ofIndex 0,1,2,none,[3]⟩) 0,
          .Arrive 0 (.Fragment ⟨ofIndex 0,0,2,some .None,[1,2]⟩) 0,.Read,
          .Arrive 1 (.Fragment ⟨ofIndex 1,0,2,some .None,[1,2]⟩) 0] = some s ∧
      s.channel.fragments.fragment_messages.keys = [ofIndex 1] ∧
      (∀ id ∈ s.channel.fragments.fragment_messages, ∃ n ∈ s.arrived, id = ofIndex n ∧ ∀ m ∈ s.arrived, m ≤ n) ∧
      (∀ r ∈ s.returned, ∃ n ∈ s.arrived, r.index = some n ∧ r.bytes = [1,2,3]) ∧ s.refused = [] := by
  obtain ⟨s,executed,keys⟩ := Option.map_eq_some_iff.mp (show (Runs.run (step .literals .LZ4)
    (fun s event _ => Clean .literals ⟨2,by decide⟩ .LZ4 (fun _ => [1,2,3]) s event)
    (.start .SequencedReliable 2 (by decide))
    [.Arrive 0 (.Fragment ⟨ofIndex 0,1,2,none,[3]⟩) 0,.Arrive 0 (.Fragment ⟨ofIndex 0,0,2,some .None,[1,2]⟩) 0,.Read,
      .Arrive 1 (.Fragment ⟨ofIndex 1,0,2,some .None,[1,2]⟩) 0]).map
      (fun s => s.channel.fragments.fragment_messages.keys) = some [ofIndex 1] by decide)
  exact ⟨s,executed,keys,buffers_of_newest literals_inverts ⟨2,by decide⟩ .LZ4 (fun _ => by decide) (.inr rfl)
    (Runs.reaches_of_run .start executed)⟩

/-- Message 0 is overtaken by single messages while its second fragment is missing. Its buffer outlives them, and
    the second fragment of message `2^16` completes it to a payload that nobody sent. -/
theorem overtaken_buffer_mixes :
    let sent : Nat → Bytes := fun n => if n = 0 then [1,2,3] else if n = 65536 then [7,8,9] else [5]
    let arrive : Nat → MessageData → Event := fun n data => .Arrive n data 0
    let events := [arrive 0 (.Fragment ⟨ofIndex 0,0,2,some .None,[1,2]⟩),
      arrive 20000 (.Single ⟨some (ofIndex 20000),[5]⟩),
      .Read,arrive 40000 (.Single ⟨some (ofIndex 40000),[5]⟩),.Read,
        arrive 60000 (.Single ⟨some (ofIndex 60000),[5]⟩),.Read]
    ((Runs.run (step .literals .LZ4) (fun _ event _ => Genuine .literals ⟨2,by decide⟩ .LZ4 sent event)
      (.start .SequencedReliable 2 (by decide)) events).map
      fun s => (s.channel.fragments.fragment_messages.keys,s.newest_returned)) = some ([ofIndex 0],some 60000) ∧
    ((Runs.run (step .literals .LZ4) (fun _ event _ => Genuine .literals ⟨2,by decide⟩ .LZ4 sent event)
      (.start .SequencedReliable 2 (by decide))
      (events ++ [arrive 65536 (.Fragment ⟨ofIndex 65536,1,2,none,[9]⟩),.Read])).map
      fun s => s.returned.getLast?) = some (some ⟨some 65536,some (ofIndex 65536),[1,2,9]⟩) := by
  exact ⟨by decide,by decide⟩

end Lightyear.SequencedBuffers
