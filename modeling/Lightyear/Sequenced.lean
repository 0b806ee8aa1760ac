import Lightyear.Receive
import Lightyear.Runs

/-!
The sequenced channels over any network. Messages have their indices on arrival, so that
an id on the wire stands for one message out of every `2^16`.
-/
namespace Lightyear.Sequenced
open Lightyear.Ids Lightyear.Ids.WrappingId Lightyear.Message Lightyear.Compression Lightyear.Fragments
open Lightyear.Reassembly Lightyear.Receive Lightyear.Receive.ChannelReceive

/-- A state of either sequenced mode. -/
def InState (state : RecvState) (ready : Option (Tick × Bytes × MessageId))
    (newest_seen newest_completed : Option MessageId) : Prop :=
  state = .UnreliableSequenced ready newest_seen newest_completed ∨
  state = .ReliableSequenced ready newest_seen newest_completed

section State
variable {state : RecvState} {ready : Option (Tick × Bytes × MessageId)}
  {newest_seen newest_completed : Option MessageId}

theorem sequenced_new {mode : ChannelMode} (sequenced : mode = .SequencedUnreliable ∨ mode = .SequencedReliable) :
    InState (.new mode) none none none := by
  rcases sequenced with rfl | rfl
  · exact .inl rfl
  · exact .inr rfl

/-- All that `prepare_receive` can do: refuse an id that is older or just completed, or take it as the newest. -/
theorem prepare_sequenced (known : InState state ready newest_seen newest_completed) (id : MessageId) :
    (state.prepare_receive (some id) = (state,.ok false) ∧
      (newest_completed = some id ∨ ∃ newest, newest_seen = some newest ∧ id.lt newest = true)) ∨
    ∃ state' ready', state.prepare_receive (some id) = (state',.ok true) ∧
      InState state' ready' (some id) newest_completed ∧
      (newest_seen = some id ∧ ready' = ready ∨ newest_seen = none ∧ ready' = ready ∨
        ∃ newest, newest_seen = some newest ∧ id.gt newest = true ∧ ready' = none) := by
  have noted : (RecvState.note_sequence ready newest_seen id = (false,ready,newest_seen) ∧
        ∃ newest, newest_seen = some newest ∧ id.lt newest = true) ∨
      ∃ ready', RecvState.note_sequence ready newest_seen id = (true,ready',some id) ∧
        (newest_seen = some id ∧ ready' = ready ∨ newest_seen = none ∧ ready' = ready ∨
          ∃ newest, newest_seen = some newest ∧ id.gt newest = true ∧ ready' = none) := by
    unfold RecvState.note_sequence
    cases newest_seen with
    | none => exact .inr ⟨ready,rfl,.inr (.inl ⟨rfl,rfl⟩)⟩
    | some newest =>
      by_cases older : id.lt newest = true
      · exact .inl ⟨by simp [older],newest,rfl,older⟩
      by_cases newer : id.gt newest = true
      · exact .inr ⟨none,by simp [older,newer],.inr (.inr ⟨newest,rfl,newer,rfl⟩)⟩
      · have same : id = newest := eq_of_not_lt_gt (by simpa using older) (by simpa using newer)
        subst same
        exact .inr ⟨ready,by simp,.inl ⟨rfl,rfl⟩⟩
  rcases known with rfl | rfl
  · rcases noted with ⟨refused,older⟩ | ⟨ready',accepted,how⟩
    · exact .inl ⟨by simp [RecvState.prepare_receive,refused],.inr older⟩
    · exact .inr ⟨.UnreliableSequenced ready' (some id) newest_completed,ready',
        by simp [RecvState.prepare_receive,accepted],.inl rfl,how⟩
  · by_cases completed : newest_completed = some id
    · exact .inl ⟨by simp [RecvState.prepare_receive,completed],.inl completed⟩
    rcases noted with ⟨refused,older⟩ | ⟨ready',accepted,how⟩
    · exact .inl ⟨by simp [RecvState.prepare_receive,completed,refused],.inr older⟩
    · exact .inr ⟨.ReliableSequenced ready' (some id) newest_completed,ready',
        by simp [RecvState.prepare_receive,completed,accepted],.inr rfl,how⟩

/-- The newest message becomes ready unless it was completed before. -/
theorem push_sequenced {id : MessageId} (known : InState state ready (some id) newest_completed) (tick : Tick)
    (bytes : Bytes) :
    InState (state.push_completed (some id) tick bytes)
      (if newest_completed = some id then ready else some (tick,bytes,id)) (some id) (some id) := by
  have completed : RecvState.complete_sequence ready (some id) newest_completed id tick bytes =
      (if newest_completed = some id then ready else some (tick,bytes,id),some id) := by
    unfold RecvState.complete_sequence
    by_cases again : newest_completed = some id
    · simp [again]
    · simp [again]
  rcases known with rfl | rfl
  · exact .inl (by simp [RecvState.push_completed,completed])
  · exact .inr (by simp [RecvState.push_completed,completed])

theorem read_sequenced (known : InState state ready newest_seen newest_completed) :
    ∃ state', state.read_message = (state',ready.map fun (tick,bytes,id) => (tick,bytes,some id)) ∧
      InState state' none newest_seen newest_completed := by
  rcases known with rfl | rfl
  · exact ⟨_,rfl,.inl rfl⟩
  · exact ⟨_,rfl,.inr rfl⟩

end State

/-- A receiver with its history: the indices that arrived, the last one first, and what was returned. -/
structure Link where
  channel : ChannelReceive
  arrived : List Nat
  returned : List Returned
  /-- The arrivals that ended in an error, or were newer than all others and not accepted. -/
  refused : List Nat

inductive Event where
  /-- A single or a fragment of the message with this index arrives, in any order and any number of times. -/
  | Arrive (n : Nat) (data : MessageData) (tick : Tick)
  | Update (now : Duration)
  | Read

def Link.start (mode : ChannelMode) (fragment_size : Nat) (positive : 0 < fragment_size) : Link :=
  ⟨.new mode fragment_size positive,[],[],[]⟩

/-- The last arrived message that has the id. -/
def Link.index (s : Link) (id : MessageId) : Option Nat := s.arrived.find? fun n => ofIndex n = id

def Link.refuses (s : Link) (lz4 : Lz4) (n : Nat) (message : ReceiveMessage) : Bool :=
  decide ((s.channel.buffer_recv lz4 message).2 ≠ .ok ()) ||
    (decide (∀ m ∈ s.arrived, m < n) &&
      decide ((s.channel.state.prepare_receive message.data.message_id).2 ≠ .ok true))

def step (lz4 : Lz4) (config : CompressionConfig) (s : Link) : Event → Option Link
  | .Arrive n data tick =>
    if data.message_id = some (ofIndex n) then
      some { s with
        channel := (s.channel.buffer_recv lz4 ⟨data,tick,config⟩).1,
        arrived := n :: s.arrived,
        refused := if s.refuses lz4 n ⟨data,tick,config⟩ then n :: s.refused else s.refused }
    else none
  | .Update now => some { s with channel := s.channel.update now }
  | .Read =>
    match s.channel.read_message with
    | (channel,none) => some { s with channel }
    | (channel,some (_,bytes,id)) =>
      some { s with channel,returned := s.returned ++ [⟨id.bind s.index,id,bytes⟩] }

/-- An arrival that changes nothing. -/
structure Refused (lz4 : Lz4) (channel : ChannelReceive) (message : ReceiveMessage) (id : MessageId)
    (newest_seen newest_completed : Option MessageId) : Prop where
  unchanged : channel.buffer_recv lz4 message = (channel,.ok ())
  refused : (channel.state.prepare_receive (some id)).2 = .ok false
  why : newest_completed = some id ∨ ∃ newest, newest_seen = some newest ∧ id.lt newest = true

/-- An arrival that becomes the newest message, and may be completed. -/
structure Accepted (lz4 : Lz4) (channel : ChannelReceive) (message : ReceiveMessage) (id : MessageId)
    (ready : Option (Tick × Bytes × MessageId)) (newest_seen newest_completed : Option MessageId)
    (ready' : Option (Tick × Bytes × MessageId)) (time : Option Duration) : Prop where
  how : newest_seen = some id ∧ ready' = ready ∨ newest_seen = none ∧ ready' = ready ∨
    ∃ newest, newest_seen = some newest ∧ id.gt newest = true ∧ ready' = none
  accepted : (channel.state.prepare_receive (some id)).2 = .ok true
  fragments : (channel.buffer_recv lz4 message).1.fragments = (assemble lz4 channel.fragments time message).1
  outcome :
    match (assemble lz4 channel.fragments time message).2 with
    | .error error => (channel.buffer_recv lz4 message).2 = .error error ∧
        InState (channel.buffer_recv lz4 message).1.state ready' (some id) newest_completed
    | .ok none => (channel.buffer_recv lz4 message).2 = .ok () ∧
        InState (channel.buffer_recv lz4 message).1.state ready' (some id) newest_completed
    | .ok (some (tick,bytes)) => (channel.buffer_recv lz4 message).2 = .ok () ∧
        InState (channel.buffer_recv lz4 message).1.state
          (if newest_completed = some id then ready' else some (tick,bytes,id)) (some id) (some id)

/-- What an arrival does to the channel. -/
theorem buffer_recv_sequenced {channel : ChannelReceive} {ready : Option (Tick × Bytes × MessageId)}
    {newest_seen newest_completed : Option MessageId}
    (known : InState channel.state ready newest_seen newest_completed) (lz4 : Lz4) (message : ReceiveMessage)
    {id : MessageId} (isId : message.data.message_id = some id) :
    Refused lz4 channel message id newest_seen newest_completed ∨
    ∃ ready' time, Accepted lz4 channel message id ready newest_seen newest_completed ready' time := by
  rcases prepare_sequenced known id with ⟨refused,why⟩ | ⟨state',ready',accepted,sequenced,how⟩
  · exact .inl ⟨by simp [buffer_recv,isId,refused],by rw [refused],why⟩
  · refine .inr ⟨ready',if state'.expires_fragments then some channel.current_time else none,how,by rw [accepted],?_,?_⟩
    · simp only [buffer_recv,isId,accepted]
      rcases assemble lz4 channel.fragments (if state'.expires_fragments then some channel.current_time else none)
        message with ⟨fragments,error | _ | ⟨tick,bytes⟩⟩ <;> rfl
    · simp only [buffer_recv,isId,accepted]
      rcases assemble lz4 channel.fragments (if state'.expires_fragments then some channel.current_time else none)
        message with ⟨fragments,error | _ | ⟨tick,bytes⟩⟩
      · exact ⟨rfl,sequenced⟩
      · exact ⟨rfl,sequenced⟩
      · exact ⟨rfl,push_sequenced sequenced tick bytes⟩

/-! ### Order -/

/-- The newest index that was returned. -/
def Link.newest_returned (s : Link) : Option Nat := (s.returned.filterMap (·.index)).max?

/-- An arriving message is within half the id space of the newest one returned. -/
def NearReturned (s : Link) : Event → Prop
  | .Arrive n _ _ => ∀ m ∈ s.newest_returned, m < n + 2 ^ 15 ∧ n ≤ m + 2 ^ 15
  | _ => True

/-- An arriving message is less than half the id space behind the newest one that arrived. -/
def Recent (s : Link) : Event → Prop
  | .Arrive n _ _ => ∀ m ∈ s.arrived, m < n + 2 ^ 15
  | _ => True

instance (s : Link) : DecidablePred (NearReturned s) := fun event => by
  cases event <;> unfold NearReturned <;> infer_instance

instance (s : Link) : DecidablePred (Recent s) := fun event => by
  cases event <;> unfold Recent <;> infer_instance

/-- The invariant: `top` is the message that `newest_seen` names, and the indices `ns` were returned. -/
structure Ordered (s : Link) (ns : List Nat) (top : Option Nat) (ready : Option (Tick × Bytes × MessageId))
    (completed : Option MessageId) : Prop where
  state : InState s.channel.state ready (top.map fun n : Nat => ofIndex n) completed
  recent : ∀ n, top = some n → s.index (ofIndex n) = some n
  waiting : ∀ tick bytes id, ready = some (tick,bytes,id) → ∃ n, top = some n ∧ id = ofIndex n ∧ n ∉ ns ∧
    completed = some id
  done : ∀ n, top = some n → n ∈ ns → completed = some (ofIndex n)
  indices : s.returned.map (·.index) = ns.map some
  ids : s.returned.map (·.id) = ns.map fun n : Nat => some (ofIndex n)
  sorted : ns.Pairwise (· < ·)
  chain : ns.IsChain fun a b : Nat => (ofIndex b).gt (ofIndex a) = true
  below : ∀ n ∈ ns, ∃ m, top = some m ∧ n ≤ m
  near : ∀ n m, top = some n → ns.max? = some m → n ≤ m + 2 ^ 15

section Order
variable {lz4 : Lz4} {config : CompressionConfig} {s : Link} {ns : List Nat} {top : Option Nat}
  {ready : Option (Tick × Bytes × MessageId)} {completed : Option MessageId}

theorem index_cons (s : Link) (n : Nat) (id : MessageId) {channel : ChannelReceive} {refused : List Nat} :
    Link.index { s with channel,arrived := n :: s.arrived,refused } id =
      if ofIndex n = id then some n else s.index id := by
  unfold Link.index
  rw [List.find?_cons]
  by_cases same : ofIndex n = id <;> simp [same]

theorem index_mem {id : MessageId} {n : Nat} (found : s.index id = some n) : n ∈ s.arrived ∧ ofIndex n = id := by
  have known := List.find?_some found
  exact ⟨List.mem_of_find?_eq_some found,by simpa using known⟩

theorem newest_returned_eq (known : Ordered s ns top ready completed) : s.newest_returned = ns.max? := by
  have same : s.returned.filterMap (·.index) = ns := by
    have mapped := congrArg (List.filterMap id) known.indices
    rw [List.filterMap_map,List.filterMap_map] at mapped
    simpa [Function.comp_def] using mapped
  rw [Link.newest_returned,same]

/-- Ids that compare greater or equal stand for messages that are not older. -/
private theorem not_older {n m : Nat} (recent : m < n + 2 ^ 15) (compared : (ofIndex n).lt (ofIndex m) = false) :
    m ≤ n := by
  by_contra older
  rw [lt_ofIndex (by omega) (by omega)] at compared
  simp at compared
  omega

private theorem newer_of_gt {n m : Nat} (recent : m < n + 2 ^ 15) (greater : (ofIndex n).gt (ofIndex m) = true) :
    m < n := by
  rcases Nat.lt_or_ge m n with newer | older
  · exact newer
  · rw [gt_ofIndex (by omega) (by omega)] at greater
    simp at greater
    omega

/-- An arrival that becomes the newest message, or does not share its id. -/
private theorem ordered_arrive (known : Ordered s ns top ready completed) {n : Nat}
    (near : ∀ m ∈ s.newest_returned, m < n + 2 ^ 15 ∧ n ≤ m + 2 ^ 15) {channel : ChannelReceive} {refused : List Nat}
    {top' : Option Nat} {ready' : Option (Tick × Bytes × MessageId)} {completed' : Option MessageId}
    (newest : top' = some n ∧ (∀ m, top = some m → m ≤ n) ∨ top' = top ∧ ∀ m, top = some m → ofIndex n ≠ ofIndex m)
    (state : InState channel.state ready' (top'.map fun n : Nat => ofIndex n) completed')
    (waiting : ∀ tick bytes id, ready' = some (tick,bytes,id) → ∃ n, top' = some n ∧ id = ofIndex n ∧ n ∉ ns ∧
      completed' = some id)
    (done : ∀ n, top' = some n → n ∈ ns → completed' = some (ofIndex n)) :
    Ordered { s with channel,arrived := n :: s.arrived,refused } ns top' ready' completed' := by
  refine ⟨state,?_,waiting,done,known.indices,known.ids,known.sorted,known.chain,?_,?_⟩
  · intro m isTop
    rw [index_cons]
    rcases newest with ⟨rfl,-⟩ | ⟨rfl,other⟩
    · obtain rfl : n = m := by simpa using isTop
      rw [if_pos rfl]
    · rw [if_neg (other m isTop)]
      exact known.recent m isTop
  · intro k returned
    obtain ⟨m,isTop,le⟩ := known.below k returned
    rcases newest with ⟨rfl,higher⟩ | ⟨rfl,-⟩
    · exact ⟨n,rfl,le.trans (higher m isTop)⟩
    · exact ⟨m,isTop,le⟩
  · intro k m isTop last
    rcases newest with ⟨rfl,-⟩ | ⟨rfl,-⟩
    · obtain rfl : n = k := by simpa using isTop
      exact (near m (by rw [newest_returned_eq known]; exact last)).2
    · exact known.near k m isTop last

/-- A newest message that was returned before is the one that was the newest then. -/
private theorem done_arrive (known : Ordered s ns top ready completed) {n : Nat}
    (higher : ∀ m, top = some m → m ≤ n) (returned : n ∈ ns) : completed = some (ofIndex n) := by
  obtain ⟨m,isTop,le⟩ := known.below n returned
  obtain rfl : m = n := le_antisymm (higher m isTop) le
  exact known.done m isTop returned

private theorem waiting_arrive (known : Ordered s ns top ready completed) {n : Nat}
    (higher : ∀ m, top = some m → m ≤ n) (same : ∀ m, top = some m → ofIndex n = ofIndex m) {tick : Tick}
    {bytes : Bytes}
    {id : MessageId} (isReady : ready = some (tick,bytes,id)) : id = ofIndex n ∧ n ∉ ns ∧ completed = some id := by
  obtain ⟨m,isTop,isId,fresh,settled⟩ := known.waiting tick bytes id isReady
  refine ⟨isId.trans (same m isTop).symm,fun returned => fresh ?_,settled⟩
  obtain ⟨m',isTop',le⟩ := known.below n returned
  obtain rfl : m = m' := Option.some.inj (isTop.symm.trans isTop')
  obtain rfl : m = n := le_antisymm (higher m isTop) le
  exact returned

/-- Some order is known of what was returned. -/
def InOrder (s : Link) : Prop := ∃ ns top ready completed, Ordered s ns top ready completed

/-- An arrival that changes nothing but the history. -/
private theorem Ordered.refuse (known : Ordered s ns top ready completed) {n : Nat}
    (near : ∀ m ∈ s.newest_returned, m < n + 2 ^ 15 ∧ n ≤ m + 2 ^ 15) (arrived : ∀ m, top = some m → m < n + 2 ^ 15)
    {refused : List Nat} : InOrder { s with arrived := n :: s.arrived,refused } := by
  by_cases same : ∃ m, top = some m ∧ ofIndex n = ofIndex m
  · obtain ⟨m,isTop,sameId⟩ := same
    have only : ∀ k, top = some k → k = m := fun k isTop' => Option.some.inj (isTop'.symm.trans isTop)
    have higher : ∀ k, top = some k → k ≤ n := fun k isTop' =>
      not_older (arrived k isTop') (by rw [only k isTop',sameId]; exact not_lt_self _)
    have state := known.state
    rw [isTop,Option.map_some,← sameId] at state
    refine ⟨ns,some n,ready,completed,ordered_arrive known near (.inl ⟨rfl,higher⟩) state ?_ ?_⟩
    · intro tick bytes id isReady
      exact ⟨n,rfl,waiting_arrive known higher (fun k isTop' => by rw [only k isTop',sameId]) isReady⟩
    · intro k isN returned
      obtain rfl : n = k := by simpa using isN
      exact done_arrive known higher returned
  · exact ⟨ns,top,ready,completed,ordered_arrive known near
      (.inr ⟨rfl,fun m isTop sameId => same ⟨m,isTop,sameId⟩⟩) known.state known.waiting known.done⟩

/-- An arrival that is the newest message from now on. -/
private theorem Ordered.accept (known : Ordered s ns top ready completed) {n : Nat}
    (near : ∀ m ∈ s.newest_returned, m < n + 2 ^ 15 ∧ n ≤ m + 2 ^ 15) (arrived : ∀ m, top = some m → m < n + 2 ^ 15)
    {message : ReceiveMessage} {ready' : Option (Tick × Bytes × MessageId)} {time : Option Duration}
    (accepted : Accepted lz4 s.channel message (ofIndex n) ready
      (top.map fun n : Nat => ofIndex n) completed ready' time)
    {refused : List Nat} :
    InOrder { s with channel := (s.channel.buffer_recv lz4 message).1,arrived := n :: s.arrived,refused } := by
  obtain ⟨how,-,-,outcome⟩ := accepted
  have higher : ∀ m, top = some m → m ≤ n := by
    intro m isTop
    rw [isTop] at how
    rcases how with ⟨same,-⟩ | ⟨none,-⟩ | ⟨newest,isNewest,greater,-⟩
    · exact not_older (arrived m isTop) (by rw [← Option.some.inj same]; exact not_lt_self _)
    · cases none
    · obtain rfl : ofIndex m = newest := by simpa using isNewest
      exact (newer_of_gt (arrived m isTop) greater).le
  have done : n ∈ ns → completed = some (ofIndex n) := done_arrive known higher
  have waiting : ∀ tick bytes id, ready' = some (tick,bytes,id) → id = ofIndex n ∧ n ∉ ns ∧ completed = some id := by
    intro tick bytes id isReady
    rcases how with ⟨same,rfl⟩ | ⟨none,rfl⟩ | ⟨newest,-,-,rfl⟩
    · refine waiting_arrive known higher (fun m isTop => ?_) isReady
      rw [isTop] at same
      exact (Option.some.inj same).symm
    · obtain ⟨m,isTop,-⟩ := known.waiting tick bytes id isReady
      simp [isTop] at none
    · cases isReady
  have pending (state : InState (s.channel.buffer_recv lz4 message).1.state ready' (some (ofIndex n)) completed) :
      InOrder { s with channel := (s.channel.buffer_recv lz4 message).1,arrived := n :: s.arrived,refused } := by
    refine ⟨ns,some n,ready',completed,ordered_arrive known near (.inl ⟨rfl,higher⟩) state ?_ ?_⟩
    · exact fun tick bytes id isReady => ⟨n,rfl,waiting tick bytes id isReady⟩
    · rintro k isN returned
      obtain rfl : n = k := by simpa using isN
      exact done returned
  split at outcome
  · exact pending outcome.2
  · exact pending outcome.2
  · refine ⟨ns,some n,_,some (ofIndex n),ordered_arrive known near (.inl ⟨rfl,higher⟩) outcome.2 ?_ ?_⟩
    · intro tick bytes id isReady
      refine ⟨n,rfl,?_⟩
      split at isReady
      · next again =>
        obtain ⟨isId,fresh,-⟩ := waiting tick bytes id isReady
        exact ⟨isId,fresh,by rw [isId]⟩
      · next notDone =>
        simp only [Option.some.injEq,Prod.mk.injEq] at isReady
        exact ⟨isReady.2.2.symm,fun returned => notDone (done returned),by rw [isReady.2.2]⟩
    · rintro k isN -
      obtain rfl : n = k := by simpa using isN
      rfl

private theorem max_of_last {ns : List Nat} (sorted : ns.Pairwise (· < ·)) {last : Nat}
    (isLast : ns.getLast? = some last) :
    ns.max? = some last := by
  obtain ⟨front,rfl⟩ := List.getLast?_eq_some_iff.mp isLast
  rw [List.pairwise_append] at sorted
  rw [List.max?_eq_some_iff]
  refine ⟨List.mem_append_right front List.mem_cons_self,fun k member => ?_⟩
  rcases List.mem_append.mp member with earlier | same
  · exact (sorted.2.2 k earlier last List.mem_cons_self).le
  · exact (List.mem_singleton.mp same).le

/-- The newest message is returned. -/
private theorem Ordered.read (known : Ordered s ns top ready completed) {channel : ChannelReceive}
    (sequenced : InState channel.state none (top.map fun n : Nat => ofIndex n) completed) {n : Nat}
    (isTop : top = some n)
    (fresh : n ∉ ns) (settled : completed = some (ofIndex n)) (bytes : Bytes) :
    Ordered { s with channel,returned := s.returned ++ [⟨s.index (ofIndex n),some (ofIndex n),bytes⟩] } (ns ++ [n])
      top none
      completed := by
  have lower : ∀ k ∈ ns, k < n := by
    intro k returned
    obtain ⟨m,isTop',le⟩ := known.below k returned
    obtain rfl : m = n := Option.some.inj (isTop'.symm.trans isTop)
    exact lt_of_le_of_ne le (fun same => fresh (same ▸ returned))
  have sorted : (ns ++ [n]).Pairwise (· < ·) := by
    rw [List.pairwise_append]
    refine ⟨known.sorted,List.pairwise_singleton _ _,fun k returned m last => ?_⟩
    rw [List.mem_singleton.mp last]
    exact lower k returned
  refine ⟨sequenced,known.recent,by simp,?_,?_,?_,sorted,?_,?_,?_⟩
  · rintro k isTop' -
    obtain rfl : k = n := Option.some.inj (isTop'.symm.trans isTop)
    exact settled
  · simp [known.indices,known.recent n isTop]
  · simp [known.ids]
  · rw [List.isChain_append]
    refine ⟨known.chain,by simp,fun last isLast m isNew => ?_⟩
    obtain rfl : n = m := by simpa using isNew
    have window := known.near n last isTop (max_of_last known.sorted isLast)
    have less := lower last (List.mem_of_getLast? isLast)
    rw [gt_ofIndex (by omega) (by omega)]
    simpa using less
  · intro k member
    rcases List.mem_append.mp member with old | new
    · exact known.below k old
    · exact ⟨n,isTop,(List.mem_singleton.mp new).le⟩
  · intro k m isTop' isMax
    obtain rfl : k = n := Option.some.inj (isTop'.symm.trans isTop)
    obtain rfl : m = k := Option.some.inj (isMax.symm.trans (max_of_last sorted (by simp)))
    omega

theorem ordered_step (known : Ordered s ns top ready completed) {event : Event} {s' : Link}
    (executed : step lz4 config s event = some s') (near : NearReturned s event)
    (recent : Recent s event) : InOrder s' := by
  cases event with
  | Arrive n data tick =>
    simp only [step] at executed
    split at executed
    swap
    · cases executed
    next isId =>
    obtain rfl := Option.some.inj executed
    have arrived : ∀ m, top = some m → m < n + 2 ^ 15 := fun m isTop => recent m (index_mem (known.recent m isTop)).1
    rcases buffer_recv_sequenced known.state lz4 ⟨data,tick,config⟩ isId with refused | ⟨ready',time,accepted⟩
    · rw [refused.unchanged]
      exact known.refuse near arrived
    · exact known.accept near arrived accepted
  | Update now =>
    obtain rfl := Option.some.inj executed
    exact ⟨ns,top,ready,completed,{ known with }⟩
  | Read =>
    obtain ⟨state',read,sequenced⟩ := read_sequenced known.state
    simp only [step,read_message,read] at executed
    cases isReady : ready with
    | none =>
      rw [isReady] at executed
      obtain rfl := Option.some.inj executed
      exact ⟨ns,top,none,completed,{ known with state := sequenced,waiting := by simp }⟩
    | some message =>
      obtain ⟨tick,bytes,id⟩ := message
      rw [isReady] at executed
      obtain rfl := Option.some.inj executed
      obtain ⟨n,isTop,rfl,fresh,settled⟩ := known.waiting tick bytes id isReady
      exact ⟨ns ++ [n],top,none,completed,known.read sequenced isTop fresh settled bytes⟩

theorem ordered_start {mode : ChannelMode}
    (sequenced : mode = .SequencedUnreliable ∨ mode = .SequencedReliable) (fragment_size : Nat)
    (positive : 0 < fragment_size) : Ordered (.start mode fragment_size positive) [] none none none :=
  ⟨sequenced_new sequenced,by simp,by simp,by simp,rfl,rfl,.nil,.nil,by simp,by simp⟩

end Order

/-- The messages that a sequenced channel returns are strictly increasing: in their indices, so that none is
    returned twice or after a newer one, and in their ids. -/
theorem returned_increasing (lz4 : Lz4) (config : CompressionConfig) {mode : ChannelMode}
    (sequenced : mode = .SequencedUnreliable ∨ mode = .SequencedReliable) {fragment_size : Nat}
    (positive : 0 < fragment_size) {s : Link}
    (reached : Runs.Reaches (step lz4 config) (fun s event _ => NearReturned s event ∧ Recent s event)
      (.start mode fragment_size positive) s) :
    ∃ ns : List Nat, s.returned.map (·.index) = ns.map some ∧
      s.returned.map (·.id) = ns.map (fun n : Nat => some (ofIndex n)) ∧ ns.Pairwise (· < ·) ∧
      ns.IsChain fun a b : Nat => (ofIndex b).gt (ofIndex a) = true := by
  obtain ⟨ns,top,ready,completed,known⟩ := reached.invariant InOrder
    ⟨_,_,_,_,ordered_start sequenced fragment_size positive⟩ fun before event after ⟨_,_,_,_,known⟩ executed near =>
      ordered_step known executed near.1 near.2
  exact ⟨ns,known.indices,known.ids,known.sorted,known.chain⟩

theorem returned_increasing_wrap :
    ∃ s, Runs.run (step .literals .LZ4) (fun s event _ => NearReturned s event ∧ Recent s event)
        (.start .SequencedReliable 2 (by decide))
        [.Arrive 65535 (.Single ⟨some (ofIndex 65535),[1]⟩) 0,.Read,
          .Arrive 65536 (.Fragment ⟨ofIndex 65536,0,2,some .None,[1,2]⟩) 0,
          .Arrive 65534 (.Single ⟨some (ofIndex 65534),[1]⟩) 0,
          .Arrive 65536 (.Fragment ⟨ofIndex 65536,1,2,none,[3]⟩) 0,.Read] = some s ∧
      s.returned.map (·.index) = [some 65535,some 65536] ∧
      ∃ ns : List Nat, s.returned.map (·.index) = ns.map some ∧
        s.returned.map (·.id) = ns.map (fun n : Nat => some (ofIndex n)) ∧ ns.Pairwise (· < ·) ∧
        ns.IsChain fun a b : Nat => (ofIndex b).gt (ofIndex a) = true := by
  obtain ⟨s,executed,indices⟩ := Option.map_eq_some_iff.mp (show (Runs.run (step .literals .LZ4)
    (fun s event _ => NearReturned s event ∧ Recent s event) (.start .SequencedReliable 2 (by decide))
    [.Arrive 65535 (.Single ⟨some (ofIndex 65535),[1]⟩) 0,.Read,
      .Arrive 65536 (.Fragment ⟨ofIndex 65536,0,2,some .None,[1,2]⟩) 0,
      .Arrive 65534 (.Single ⟨some (ofIndex 65534),[1]⟩) 0,
      .Arrive 65536 (.Fragment ⟨ofIndex 65536,1,2,none,[3]⟩) 0,.Read]).map (fun s => s.returned.map (·.index)) =
      some [some 65535,some 65536] by decide)
  exact ⟨s,executed,indices,returned_increasing .literals .LZ4 (.inr rfl) (show 0 < 2 by decide)
    (Runs.reaches_of_run .start executed)⟩

/-- A fragment of a message far ahead is not delivered yet but moves `newest_seen`: a message that is
    near the newest one returned, and older, is returned after it. -/
theorem fragment_ahead_breaks_order :
    ((Runs.run (step .literals .LZ4) (fun s event _ => NearReturned s event) (.start .SequencedReliable 2 (by decide))
        [.Arrive 32000 (.Single ⟨some (ofIndex 32000),[1]⟩) 0,.Read,
          .Arrive 64000 (.Fragment ⟨ofIndex 64000,0,2,some .None,[1,2]⟩) 0,
          .Arrive 0 (.Single ⟨some (ofIndex 0),[2]⟩) 0,.Read]).map fun s => s.returned.map (·.index)) =
      some [some 32000,some 0] := by
  decide

end Lightyear.Sequenced
