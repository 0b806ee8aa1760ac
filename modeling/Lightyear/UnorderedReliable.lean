import Lightyear.ReliableLink
import Lightyear.Snoc

/-!
The unordered reliable channel returns every message that arrived once.
-/
namespace Lightyear.UnorderedReliable
open Lightyear.Ids Lightyear.Ids.WrappingId Lightyear.Message Lightyear.Compression Lightyear.Fragments
open Lightyear.Reassembly Lightyear.Receive Lightyear.Receive.ChannelReceive Lightyear.SendReliable
open Lightyear.ReliableLink

/-- Every piece of the message has arrived. -/
def Arrived (lz4 : Lz4) (fragmenter : FragmentSender) (config : CompressionConfig) (arrived : List (Nat × Nat))
    (n : Nat)
    (payload : Bytes) : Prop :=
  ∀ i < pieceCount lz4 fragmenter config (ofIndex n) payload, (n,i) ∈ arrived

/-- The invariant of the receiver. The messages `ns` were returned, `waiting` are ready, and both together are
    those below the cursor and those whose ids are in `received`. -/
structure Deduplicates (lz4 : Lz4) (fragmenter : FragmentSender) (config : CompressionConfig) (buffered : List Bytes)
    (receiver : ChannelReceive) (arrived : List (Nat × Nat)) (returned : List Returned) (ns waiting : List Nat)
    (cursor : Nat) (ready : List (MessageId × Tick × Bytes)) (received : Finset MessageId) : Prop where
  state : receiver.state = .ReliableUnordered (ofIndex cursor) ready received
  size : receiver.fragments.fragment_size = fragmenter.fragment_size
  low : cursor ≤ buffered.length
  distinct : (ns ++ waiting).Nodup
  below : ∀ n < cursor, n ∈ ns ++ waiting
  received : ∀ id, id ∈ received ↔ ∃ n ∈ ns ++ waiting, cursor ≤ n ∧ id = ofIndex n
  stopped : cursor ∈ ns ++ waiting → cursor ∈ waiting
  sound : ∀ r ∈ returned, ∃ n : Nat, r.index = some n ∧ buffered[n]? = some r.bytes
  indices : returned.map (·.index) = ns.map some
  inBuffer : ∀ n ∈ ns ++ waiting, n < buffered.length
  waits : List.Forall₂ (fun message (n : Nat) => message.1 = ofIndex n ∧ buffered[n]? = some message.2.2) ready waiting
  sent : ∀ n i, (n,i) ∈ arrived → n < buffered.length
  only : ∀ id c, receiver.fragments.fragment_messages.lookup id = some c →
    ∃ n : Nat, cursor ≤ n ∧ n < buffered.length ∧ id = ofIndex n ∧ n ∉ ns ++ waiting
  held : ∀ (n : Nat) payload, cursor ≤ n → buffered[n]? = some payload → n ∉ ns ++ waiting →
    ∃ got, Held lz4 fragmenter config receiver.fragments (ofIndex n) payload got ∧ (∀ i, (n,i) ∈ arrived ↔ i ∈ got) ∧
      ¬ Arrived lz4 fragmenter config arrived n payload

section Unordered
variable {lz4 : Lz4} {fragmenter : FragmentSender} {config : CompressionConfig} {buffered : List Bytes}
  {receiver : ChannelReceive} {arrived : List (Nat × Nat)} {returned : List Returned} {ns waiting : List Nat}
  {cursor : Nat} {ready : List (MessageId × Tick × Bytes)} {received : Finset MessageId}

theorem not_returned (indices : returned.map (·.index) = ns.map some) {n : Nat} (unread : n ∉ ns) :
    some n ∉ returned.map (·.index) := by
  rw [indices]
  simpa using unread

/-- The cursor is at an unread message, or behind all of them. -/
theorem span
    (known : Deduplicates lz4 fragmenter config buffered receiver arrived returned ns waiting cursor ready received)
    (few : FewUnread buffered.length returned) : buffered.length < cursor + 2 ^ 15 := by
  rcases Nat.lt_or_ge cursor buffered.length with more | none
  · refine few _ more (not_returned known.indices fun member => ?_)
    have waits := known.stopped (List.mem_append_left _ member)
    exact (List.nodup_append.mp known.distinct).2.2 cursor member cursor waits rfl
  · omega

/-- From the cursor on, messages are told apart by their ids. -/
theorem id_inj
    (known : Deduplicates lz4 fragmenter config buffered receiver arrived returned ns waiting cursor ready received)
    (few : FewUnread buffered.length returned) {a b : Nat} (lowA : cursor ≤ a) (highA : a ≤ buffered.length)
    (lowB : cursor ≤ b) (highB : b ≤ buffered.length) (same : ofIndex a = ofIndex b) : a = b := by
  have := span known few
  have := ofIndex_inj (by omega) (by omega) same
  omega

theorem received_iff
    (known : Deduplicates lz4 fragmenter config buffered receiver arrived returned ns waiting cursor ready received)
    (few : FewUnread buffered.length returned) {n : Nat} (low : cursor ≤ n) (high : n < buffered.length) :
    ofIndex n ∈ received ↔ n ∈ ns ++ waiting := by
  rw [known.received]
  constructor
  · rintro ⟨m,member,lowM,same⟩
    obtain rfl := id_inj known few low high.le lowM (known.inBuffer m member).le same
    exact member
  · intro member
    exact ⟨n,member,low,rfl⟩

private theorem send_deduplicates
    (known : Deduplicates lz4 fragmenter config buffered receiver arrived returned ns waiting cursor ready received)
    (few : FewUnread buffered.length returned) (message : Bytes) :
    Deduplicates lz4 fragmenter config (buffered ++ [message]) receiver arrived returned ns waiting cursor ready
      received := by
  have left : ∀ (n : Nat) payload, buffered[n]? = some payload → (buffered ++ [message])[n]? = some payload :=
    fun n payload inBuffer => by
      rw [List.getElem?_append_left (List.getElem?_eq_some_iff.mp inBuffer).1,inBuffer]
  have longer : (buffered ++ [message]).length = buffered.length + 1 := by simp
  refine {known with low := ?_,sound := ?_,inBuffer := ?_,waits := ?_,sent := ?_,only := ?_,held := ?_}
  · have := known.low
    omega
  · intro r member
    obtain ⟨n,isIndex,inBuffer⟩ := known.sound r member
    exact ⟨n,isIndex,left n _ inBuffer⟩
  · intro n member
    have := known.inBuffer n member
    omega
  · exact known.waits.imp fun m n ⟨named,inBuffer⟩ => ⟨named,left n _ inBuffer⟩
  · intro n i member
    have := known.sent n i member
    omega
  · intro id c stored
    obtain ⟨n,low,high,rest⟩ := known.only id c stored
    exact ⟨n,low,by omega,rest⟩
  · intro n payload low inBuffer unread
    rcases Nat.lt_or_ge n buffered.length with old | new
    · rw [List.getElem?_append_left old] at inBuffer
      exact known.held n payload low inBuffer unread
    · -- The new id is not used from the cursor on, and nothing of the message has arrived.
      have inside := (List.getElem?_eq_some_iff.mp inBuffer).1
      obtain rfl : n = buffered.length := by omega
      have nothing : ∀ i, (buffered.length,i) ∉ arrived := fun i member => by
        have := known.sent _ i member
        omega
      refine ⟨[],held_none ?_,fun i => by simp [nothing i],fun all => ?_⟩
      · cases stored : receiver.fragments.fragment_messages.lookup (ofIndex buffered.length) with
        | none => rfl
        | some c =>
          obtain ⟨m,lowM,highM,same,-⟩ := known.only _ c stored
          have := id_inj known few low le_rfl lowM highM.le same
          omega
      · exact nothing 0 (all 0 pieceCount_pos)

private theorem prepare_deduplicates
    (known : Deduplicates lz4 fragmenter config buffered receiver arrived returned ns waiting cursor ready received)
    (few : FewUnread buffered.length returned) {n : Nat} (inside : n < buffered.length)
    (near : buffered.length < n + 2 ^ 15) :
    receiver.state.prepare_receive (some (ofIndex n)) =
      (receiver.state,.ok (decide (cursor ≤ n ∧ n ∉ ns ++ waiting))) := by
  have := span known few
  have := known.low
  have sub : (ofIndex n).sub (ofIndex cursor) = (n : Int) - cursor := sub_ofIndex (by omega) (by omega)
  have sign : (n : Int) - cursor ≥ 0 ↔ cursor ≤ n := by omega
  rw [known.state]
  simp only [RecvState.prepare_receive,sub,sign,← Bool.decide_and]
  congr 2
  apply decide_eq_decide.mpr
  exact and_congr_right fun low => not_congr (received_iff known few low inside)

/-- An arrival of one message changes nothing for the others. -/
private theorem held_other {n m i : Nat} {payload : Bytes} {receiver' : FragmentReceiver} (different : m ≠ n)
    (same : receiver'.fragment_messages.lookup (ofIndex m) = receiver.fragments.fragment_messages.lookup (ofIndex m))
    (held : ∃ got, Held lz4 fragmenter config receiver.fragments (ofIndex m) payload got ∧
      (∀ i, (m,i) ∈ arrived ↔ i ∈ got) ∧ ¬ Arrived lz4 fragmenter config arrived m payload) :
    ∃ got, Held lz4 fragmenter config receiver' (ofIndex m) payload got ∧ (∀ j, (m,j) ∈ (n,i) :: arrived ↔ j ∈ got) ∧
      ¬ Arrived lz4 fragmenter config ((n,i) :: arrived) m payload := by
  obtain ⟨got,heldM,exactly,missing⟩ := held
  have unchanged : ∀ j, (m,j) ∈ (n,i) :: arrived ↔ (m,j) ∈ arrived := by simp [different]
  refine ⟨got,held_of_lookup_eq heldM same,fun j => (unchanged j).trans (exactly j),fun all => missing fun j low => ?_⟩
  exact (unchanged j).mp (all j low)

/-- A piece of a message that was complete before: nothing is held of it, and nothing changes. -/
private theorem refuse_deduplicates
    (known : Deduplicates lz4 fragmenter config buffered receiver arrived returned ns waiting cursor ready received)
    {n i : Nat} (complete : n ∈ ns ++ waiting) (sent : ∀ m j, (m,j) ∈ (n,i) :: arrived → m < buffered.length) :
    Deduplicates lz4 fragmenter config buffered receiver ((n,i) :: arrived) returned ns waiting cursor ready
      received := by
  refine {known with sent,held := ?_}
  intro m payload low inBuffer unread
  exact held_other (fun same => unread (same ▸ complete)) rfl (known.held m payload low inBuffer unread)

/-- The last piece that was missing of a message: the message is ready, and nothing is held of it any more. -/
private theorem complete_deduplicates
    (known : Deduplicates lz4 fragmenter config buffered receiver arrived returned ns waiting cursor ready received)
    {n i : Nat} {payload : Bytes} {t : Tick} {receiver' : ChannelReceive} (low : cursor ≤ n)
    (inBuffer : buffered[n]? = some payload) (unread : n ∉ ns ++ waiting)
    (different : ∀ m, cursor ≤ m → m < buffered.length → m ≠ n → ofIndex m ≠ ofIndex n)
    (sent : ∀ m j, (m,j) ∈ (n,i) :: arrived → m < buffered.length)
    (state : receiver'.state =
      .ReliableUnordered (ofIndex cursor) (ready ++ [(ofIndex n,t,payload)]) (insert (ofIndex n) received))
    (size : receiver'.fragments.fragment_size = fragmenter.fragment_size)
    (gone : receiver'.fragments.fragment_messages.lookup (ofIndex n) = none)
    (others : ∀ id, id ≠ ofIndex n →
      receiver'.fragments.fragment_messages.lookup id = receiver.fragments.fragment_messages.lookup id) :
    Deduplicates lz4 fragmenter config buffered receiver' ((n,i) :: arrived) returned ns (waiting ++ [n]) cursor
      (ready ++ [(ofIndex n,t,payload)]) (insert (ofIndex n) received) := by
  refine {known with
    state,size,distinct := ?_,below := ?_,received := ?_,stopped := ?_,inBuffer := ?_,waits := ?_,sent,only := ?_,
    held := ?_}
  · rw [← List.append_assoc]
    exact Snoc.nodup_snoc known.distinct unread
  · intro m less
    rw [← List.append_assoc]
    exact List.mem_append_left _ (known.below m less)
  · intro id
    rw [Finset.mem_insert,known.received,← List.append_assoc]
    constructor
    · rintro (rfl | ⟨m,member,lowM,rfl⟩)
      · exact ⟨n,by simp,low,rfl⟩
      · exact ⟨m,List.mem_append_left _ member,lowM,rfl⟩
    · rintro ⟨m,member,lowM,rfl⟩
      rcases List.mem_append.mp member with old | new
      · exact .inr ⟨m,old,lowM,rfl⟩
      · exact .inl (by rw [List.mem_singleton.mp new])
  · intro member
    rw [← List.append_assoc] at member
    rcases List.mem_append.mp member with old | new
    · exact List.mem_append_left _ (known.stopped old)
    · exact List.mem_append_right _ new
  · intro m member
    rw [← List.append_assoc] at member
    rcases List.mem_append.mp member with old | new
    · exact known.inBuffer m old
    · rw [List.mem_singleton.mp new]
      exact (List.getElem?_eq_some_iff.mp inBuffer).1
  · exact List.rel_append known.waits (.cons ⟨rfl,inBuffer⟩ .nil)
  · intro id c stored
    have notN : id ≠ ofIndex n := by
      rintro rfl
      simp [gone] at stored
    rw [others id notN] at stored
    obtain ⟨m,lowM,highM,rfl,unreadM⟩ := known.only id c stored
    refine ⟨m,lowM,highM,rfl,?_⟩
    rw [← List.append_assoc,List.mem_append,not_or]
    exact ⟨unreadM,fun last => notN (by rw [List.mem_singleton.mp last])⟩
  · intro m payloadM lowM inBufferM unreadM
    rw [← List.append_assoc,List.mem_append,not_or] at unreadM
    have notN : m ≠ n := fun same => unreadM.2 (by simp [same])
    exact held_other notN (others _ (different m lowM (List.getElem?_eq_some_iff.mp inBufferM).1 notN))
      (known.held m payloadM lowM inBufferM unreadM.1)

/-- A piece of a message of which others are missing: it is held. -/
private theorem keep_deduplicates
    (known : Deduplicates lz4 fragmenter config buffered receiver arrived returned ns waiting cursor ready received)
    {n i : Nat} {payload : Bytes} {receiver' : ChannelReceive} (low : cursor ≤ n)
    (inBuffer : buffered[n]? = some payload) (unread : n ∉ ns ++ waiting)
    (different : ∀ m, cursor ≤ m → m < buffered.length → m ≠ n → ofIndex m ≠ ofIndex n)
    (sent : ∀ m j, (m,j) ∈ (n,i) :: arrived → m < buffered.length)
    (state : receiver'.state = .ReliableUnordered (ofIndex cursor) ready received)
    (size : receiver'.fragments.fragment_size = fragmenter.fragment_size)
    (held : ∃ got, Held lz4 fragmenter config receiver'.fragments (ofIndex n) payload got ∧
      (∀ j, (n,j) ∈ (n,i) :: arrived ↔ j ∈ got) ∧ ¬ Arrived lz4 fragmenter config ((n,i) :: arrived) n payload)
    (others : ∀ id, id ≠ ofIndex n →
      receiver'.fragments.fragment_messages.lookup id = receiver.fragments.fragment_messages.lookup id) :
    Deduplicates lz4 fragmenter config buffered receiver' ((n,i) :: arrived) returned ns waiting cursor ready
      received := by
  refine {known with state,size,sent,only := ?_,held := ?_}
  · intro id c stored
    by_cases same : id = ofIndex n
    · exact ⟨n,low,(List.getElem?_eq_some_iff.mp inBuffer).1,same,unread⟩
    · rw [others id same] at stored
      exact known.only id c stored
  · intro m payloadM lowM inBufferM unreadM
    by_cases same : m = n
    · subst same
      obtain rfl := Option.some.inj (inBuffer.symm.trans inBufferM)
      exact held
    · exact held_other same (others _ (different m lowM (List.getElem?_eq_some_iff.mp inBufferM).1 same))
        (known.held m payloadM lowM inBufferM unreadM)

private theorem deliver_deduplicates (inverts : lz4.Inverts)
    (known : Deduplicates lz4 fragmenter config buffered receiver arrived returned ns waiting cursor ready received)
    (few : FewUnread buffered.length returned) {n : Nat} {data : MessageData} {payload : Bytes} (tick : Tick)
    (inBuffer : buffered[n]? = some payload) (fits : payload.length ≤ isize_max)
    (isWire : data ∈ wire lz4 fragmenter config (ofIndex n) payload) (near : buffered.length < n + 2 ^ 15) :
    ∃ waiting' ready' received', Deduplicates lz4 fragmenter config buffered
      (receiver.buffer_recv lz4 ⟨data,tick,config⟩).1 ((n,pieceIndex data) :: arrived) returned ns
      waiting' cursor ready' received' := by
  have inside := (List.getElem?_eq_some_iff.mp inBuffer).1
  have isId := wire_message_id isWire
  have prepared := prepare_deduplicates known few inside near
  have sent : ∀ m i, (m,i) ∈ (n,pieceIndex data) :: arrived → m < buffered.length := by
    intro m i member
    rcases List.mem_cons.mp member with same | old
    · rw [(Prod.mk.inj same).1]
      exact inside
    · exact known.sent m i old
  by_cases accepted : cursor ≤ n ∧ n ∉ ns ++ waiting
  swap
  · have complete : n ∈ ns ++ waiting := by
      by_contra unread
      exact unread (known.below n (by by_contra high; exact accepted ⟨by omega,unread⟩))
    rw [decide_eq_false accepted] at prepared
    rw [buffer_recv_refused (by rw [isId,prepared])]
    exact ⟨waiting,ready,received,refuse_deduplicates known complete sent⟩
  obtain ⟨low,unread⟩ := accepted
  rw [decide_eq_true ⟨low,unread⟩] at prepared
  obtain ⟨got,held,exactly,-⟩ := known.held n payload low inBuffer unread
  obtain ⟨completed,got',answered,held',outcome⟩ := assemble_wire inverts fits known.size held isWire tick
    (if receiver.state.expires_fragments then some receiver.current_time else none)
  have isData : (⟨data,tick,config⟩ : ReceiveMessage).data.message_id = some (ofIndex n) := isId
  rw [buffer_recv_accepted (by rw [isData,prepared]) answered]
  have others : ∀ id, id ≠ ofIndex n → (assemble lz4 receiver.fragments
      (if receiver.state.expires_fragments then some receiver.current_time else none)
      ⟨data,tick,config⟩).1.fragment_messages.lookup id = receiver.fragments.fragment_messages.lookup id :=
    fun id different => assemble_other lz4 _ _ isData different
  have different : ∀ m, cursor ≤ m → m < buffered.length → m ≠ n → ofIndex m ≠ ofIndex n :=
    fun m lowM highM other same => other (id_inj known few lowM highM.le low inside.le same)
  have size := (assemble_size lz4 receiver.fragments
    (if receiver.state.expires_fragments then some receiver.current_time else none) ⟨data,tick,config⟩).trans known.size
  rcases outcome with ⟨⟨t,rfl⟩,rfl,-⟩ | ⟨rfl,more,j,lowJ,missing⟩
  · refine ⟨_,_,_,complete_deduplicates (t := t) known low inBuffer unread different sent ?_ size
      (lookup_of_held held') others⟩
    simp only [known.state,isData,pushed,RecvState.push_completed]
  · have pieces : ∀ i, (n,i) ∈ (n,pieceIndex data) :: arrived ↔ i ∈ pieceIndex data :: got := by
      intro i
      simp only [List.mem_cons,Prod.mk.injEq,true_and,exactly]
    refine ⟨_,_,_,keep_deduplicates known low inBuffer unread different sent known.state size ⟨got',held',?_,?_⟩ others⟩
    · exact fun i => (pieces i).trans (more i).symm
    · exact fun all => missing ((pieces j).mp (all j lowJ))

/-- The loop of `read_message` moves the cursor over the messages in `all` that follow it. -/
private theorem skip_received_index {count : Nat} {all : List Nat} (inCount : ∀ n ∈ all, n < count) (rounds : Nat)
    (near : count < cursor + 2 ^ 15) (known : ∀ id, id ∈ received ↔ ∃ n ∈ all, cursor ≤ n ∧ id = ofIndex n) :
    ∃ cursor', cursor ≤ cursor' ∧ (∀ n, cursor ≤ n → n < cursor' → n ∈ all) ∧
      (RecvState.skip_received rounds (ofIndex cursor) received).1 = ofIndex cursor' ∧
      ∀ id, id ∈ (RecvState.skip_received rounds (ofIndex cursor) received).2 ↔
        ∃ n ∈ all, cursor' ≤ n ∧ id = ofIndex n := by
  induction rounds generalizing cursor received with
  | zero => exact ⟨cursor,le_rfl,by omega,rfl,known⟩
  | succ rounds ih =>
    unfold RecvState.skip_received
    by_cases present : ofIndex cursor ∈ received
    swap
    · rw [if_neg present]
      exact ⟨cursor,le_rfl,by omega,rfl,known⟩
    rw [if_pos present,add_assign_ofIndex]
    have apart : ∀ n ∈ all, cursor ≤ n → ofIndex n = ofIndex cursor → n = cursor := by
      intro n member low same
      have := inCount n member
      have := ofIndex_inj (by omega) (by omega) same
      omega
    have here : cursor ∈ all := by
      obtain ⟨n,member,low,same⟩ := (known _).mp present
      exact apart n member low same.symm ▸ member
    have next : ∀ id, id ∈ received.erase (ofIndex cursor) ↔ ∃ n ∈ all, cursor + 1 ≤ n ∧ id = ofIndex n := by
      intro id
      rw [Finset.mem_erase,known]
      constructor
      · rintro ⟨other,n,member,low,rfl⟩
        have : n ≠ cursor := fun same => other (by rw [same])
        exact ⟨n,member,by omega,rfl⟩
      · rintro ⟨n,member,low,rfl⟩
        refine ⟨fun same => ?_,n,member,by omega,rfl⟩
        have := apart n member (by omega) same
        omega
    obtain ⟨cursor',low,skipped,stops,rest⟩ := @ih (cursor + 1) _ (by omega) next
    push_cast at stops rest
    refine ⟨cursor',by omega,fun n lowN less => ?_,stops,rest⟩
    rcases Nat.eq_or_lt_of_le lowN with rfl | later
    · exact here
    · exact skipped n later less

private theorem read_deduplicates
    (known : Deduplicates lz4 fragmenter config buffered receiver arrived returned ns waiting cursor ready received)
    (few : FewUnread buffered.length returned) :
    ∃ ns' waiting' cursor' ready' received', Deduplicates lz4 fragmenter config buffered receiver.read_message.1 arrived
      (note buffered.length returned receiver.read_message.2) ns' waiting' cursor' ready' received' := by
  have isState := known.state
  simp only [read_message,isState,RecvState.read_message]
  have waits := known.waits
  cases waits with
  | nil =>
    exact ⟨ns,[],cursor,[],received,{known with state := rfl,waits := .nil}⟩
  | @cons message n ready' waiting' first rest =>
    obtain ⟨id,tick,bytes⟩ := message
    obtain ⟨rfl,inBuffer⟩ : id = ofIndex n ∧ buffered[n]? = some bytes := first
    -- The message moves from `waiting` to `ns`, and all that speaks of both together stays.
    have split : ns ++ n :: waiting' = ns ++ [n] ++ waiting' := List.append_cons ns n waiting'
    have member : n ∈ ns ++ n :: waiting' := by simp
    have inside := known.inBuffer n member
    have unread : n ∉ ns := fun old =>
      (List.nodup_append.mp known.distinct).2.2 n old n (by simp) rfl
    have nearN := few n inside (not_returned known.indices unread)
    have nearCursor := span known few
    have low := known.low
    have isLatest : latest buffered.length (ofIndex n) = some n := latest_eq inside (by omega)
    have sound : ∀ r ∈ returned ++ [(⟨some n,some (ofIndex n),bytes⟩ : Returned)],
        ∃ m : Nat, r.index = some m ∧ buffered[m]? = some r.bytes := by
      intro r isReturned
      rcases List.mem_append.mp isReturned with old | new
      · exact known.sound r old
      · obtain rfl := List.mem_singleton.mp new
        exact ⟨n,rfl,inBuffer⟩
    have indices : (returned ++ [(⟨some n,some (ofIndex n),bytes⟩ : Returned)]).map (·.index) =
        (ns ++ [n]).map some := by
      simp [known.indices]
    simp only [note,Option.bind_some,isLatest]
    by_cases atCursor : ofIndex (cursor : Int) = ofIndex n
    · have same : cursor = n := by
        have := ofIndex_inj (by omega) (by omega) atCursor
        omega
      obtain ⟨cursor',further,skipped,stops,kept⟩ := skip_received_index known.inBuffer received.card
        nearCursor known.received
      have stopped : cursor' ∉ ns ++ n :: waiting' := by
        intro complete
        have ends : (RecvState.skip_received received.card (ofIndex cursor) received).1 ∉
            (RecvState.skip_received received.card (ofIndex cursor) received).2 := skip_received_stops le_rfl
        apply ends
        rw [stops]
        exact (kept _).mpr ⟨cursor',complete,le_rfl,rfl⟩
      subst same
      simp only [↓reduceIte]
      rw [stops]
      refine ⟨ns ++ [cursor],waiting',cursor',ready',_,{known with
        state := rfl,low := ?_,distinct := split ▸ known.distinct,below := ?_,received := split ▸ kept,
        stopped := ?_,sound,indices,inBuffer := split ▸ known.inBuffer,waits := rest,only := ?_,held := ?_}⟩
      · by_contra beyond
        have := known.inBuffer _ (skipped buffered.length low (by omega))
        omega
      · intro m less
        rw [← split]
        rcases Nat.lt_or_ge m cursor with before | after
        · exact known.below m before
        · exact skipped m after less
      · intro complete
        exact absurd (split ▸ complete) stopped
      · intro id c stored
        obtain ⟨m,lowM,highM,named,unreadM⟩ := known.only id c stored
        rw [← split]
        exact ⟨m,by by_contra less; exact unreadM (skipped m lowM (by omega)),highM,named,unreadM⟩
      · intro m payload lowM inBufferM unreadM
        rw [← split] at unreadM
        exact known.held m payload (by omega) inBufferM unreadM
    · simp only [atCursor,↓reduceIte]
      refine ⟨ns ++ [n],waiting',cursor,ready',received,{known with
        state := rfl,distinct := split ▸ known.distinct,below := split ▸ known.below,received := split ▸ known.received,
        stopped := ?_,sound,indices,inBuffer := split ▸ known.inBuffer,waits := rest,only := split ▸ known.only,
        held := split ▸ known.held}⟩
      intro complete
      have waitsAt := known.stopped (split ▸ complete)
      rcases List.mem_cons.mp waitsAt with same | later
      · exact absurd (by rw [same]) atCursor
      · exact later

end Unordered

private theorem exists_of_waiting {α β : Type} {related : α → β → Prop} {as : List α} {bs : List β}
    (both : List.Forall₂ related as bs) {b : β} (member : b ∈ bs) : ∃ a ∈ as, related a b := by
  induction both with
  | nil => cases member
  | cons first _ ih =>
    rcases List.mem_cons.mp member with rfl | later
    · exact ⟨_,List.mem_cons_self,first⟩
    · obtain ⟨a,inside,here⟩ := ih later
      exact ⟨a,List.mem_cons_of_mem _ inside,here⟩

/-- The invariant with its data left out. -/
def DeduplicatesSome (lz4 : Lz4) (fragmenter : FragmentSender) (config : CompressionConfig) (buffered : List Bytes)
    (receiver : ChannelReceive) (arrived : List (Nat × Nat)) (returned : List Returned) : Prop :=
  ∃ ns waiting cursor ready received,
    Deduplicates lz4 fragmenter config buffered receiver arrived returned ns waiting cursor ready received

theorem deduplicates_maintained {lz4 : Lz4} (inverts : lz4.Inverts) (fragmenter : FragmentSender)
    (config : CompressionConfig) :
    Maintained lz4 fragmenter config .UnorderedReliable (DeduplicatesSome lz4 fragmenter config) where
  start := ⟨[],[],0,[],∅,⟨rfl,rfl,le_rfl,by simp,by simp,by simp,by simp,by simp,rfl,by simp,.nil,by simp,
    by simp [ChannelReceive.new,FragmentReceiver.new],by simp⟩⟩
  send _ _ _ _ message := fun ⟨_,_,_,_,_,known⟩ few => ⟨_,_,_,_,_,send_deduplicates known few message⟩
  deliver _ _ _ _ _ _ _ tick := fun ⟨_,_,_,_,_,known⟩ few inBuffer fits isWire near => by
    obtain ⟨_,_,_,kept⟩ := deliver_deduplicates inverts known few tick inBuffer fits isWire near
    exact ⟨_,_,_,_,_,kept⟩
  update _ receiver _ _ now := fun ⟨_,_,_,_,_,known⟩ => by
    have fragments : (receiver.update now).fragments = receiver.fragments := by
      simp [ChannelReceive.update,known.state,RecvState.expires_fragments]
    exact ⟨_,_,_,_,_,{known with
      size := fragments ▸ known.size,only := fragments ▸ known.only,held := fragments ▸ known.held}⟩
  read _ _ _ _ := fun ⟨_,_,_,_,_,known⟩ few => read_deduplicates known few

/-- The message with this id and payload is ready to be read. -/
def Ready (receiver : ChannelReceive) (id : MessageId) (payload : Bytes) : Prop :=
  ∃ pending ready received tick, receiver.state = .ReliableUnordered pending ready received ∧ (id,tick,payload) ∈ ready

/-- In every run whose outstanding ids are in a window of fewer than `2^15`, what is returned was buffered, no message
    is returned twice, and a message whose pieces have all arrived was returned or is ready. -/
theorem returned_once {lz4 : Lz4} (inverts : lz4.Inverts) (fragmenter : FragmentSender) (config : CompressionConfig)
    (settings : ReliableSettings) {s : Link}
    (reached : Runs.Reaches (step lz4 fragmenter config) (fun _ _ after => FewOutstanding after)
      (.start settings .UnorderedReliable fragmenter) s) :
    (∀ r ∈ s.returned, ∃ n : Nat, r.index = some n ∧ s.buffered[n]? = some r.bytes) ∧
    (s.returned.map (·.index)).Nodup ∧
    ∀ n payload, s.buffered[n]? = some payload → Arrived lz4 fragmenter config s.arrived n payload →
      some n ∈ s.returned.map (·.index) ∨ Ready s.receiver (ofIndex n) payload := by
  obtain ⟨-,-,ns,waiting,cursor,ready,received,known⟩ :=
    (deduplicates_maintained inverts fragmenter config).reaches reached
  refine ⟨known.sound,?_,fun n payload inBuffer all => ?_⟩
  · rw [known.indices]
    exact (List.nodup_append.mp known.distinct).1.map (Option.some_injective _)
  · have complete : n ∈ ns ++ waiting := by
      by_contra unread
      rcases Nat.lt_or_ge n cursor with below | above
      · exact unread (known.below n below)
      · obtain ⟨got,-,-,missing⟩ := known.held n payload above inBuffer unread
        exact missing all
    rcases List.mem_append.mp complete with old | waits
    · left
      rw [known.indices]
      exact List.mem_map_of_mem old
    · right
      obtain ⟨message,isReady,named,inBuffer'⟩ := exists_of_waiting known.waits waits
      obtain rfl := Option.some.inj (inBuffer.symm.trans inBuffer')
      exact ⟨_,_,_,message.2.1,known.state,named ▸ isReady⟩

theorem returned_once_duplicated :
    ∃ s, Runs.run (step .literals ⟨2,by decide⟩ .LZ4) (fun _ _ after => FewOutstanding after)
        (.start ⟨fun _ => 5⟩ .UnorderedReliable ⟨2,by decide⟩)
        [.Send [1],.Send [2,3,4],.Transmit 0 0,.Transmit 0 0,.Transmit 0 0,.Deliver 1 0,.Deliver 0 0,.Read,.Deliver 1 0,
          .Deliver 0 0,.Deliver 2 0,.Lose 0,.Deliver 0 0,.Read,.Deliver 1 0,.Read] = some s ∧
      s.returned.map (·.index) = [some 1,some 0] ∧
      (∀ r ∈ s.returned, ∃ n : Nat, r.index = some n ∧ s.buffered[n]? = some r.bytes) ∧
      (s.returned.map (·.index)).Nodup ∧
      ∀ n payload, s.buffered[n]? = some payload → Arrived .literals ⟨2,by decide⟩ .LZ4 s.arrived n payload →
        some n ∈ s.returned.map (·.index) ∨ Ready s.receiver (ofIndex n) payload := by
  obtain ⟨s,executed,indices⟩ := Option.map_eq_some_iff.mp (show (Runs.run (step .literals ⟨2,by decide⟩ .LZ4)
    (fun _ _ after => FewOutstanding after) (.start ⟨fun _ => 5⟩ .UnorderedReliable ⟨2,by decide⟩)
    [.Send [1],.Send [2,3,4],.Transmit 0 0,.Transmit 0 0,.Transmit 0 0,.Deliver 1 0,.Deliver 0 0,.Read,.Deliver 1 0,
      .Deliver 0 0,.Deliver 2 0,.Lose 0,.Deliver 0 0,.Read,.Deliver 1 0,.Read]).map
      (fun s => s.returned.map (·.index)) = some [some 1,some 0] by decide)
  exact ⟨s,executed,indices,returned_once literals_inverts ⟨2,by decide⟩ .LZ4 ⟨fun _ => 5⟩
    (Runs.reaches_of_run .start executed)⟩

/-- A message is outstanding while the sender keeps it, a copy of it is in the network, or it is not returned. -/
def Outstanding (s : Link) (n : Nat) : Prop :=
  n < s.buffered.length ∧
    ((∃ id pending, s.sender.pending.lookup id = some pending ∧ pending.send_order = n) ∨ n ∈ s.network.map Prod.fst ∨
      some n ∉ s.returned.map (·.index))

/-- Fewer than `2^15` messages are outstanding. -/
def FewAtOnce (s : Link) : Prop := {n | Outstanding s n}.ncard < 2 ^ 15

section Overtaken

private abbrev oneByte : FragmentSender := ⟨2,by decide⟩

private abbrev Overtakes (s : Link) : Prop :=
  Runs.Reaches (step .literals oneByte .LZ4) (fun _ _ after => FewAtOnce after)
    (.start ⟨fun _ => 5⟩ .UnorderedReliable oneByte) s

variable {s : Link} {k : Nat}

/-- The packet of the first message was lost, and the `k` messages after it are done with. -/
private structure Lagging (k : Nat) (s : Link) : Prop where
  reached : Overtakes s
  settings : s.sender.settings = ⟨fun _ => 5⟩
  next : s.sender.next_message_id = ofIndex (k + 1 : Nat)
  order : s.sender.next_send_order = k + 1
  pending : ∀ id,s.sender.pending.lookup id = if id = ofIndex 0 then some ⟨.Single [1] (some 0),0⟩ else none
  network : s.network = []
  buffered : s.buffered.length = k + 1
  state : ∃ received,s.receiver.state = .ReliableUnordered (ofIndex 0) [] received ∧
    ∀ id ∈ received,∃ n : Nat,0 < n ∧ n ≤ k ∧ id = ofIndex n
  returned : ∀ n,some n ∈ s.returned.map (·.index) ↔ 0 < n ∧ n ≤ k

/-- Two messages at most are outstanding. -/
private theorem few {n : Nat} (pending : ∀ id pending,s.sender.pending.lookup id = some pending →
      pending.send_order = 0 ∨ pending.send_order = n)
    (network : ∀ message ∈ s.network,message.1 = 0 ∨ message.1 = n) (buffered : s.buffered.length ≤ n + 1)
    (returned : ∀ m,0 < m → m < n → some m ∈ s.returned.map (·.index)) : FewAtOnce s := by
  have two : {m | Outstanding s m} ⊆ {0,n} := by
    rintro m ⟨inside,kept | inFlight | unread⟩
    · obtain ⟨id,entry,stored,rfl⟩ := kept
      exact pending id entry stored
    · obtain ⟨message,member,rfl⟩ := List.mem_map.mp inFlight
      exact network message member
    · by_contra other
      simp only [Set.mem_insert_iff,Set.mem_singleton_iff,not_or] at other
      exact unread (returned m (by omega) (by omega))
  calc {m | Outstanding s m}.ncard ≤ ({0,n} : Set Nat).ncard := Set.ncard_le_ncard two (Set.toFinite _)
    _ ≤ 2 := (Set.ncard_insert_le _ _).trans (by simp)
    _ < 2 ^ 15 := by decide

private theorem two_pending {first second : UnackedMessage} {a b : Nat} {id : MessageId}
    (pending : ∀ other,s.sender.pending.lookup other =
      if other = id then some ⟨second,b⟩ else if other = ofIndex 0 then some ⟨first,a⟩ else none) :
    ∀ id entry,s.sender.pending.lookup id = some entry → entry.send_order = a ∨ entry.send_order = b := by
  intro other entry stored
  rw [pending] at stored
  split at stored
  · exact .inr (by cases stored; rfl)
  · split at stored
    · exact .inl (by cases stored; rfl)
    · cases stored

/-- The message after them is in the network. -/
private structure Flying (k : Nat) (s : Link) : Prop where
  reached : Overtakes s
  settings : s.sender.settings = ⟨fun _ => 5⟩
  next : s.sender.next_message_id = ofIndex (k + 2 : Nat)
  order : s.sender.next_send_order = k + 2
  pending : ∀ id,s.sender.pending.lookup id =
    if id = ofIndex (k + 1 : Nat) then some ⟨.Single [1] (some 0),k + 1⟩
    else if id = ofIndex 0 then some ⟨.Single [1] (some 0),0⟩ else none
  network : s.network = [(k + 1,.Single ⟨some (ofIndex (k + 1 : Nat)),[1]⟩)]
  buffered : s.buffered.length = k + 2
  last : s.buffered[k + 1]? = some [1]
  state : ∃ received,s.receiver.state = .ReliableUnordered (ofIndex 0) [] received ∧
    ∀ id ∈ received,∃ n : Nat,0 < n ∧ n ≤ k ∧ id = ofIndex n
  returned : ∀ n,some n ∈ s.returned.map (·.index) ↔ 0 < n ∧ n ≤ k

private theorem Lagging.send (lagging : Lagging k s) (room : k < 2 ^ 15) : ∃ after,Flying k after := by
  obtain ⟨reached,settings,next,order,pending,network,buffered,state,returned⟩ := lagging
  obtain ⟨⟨_,pendings,_,_,rtt,time⟩,_,receiver,messages,arrived,returns⟩ := s
  dsimp only at settings next order pending network buffered state returned
  subst settings next order network
  -- the sender keeps the message under the next id
  have sends : step .literals oneByte .LZ4
      ⟨⟨⟨fun _ => 5⟩,pendings,ofIndex (k + 1 : Nat),k + 1,rtt,time⟩,[],receiver,messages,arrived,returns⟩ (.Send [1]) =
      some ⟨⟨⟨fun _ => 5⟩,pendings.insert (ofIndex (k + 1 : Nat)) ⟨.Single [1] none,k + 1⟩,ofIndex (k + 2 : Nat),k + 2,
        rtt,time⟩,[],
        receiver,messages ++ [[1]],arrived,returns⟩ := by
    have few : ¬2 ^ 64 ≤ k + 1 + 1 := by omega
    have small : ReliableSendState.unacked .literals oneByte (ofIndex (k + 1 : Nat)) [1] .LZ4 =
        some (.Single [1] none) := rfl
    have after : (ofIndex (k + 1 : Nat)).add_assign 1 = ofIndex (k + 2 : Nat) := add_assign_ofIndex _ 1
    simp only [step,ReliableSendState.buffer_send,small,after]
    rw [if_neg (by decide),if_neg few]
    rfl
  let sent : Link := ⟨⟨⟨fun _ => 5⟩,pendings.insert (ofIndex (k + 1 : Nat)) ⟨.Single [1] none,k + 1⟩,
    ofIndex (k + 2 : Nat),k + 2,rtt,
    time⟩,[],receiver,messages ++ [[1]],arrived,returns⟩
  have other : ofIndex (k + 1 : Nat) ≠ ofIndex 0 := fun same => by
    have := ofIndex_inj (by omega) (by omega) same
    omega
  have kept (id : MessageId) : sent.sender.pending.lookup id =
      if id = ofIndex (k + 1 : Nat) then some ⟨.Single [1] none,k + 1⟩
      else if id = ofIndex 0 then some ⟨.Single [1] (some 0),0⟩ else none := by
    rw [Maps.lookup_insert_ite,pending]
  have length : sent.buffered.length = k + 2 := by rw [List.length_append,buffered]; rfl
  have last : sent.buffered[k + 1]? = some [1] := by
    rw [List.getElem?_append_right buffered.le,buffered,Nat.sub_self]
    rfl
  have done (n : Nat) (low : 0 < n) (high : n < k + 1) : some n ∈ sent.returned.map (·.index) :=
    (returned n).mpr ⟨low,by omega⟩
  have reachedSent : Overtakes sent := by
    exact reached.step _ sends (few (two_pending kept) (fun _ member => absurd member List.not_mem_nil) length.le done)
  -- it is a candidate
  have candidate : (⟨.ReliableSingle (ofIndex (k + 1 : Nat)),k + 1,
    .Single ⟨some (ofIndex (k + 1 : Nat)),[1]⟩⟩ : SendCandidate) ∈
      sent.sender.collect_candidates := by
    refine List.mem_flatMap.mpr ⟨⟨ofIndex (k + 1 : Nat),⟨.Single [1] none,k + 1⟩⟩,?_,?_⟩
    · exact (Maps.lookup_eq_some_iff _ _ _).mp (by rw [kept,if_pos rfl])
    · simp [ReliableSendState.candidates,ReliableSendState.should_send]
  obtain ⟨index,isCandidate⟩ := List.getElem?_of_mem candidate
  have transmits : step .literals oneByte .LZ4 sent (.Transmit index 0) = some {sent with
      sender := {sent.sender with
        pending := sent.sender.pending.insert (ofIndex (k + 1 : Nat)) ⟨.Single [1] (some 0),k + 1⟩}
      network := [(k + 1,.Single ⟨some (ofIndex (k + 1 : Nat)),[1]⟩)]} := by
    have stored := kept (ofIndex (k + 1 : Nat))
    rw [if_pos rfl] at stored
    simp only [step,isCandidate,Option.map_some,ReliableSendState.commit_send,stored]
    rfl
  have committed (id : MessageId) :
    (sent.sender.pending.insert (ofIndex (k + 1 : Nat)) ⟨.Single [1] (some 0),k + 1⟩).lookup id =
      if id = ofIndex (k + 1 : Nat) then some ⟨.Single [1] (some 0),k + 1⟩
      else if id = ofIndex 0 then some ⟨.Single [1] (some 0),0⟩ else none := by
    rw [Maps.lookup_insert_ite,kept]
    split <;> rfl
  refine ⟨_,reachedSent.step _ transmits (few (two_pending committed) ?_ length.le done),rfl,rfl,rfl,committed,rfl,
    length,last,
    state,returned⟩
  intro message member
  exact .inr (by rw [List.mem_singleton.mp member])

private theorem Flying.settle (flying : Flying k s) (room : k + 1 < 2 ^ 15) : ∃ after,Lagging (k + 1) after := by
  obtain ⟨reached,settings,next,order,pending,network,buffered,-,⟨received,state,old⟩,returned⟩ := flying
  obtain ⟨sender,_,⟨fragments,now,_⟩,messages,arrived,returns⟩ := s
  dsimp only at settings next order pending network buffered state returned
  subst network state
  have other : ofIndex 0 ≠ ofIndex (k + 1 : Nat) := fun same => by
    have := ofIndex_inj (by omega) (by omega) same
    omega
  have fresh : ofIndex (k + 1 : Nat) ∉ received := by
    intro member
    obtain ⟨n,low,high,same⟩ := old _ member
    have := ofIndex_inj (by omega) (by omega) same
    omega
  let lost : Link := ⟨sender,[],⟨fragments,now,.ReliableUnordered (ofIndex 0) [(ofIndex (k + 1 : Nat),0,[1])]
    (insert (ofIndex (k + 1 : Nat)) received)⟩,messages,(k + 1,0) :: arrived,returns⟩
  let read : Link := ⟨sender,[],
    ⟨fragments,now,.ReliableUnordered (ofIndex 0) [] (insert (ofIndex (k + 1 : Nat)) received)⟩,messages,
    (k + 1,0) :: arrived,returns ++ [⟨some (k + 1),some (ofIndex (k + 1 : Nat)),[1]⟩]⟩
  -- its id is after that of the first message, so that the message is accepted
  have delivers : step .literals oneByte .LZ4 ⟨sender,[(k + 1,.Single ⟨some (ofIndex (k + 1 : Nat)),[1]⟩)],
      ⟨fragments,now,.ReliableUnordered (ofIndex 0) [] received⟩,messages,arrived,returns⟩ (.Deliver 0 0) =
      some {lost with network := [(k + 1,.Single ⟨some (ofIndex (k + 1 : Nat)),[1]⟩)]} := by
    have distance : (ofIndex (k + 1 : Nat)).sub (ofIndex 0) = (k + 1 : Nat) - 0 := sub_ofIndex (by omega) (by omega)
    have prepared : (RecvState.ReliableUnordered (ofIndex 0) [] received).prepare_receive
      (some (ofIndex (k + 1 : Nat))) =
        (.ReliableUnordered (ofIndex 0) [] received,.ok true) := by
      simp only [RecvState.prepare_receive,distance,fresh,not_false_eq_true,decide_true,Bool.and_true]
      rw [decide_eq_true (by omega)]
    simp only [step,List.getElem?_cons_zero,Option.map_some,ChannelReceive.buffer_recv,MessageData.message_id,prepared]
    rfl
  have reads : step .literals oneByte .LZ4 lost .Read = some read := by
    have isLatest : latest messages.length (ofIndex (k + 1 : Nat)) = some (k + 1) := latest_eq (by omega) (by omega)
    simp only [step,lost,ChannelReceive.read_message,RecvState.read_message,if_neg other,note,Option.bind_some,isLatest]
    rfl
  have acks : step .literals oneByte .LZ4 read (.Ack ⟨ofIndex (k + 1 : Nat),none⟩) =
      some {read with sender := {sender with pending := sender.pending.erase (ofIndex (k + 1 : Nat))}} := by
    have stored := pending (ofIndex (k + 1 : Nat))
    rw [if_pos rfl] at stored
    simp only [step,read,ReliableSendState.receive_ack,stored]
    rfl
  have erased (id : MessageId) : (sender.pending.erase (ofIndex (k + 1 : Nat))).lookup id =
      if id = ofIndex 0 then some ⟨.Single [1] (some 0),0⟩ else none := by
    rw [Maps.lookup_erase_ite,pending]
    split
    next same => rw [if_neg fun first => other (first.symm.trans same)]
    · rfl
  have inFlight : ∀ message ∈ [((k + 1,.Single ⟨some (ofIndex (k + 1 : Nat)),[1]⟩) : Nat × MessageData)],
      message.1 = 0 ∨ message.1 = k + 1 := fun message member => .inr (by rw [List.mem_singleton.mp member])
  have nothing : ∀ message ∈ ([] : List (Nat × MessageData)),message.1 = 0 ∨ message.1 = k + 1 :=
    fun _ member => absurd member List.not_mem_nil
  have done (n : Nat) (low : 0 < n) (high : n < k + 1) : some n ∈ returns.map (·.index) :=
    (returned n).mpr ⟨low,by omega⟩
  have doneRead (n : Nat) : some n ∈ read.returned.map (·.index) ↔ 0 < n ∧ n ≤ k + 1 := by
    rw [List.map_append,List.mem_append,returned,List.map_singleton,List.mem_singleton,Option.some_inj]
    omega
  have reachedLost : Overtakes lost :=
    (reached.step _ delivers (few (two_pending pending) inFlight buffered.le done)).step
    (.Lose 0) rfl (few (two_pending pending) nothing buffered.le done)
  have reachedRead : Overtakes read := reachedLost.step _ reads (few (two_pending pending) nothing buffered.le
    fun n low high => (doneRead n).mpr ⟨low,high.le⟩)
  refine ⟨_,reachedRead.step _ acks (few (n := k + 1) (fun id entry stored => ?_) nothing buffered.le
    fun n low high => (doneRead n).mpr ⟨low,high.le⟩),settings,next,order,erased,rfl,buffered,⟨_,rfl,?_⟩,doneRead⟩
  · rw [erased] at stored
    split at stored
    · exact .inl (by cases stored; rfl)
    · cases stored
  · intro id member
    rcases Finset.mem_insert.mp member with rfl | was
    · exact ⟨k + 1,by omega,le_rfl,rfl⟩
    · obtain ⟨n,low,high,rfl⟩ := old id was
      exact ⟨n,low,by omega,rfl⟩

private theorem lagging_start : ∃ after,Lagging 0 after := by
  let kept (last_sent : Option Duration) : ReliableSendState :=
    ⟨⟨fun _ => 5⟩,AList.insert (ofIndex 0) ⟨.Single [1] last_sent,0⟩ ∅,ofIndex 1,1,0,0⟩
  let sent : Link := ⟨kept none,[],.new .UnorderedReliable 2 (by decide),[[1]],[],[]⟩
  have pending (last_sent : Option Duration) (id : MessageId) : (kept last_sent).pending.lookup id =
      if id = ofIndex 0 then some ⟨.Single [1] last_sent,0⟩ else none := by
    rw [Maps.lookup_insert_ite]
    rfl
  have first (last_sent : Option Duration) (id : MessageId) (entry : PendingReliableMessage)
      (stored : (kept last_sent).pending.lookup id = some entry) : entry.send_order = 0 ∨ entry.send_order = 0 := by
    rw [pending] at stored
    split at stored
    · exact .inl (by cases stored; rfl)
    · cases stored
  have reachedSent : Overtakes sent := Runs.Reaches.start.step (.Send [1]) rfl (few (first none)
    (fun _ member => absurd member List.not_mem_nil) le_rfl fun n low high => absurd low (by omega))
  have reachedFlight : Overtakes {sent with sender := kept (some 0),network := [(0,.Single ⟨some (ofIndex 0),[1]⟩)]} :=
    reachedSent.step (.Transmit 0 0) rfl
      (few (first (some 0)) (fun _ member => .inl (by rw [List.mem_singleton.mp member])) le_rfl
      fun n low high => absurd low (by omega))
  have reachedLost : Overtakes {sent with sender := kept (some 0)} :=
    reachedFlight.step (.Lose 0) rfl (few (first (some 0))
    (fun _ member => absurd member List.not_mem_nil) le_rfl fun n low high => absurd low (by omega))
  exact ⟨_,reachedLost,rfl,rfl,rfl,pending (some 0),rfl,rfl,
    ⟨∅,rfl,fun _ member => absurd member (Finset.notMem_empty _)⟩,
    fun n => ⟨fun member => absurd member List.not_mem_nil,fun inside => absurd inside (by omega)⟩⟩

private theorem lagging (k : Nat) (room : k < 2 ^ 15) : ∃ after,Lagging k after := by
  induction k with
  | zero => exact lagging_start
  | succ k ih =>
    obtain ⟨s,lagging⟩ := ih (by omega)
    obtain ⟨sent,flying⟩ := lagging.send (by omega)
    exact flying.settle room

end Overtaken

/-- The packet of the first message is lost while the `2^15 - 1` messages after it are read and acked. The next message
is `2^15` ids after the first one: it is discarded as an old one, with only these two outstanding. -/
theorem overtaken_discarded :
    ¬∀ (lz4 : Lz4) (fragmenter : FragmentSender) (config : CompressionConfig) (settings : ReliableSettings)
      (s : Link),lz4.Inverts →
      Runs.Reaches (step lz4 fragmenter config) (fun _ _ after => FewAtOnce after)
        (.start settings .UnorderedReliable fragmenter) s →
        (∀ r ∈ s.returned, ∃ n : Nat, r.index = some n ∧ s.buffered[n]? = some r.bytes) ∧
        (s.returned.map (·.index)).Nodup ∧
        ∀ n payload, s.buffered[n]? = some payload → Arrived lz4 fragmenter config s.arrived n payload →
          some n ∈ s.returned.map (·.index) ∨ Ready s.receiver (ofIndex n) payload := by
  intro once
  obtain ⟨_,lagging⟩ := lagging 32767 (by decide)
  obtain ⟨s,reached,-,-,-,pending,network,buffered,last,⟨received,state,-⟩,returned⟩ := lagging.send (by decide)
  obtain ⟨sender,_,⟨fragments,now,_⟩,messages,arrived,returns⟩ := s
  dsimp only at pending network buffered last state returned
  subst network state
  let after : Link := ⟨sender,[(32768,.Single ⟨some (ofIndex 32768),[1]⟩)],
    ⟨fragments,now,.ReliableUnordered (ofIndex 0) [] received⟩,
    messages,(32768,0) :: arrived,returns⟩
  have delivers : step .literals oneByte .LZ4 {after with arrived := arrived} (.Deliver 0 0) = some after := by
    have distance : (ofIndex 32768).sub (ofIndex 0) = -32768 := by decide
    simp only [step,after,List.getElem?_cons_zero,Option.map_some,ChannelReceive.buffer_recv,MessageData.message_id,
      RecvState.prepare_receive,distance]
    rfl
  have reachedAfter : Overtakes after := reached.step _ delivers (few (two_pending pending)
    (fun message member => .inr (by rw [List.mem_singleton.mp member])) buffered.le
    fun n low high => (returned n).mpr ⟨low,by omega⟩)
  have whole : Arrived .literals oneByte .LZ4 after.arrived 32768 [1] := by
    intro i low
    obtain rfl : i = 0 := Nat.lt_one_iff.mp low
    exact List.mem_cons_self
  rcases (once _ _ _ _ _ literals_inverts reachedAfter).2.2 32768 [1] last whole with isReturned | ready
  · exact absurd ((returned 32768).mp isReturned).2 (by decide)
  · obtain ⟨_,_,_,_,isState,member⟩ := ready
    cases isState
    exact List.not_mem_nil member
end Lightyear.UnorderedReliable
