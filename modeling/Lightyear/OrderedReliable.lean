import Lightyear.ReliableLink

/-!
The ordered reliable channel returns a prefix of what was buffered.
-/
namespace Lightyear.OrderedReliable
open Lightyear.Ids Lightyear.Ids.WrappingId Lightyear.Message Lightyear.Compression Lightyear.Fragments
open Lightyear.Reassembly Lightyear.Receive Lightyear.Receive.ChannelReceive Lightyear.SendReliable
open Lightyear.ReliableLink

/-- The invariant of the receiver: messages are returned in order, and those from the first unread one on are
    either ready or held as fragments. -/
structure InOrder (lz4 : Lz4) (fragmenter : FragmentSender) (config : CompressionConfig) (buffered : List Bytes)
    (receiver : ChannelReceive) (returned : List Returned) (ready : Maps.Map MessageId ReceivedMessage) : Prop where
  state : receiver.state = .ReliableOrdered (ofIndex returned.length) ready
  size : receiver.fragments.fragment_size = fragmenter.fragment_size
  sound : ∀ (n : Nat) (r : Returned), returned[n]? = some r → r.index = some n ∧ buffered[n]? = some r.bytes
  waiting : ∀ id tick bytes, ready.lookup id = some (tick,bytes) →
    ∃ n : Nat, returned.length ≤ n ∧ id = ofIndex n ∧ buffered[n]? = some bytes
  only : ∀ id c, receiver.fragments.fragment_messages.lookup id = some c →
    ∃ n : Nat, returned.length ≤ n ∧ n < buffered.length ∧ id = ofIndex n ∧ ofIndex n ∉ ready
  held : ∀ (n : Nat) payload, returned.length ≤ n → buffered[n]? = some payload → ofIndex n ∉ ready →
    ∃ got, Held lz4 fragmenter config receiver.fragments (ofIndex n) payload got

section Order
variable {lz4 : Lz4} {fragmenter : FragmentSender} {config : CompressionConfig} {buffered : List Bytes}
  {receiver : ChannelReceive} {returned : List Returned} {ready : Maps.Map MessageId ReceivedMessage}

theorem returned_le (known : InOrder lz4 fragmenter config buffered receiver returned ready) :
    returned.length ≤ buffered.length := by
  rcases List.eq_nil_or_concat returned with rfl | ⟨front,last,split⟩
  · exact Nat.zero_le _
  · have here : returned[front.length]? = some last := by simp [split]
    have := (List.getElem?_eq_some_iff.mp (known.sound _ last here).2).1
    simp only [split,List.concat_eq_append,List.length_append,List.length_singleton]
    omega

/-- The unread messages are fewer than half the id space. -/
theorem span (known : InOrder lz4 fragmenter config buffered receiver returned ready)
    (few : FewUnread buffered.length returned) : buffered.length < returned.length + 2 ^ 15 := by
  rcases Nat.lt_or_ge returned.length buffered.length with more | none
  · refine few _ more fun member => ?_
    obtain ⟨r,inside,isIndex⟩ := List.mem_map.mp member
    obtain ⟨n,here⟩ := List.getElem?_of_mem inside
    have same := (known.sound n r here).1.symm.trans isIndex
    have low := (List.getElem?_eq_some_iff.mp here).1
    simp only [Option.some.injEq] at same
    omega
  · omega

/-- Unread messages are told apart by their ids. -/
theorem unread_inj (known : InOrder lz4 fragmenter config buffered receiver returned ready)
    (few : FewUnread buffered.length returned) {a b : Nat} (lowA : returned.length ≤ a) (highA : a ≤ buffered.length)
    (lowB : returned.length ≤ b) (highB : b ≤ buffered.length) (same : ofIndex a = ofIndex b) : a = b := by
  have := span known few
  have := ofIndex_inj (by omega) (by omega) same
  omega

theorem lt_of_getElem? {n : Nat} {payload : Bytes} (inBuffer : buffered[n]? = some payload) : n < buffered.length :=
  (List.getElem?_eq_some_iff.mp inBuffer).1

private theorem send_inOrder (known : InOrder lz4 fragmenter config buffered receiver returned ready)
    (few : FewUnread buffered.length returned) (message : Bytes) :
    InOrder lz4 fragmenter config (buffered ++ [message]) receiver returned ready := by
  have left : ∀ (n : Nat) payload, buffered[n]? = some payload → (buffered ++ [message])[n]? = some payload :=
    fun n payload inBuffer => by rw [List.getElem?_append_left (lt_of_getElem? inBuffer),inBuffer]
  refine ⟨known.state,known.size,?_,?_,?_,?_⟩
  · intro n r here
    obtain ⟨isIndex,inBuffer⟩ := known.sound n r here
    exact ⟨isIndex,left n _ inBuffer⟩
  · intro id tick bytes stored
    obtain ⟨n,low,named,inBuffer⟩ := known.waiting id tick bytes stored
    exact ⟨n,low,named,left n _ inBuffer⟩
  · intro id c stored
    obtain ⟨n,low,high,rest⟩ := known.only id c stored
    exact ⟨n,low,by simp; omega,rest⟩
  · intro n payload low inBuffer notReady
    rcases Nat.lt_or_ge n buffered.length with old | new
    · rw [List.getElem?_append_left old] at inBuffer
      exact known.held n payload low inBuffer notReady
    · -- The new id is not used by any message that is still unread.
      have inside := lt_of_getElem? inBuffer
      rw [List.length_append,List.length_singleton] at inside
      obtain rfl : n = buffered.length := by omega
      refine ⟨[],held_none ?_⟩
      cases stored : receiver.fragments.fragment_messages.lookup (ofIndex buffered.length) with
      | none => rfl
      | some c =>
        obtain ⟨m,lowM,highM,same,-⟩ := known.only _ c stored
        have := unread_inj known few low le_rfl lowM highM.le same
        omega

private theorem prepare_inOrder (known : InOrder lz4 fragmenter config buffered receiver returned ready)
    (few : FewUnread buffered.length returned) {n : Nat} (inside : n < buffered.length)
    (near : buffered.length < n + 2 ^ 15) :
    receiver.state.prepare_receive (some (ofIndex n)) =
      (receiver.state,.ok (decide (returned.length ≤ n) && decide (ofIndex n ∉ ready))) := by
  have := span known few
  have := returned_le known
  have sub : (ofIndex n).sub (ofIndex returned.length) = (n : Int) - returned.length :=
    sub_ofIndex (by omega) (by omega)
  have sign : (n : Int) - returned.length ≥ 0 ↔ returned.length ≤ n := by omega
  rw [known.state]
  simp only [RecvState.prepare_receive,sub,sign]

private theorem deliver_inOrder (inverts : lz4.Inverts)
    (known : InOrder lz4 fragmenter config buffered receiver returned ready)
    (few : FewUnread buffered.length returned) {n : Nat} {data : MessageData} {payload : Bytes} (tick : Tick)
    (inBuffer : buffered[n]? = some payload) (fits : payload.length ≤ isize_max)
    (isWire : data ∈ wire lz4 fragmenter config (ofIndex n) payload) (near : buffered.length < n + 2 ^ 15) :
    ∃ ready', InOrder lz4 fragmenter config buffered
      (receiver.buffer_recv lz4 ⟨data,tick,config⟩).1 returned ready' := by
  have inside := lt_of_getElem? inBuffer
  have isId := wire_message_id isWire
  have prepared := prepare_inOrder known few inside near
  by_cases accepted : returned.length ≤ n ∧ ofIndex n ∉ ready
  swap
  · have refused : (decide (returned.length ≤ n) && decide (ofIndex n ∉ ready)) = false := by
      simp only [Bool.and_eq_false_iff,decide_eq_false_iff_not]
      exact not_and_or.mp accepted
    rw [refused] at prepared
    rw [buffer_recv_refused (by rw [isId,prepared])]
    exact ⟨ready,known⟩
  obtain ⟨low,notReady⟩ := accepted
  simp only [low,notReady,not_false_eq_true,decide_true,Bool.and_self] at prepared
  obtain ⟨got,held⟩ := known.held n payload low inBuffer notReady
  obtain ⟨completed,got',answered,held',outcome⟩ := assemble_wire inverts fits known.size held isWire tick
    (if receiver.state.expires_fragments then some receiver.current_time else none)
  have isData : (⟨data,tick,config⟩ : ReceiveMessage).data.message_id = some (ofIndex n) := isId
  rw [buffer_recv_accepted (by rw [isData,prepared]) answered]
  -- The messages other than `n` are where they were.
  have others : ∀ id, id ≠ ofIndex n → (assemble lz4 receiver.fragments
      (if receiver.state.expires_fragments then some receiver.current_time else none)
      ⟨data,tick,config⟩).1.fragment_messages.lookup id = receiver.fragments.fragment_messages.lookup id :=
    fun id different => assemble_other lz4 _ _ isData different
  have heldOthers : ∀ (m : Nat) payload, returned.length ≤ m → buffered[m]? = some payload → m ≠ n → ofIndex m ∉ ready →
      ∃ got, Held lz4 fragmenter config (assemble lz4 receiver.fragments
        (if receiver.state.expires_fragments then some receiver.current_time else none) ⟨data,tick,config⟩).1
        (ofIndex m) payload got := by
    intro m payload lowM inBufferM different notReadyM
    obtain ⟨got,heldM⟩ := known.held m payload lowM inBufferM notReadyM
    refine ⟨got,held_of_lookup_eq heldM (others _ fun same => different ?_)⟩
    exact unread_inj known few lowM (lt_of_getElem? inBufferM).le low inside.le same
  rcases outcome with ⟨⟨t,rfl⟩,rfl,-⟩ | ⟨rfl,-,-⟩
  · refine ⟨ready.insert (ofIndex n) (t,payload),⟨?_,(assemble_size ..).trans known.size,known.sound,?_,?_,?_⟩⟩
    · simp only [known.state,isData,pushed,RecvState.push_completed]
    · intro id tick bytes stored
      rw [Maps.lookup_insert_ite] at stored
      split at stored
      · next same =>
        simp only [Option.some.injEq,Prod.mk.injEq] at stored
        exact ⟨n,low,same,by rw [inBuffer,stored.2]⟩
      · exact known.waiting id tick bytes stored
    · intro id c stored
      have different : id ≠ ofIndex n := by
        rintro rfl
        simp [lookup_of_held held'] at stored
      rw [others id different] at stored
      obtain ⟨m,lowM,highM,rfl,notReadyM⟩ := known.only id c stored
      exact ⟨m,lowM,highM,rfl,by simp [different,notReadyM]⟩
    · intro m payloadM lowM inBufferM notReadyM
      simp only [AList.mem_insert,not_or] at notReadyM
      exact heldOthers m payloadM lowM inBufferM (fun same => notReadyM.1 (by rw [same])) notReadyM.2
  · refine ⟨ready,⟨known.state,(assemble_size ..).trans known.size,known.sound,known.waiting,?_,?_⟩⟩
    · intro id c stored
      by_cases same : id = ofIndex n
      · exact ⟨n,low,inside,same,notReady⟩
      · rw [others id same] at stored
        exact known.only id c stored
    · intro m payloadM lowM inBufferM notReadyM
      by_cases same : m = n
      · subst same
        obtain rfl := Option.some.inj (inBuffer.symm.trans inBufferM)
        exact ⟨got',held'⟩
      · exact heldOthers m payloadM lowM inBufferM same notReadyM

private theorem read_inOrder (known : InOrder lz4 fragmenter config buffered receiver returned ready)
    (few : FewUnread buffered.length returned) :
    ∃ ready', InOrder lz4 fragmenter config buffered receiver.read_message.1
      (note buffered.length returned receiver.read_message.2) ready' := by
  have isState := known.state
  simp only [read_message,isState,RecvState.read_message]
  cases stored : ready.lookup (ofIndex returned.length) with
  | none => exact ⟨ready,⟨rfl,known.size,known.sound,known.waiting,known.only,known.held⟩⟩
  | some message =>
    obtain ⟨tick,bytes⟩ := message
    obtain ⟨n,low,same,inBuffer⟩ := known.waiting _ tick bytes stored
    have inside := lt_of_getElem? inBuffer
    obtain rfl : returned.length = n := unread_inj known few le_rfl (by omega) low inside.le same
    have present : ofIndex returned.length ∈ ready := (Maps.mem_iff_lookup _ _).mpr ⟨_,stored⟩
    have isLatest : latest buffered.length (ofIndex returned.length) = some returned.length :=
      latest_eq inside (by have := span known few; omega)
    -- A message that is not the one returned comes after it.
    have after : ∀ m : Nat, returned.length ≤ m → ofIndex m ≠ ofIndex returned.length → returned.length + 1 ≤ m := by
      intro m lowM different
      have : returned.length ≠ m := fun same => different (by rw [same])
      omega
    refine ⟨ready.erase (ofIndex returned.length),⟨?_,known.size,?_,?_,?_,?_⟩⟩
    · simp only [note,List.length_append,List.length_singleton,add_assign_ofIndex]
      push_cast
      rfl
    · intro n r here
      simp only [note] at here
      rcases Nat.lt_or_ge n returned.length with old | new
      · rw [List.getElem?_append_left old] at here
        exact known.sound n r here
      · have last := (List.getElem?_eq_some_iff.mp here).1
        rw [List.length_append,List.length_singleton] at last
        obtain rfl : n = returned.length := by omega
        simp only [List.getElem?_concat_length,Option.some.injEq] at here
        subst here
        exact ⟨isLatest,inBuffer⟩
    · intro id tick bytes kept
      rw [Maps.lookup_erase_ite] at kept
      split at kept
      · cases kept
      · next different =>
        obtain ⟨m,lowM,rfl,inBufferM⟩ := known.waiting id tick bytes kept
        exact ⟨m,by simpa [note] using after m lowM different,rfl,inBufferM⟩
    · intro id c kept
      obtain ⟨m,lowM,highM,rfl,notReady⟩ := known.only id c kept
      have different : ofIndex m ≠ ofIndex returned.length := fun same => notReady (same ▸ present)
      exact ⟨m,by simpa [note] using after m lowM different,highM,rfl,by simp [notReady]⟩
    · intro m payload lowM inBufferM notReady
      simp only [note,List.length_append,List.length_singleton] at lowM
      have different : ofIndex m ≠ ofIndex returned.length := fun same => by
        have := unread_inj known few (by omega) (lt_of_getElem? inBufferM).le le_rfl inside.le same
        omega
      refine known.held m payload (by omega) inBufferM fun isReady => notReady ?_
      rw [AList.mem_erase]
      exact ⟨different,isReady⟩

end Order

/-- Some messages are ready, and the invariant holds. -/
def InOrderSome (lz4 : Lz4) (fragmenter : FragmentSender) (config : CompressionConfig) (buffered : List Bytes)
    (receiver : ChannelReceive) (_ : List (Nat × Nat)) (returned : List Returned) : Prop :=
  ∃ ready, InOrder lz4 fragmenter config buffered receiver returned ready

theorem inOrder_maintained {lz4 : Lz4} (inverts : lz4.Inverts) (fragmenter : FragmentSender)
    (config : CompressionConfig) :
    Maintained lz4 fragmenter config .OrderedReliable (InOrderSome lz4 fragmenter config) where
  start := ⟨∅,⟨rfl,rfl,by simp,by simp,by simp [ChannelReceive.new,FragmentReceiver.new],by simp⟩⟩
  send _ _ _ _ message := fun ⟨ready,known⟩ few => ⟨ready,send_inOrder known few message⟩
  deliver _ _ _ _ _ _ _ tick := fun ⟨_,known⟩ few inBuffer fits isWire near =>
    deliver_inOrder inverts known few tick inBuffer fits isWire near
  update _ receiver _ _ now := fun ⟨ready,known⟩ => by
    have fragments : (receiver.update now).fragments = receiver.fragments := by
      simp [ChannelReceive.update,known.state,RecvState.expires_fragments]
    exact ⟨ready,⟨known.state,by rw [fragments]; exact known.size,known.sound,known.waiting,
      by rw [fragments]; exact known.only,by rw [fragments]; exact known.held⟩⟩
  read _ _ _ _ := fun ⟨_,known⟩ few => read_inOrder known few

end Lightyear.OrderedReliable
