import Lightyear.Reassembly
import Lightyear.Runs
import Lightyear.SendUnreliable

/-!
What becomes of the messages of an unreliable channel. Candidates enter packets and are committed, and the end of
a flush removes them from the queues, with what the channel gives up. The pieces of a message are numbered: a
single message has one.
-/
namespace Lightyear.UnreliableFlow
open Lightyear.Ids Lightyear.Ids.WrappingId Lightyear.Message Lightyear.Compression Lightyear.Fragments
open Lightyear.Reassembly Lightyear.SendUnreliable Lightyear.SendUnreliable.UnreliableSendState

section Labels
variable {α β : Type}

/-- The labels of the entries that are kept. -/
def keepLabels (keep : α → Bool) (queue : List α) (labels : List β) : List β :=
  ((queue.zip labels).filter fun entry => keep entry.1).map Prod.snd

theorem zip_keepLabels (keep : α → Bool) (queue : List α) (labels : List β) :
    (queue.filter keep).zip (keepLabels keep queue labels) = (queue.zip labels).filter fun entry => keep entry.1 := by
  induction queue generalizing labels with
  | nil => rfl
  | cons entry queue ih =>
    cases labels with
    | nil => simp [keepLabels]
    | cons label labels =>
      have rest := ih labels
      unfold keepLabels at rest ⊢
      cases kept : keep entry
      · simpa [kept] using rest
      · simpa [kept] using rest

theorem length_keepLabels (keep : α → Bool) {queue : List α} {labels : List β} (same : queue.length = labels.length) :
    (queue.filter keep).length = (keepLabels keep queue labels).length := by
  induction queue generalizing labels with
  | nil => rfl
  | cons entry queue ih =>
    cases labels with
    | nil => cases same
    | cons label labels =>
      have rest := ih (Nat.succ.inj same)
      unfold keepLabels at rest ⊢
      cases kept : keep entry
      · simpa [kept] using rest
      · simpa [kept] using rest

theorem zip_modify (change : α → α) (queue : List α) (labels : List β) (i : Nat) :
    (queue.modify i change).zip labels = (queue.zip labels).modify i fun entry => (change entry.1,entry.2) := by
  induction queue generalizing labels i with
  | nil => simp
  | cons entry queue ih =>
    cases labels with
    | nil => simp
    | cons label labels =>
      cases i with
      | zero => rfl
      | succ i => simp [ih]

/-- The labels at the positions of the entries that are kept. -/
theorem labels_at_positions (keep : α → Bool) {queue : List α} {labels : List β} (same : queue.length = labels.length) :
    (queue.zipIdx.filter fun entry => keep entry.1).filterMap (fun entry => labels[entry.2]?) =
      keepLabels keep queue labels := by
  suffices behind : ∀ (before : List β), ((queue.zipIdx before.length).filter fun entry => keep entry.1).filterMap
      (fun entry => (before ++ labels)[entry.2]?) = keepLabels keep queue labels from behind []
  induction queue generalizing labels with
  | nil => intro before; rfl
  | cons entry queue ih =>
    cases labels with
    | nil => cases same
    | cons label labels =>
      intro before
      have rest := ih (Nat.succ.inj same) (before ++ [label])
      rw [List.length_append,List.length_singleton,List.append_assoc,List.singleton_append] at rest
      have here : (before ++ label :: labels)[before.length]? = some label := by simp
      unfold keepLabels at rest ⊢
      rw [List.zipIdx_cons]
      cases kept : keep entry
      · simpa [kept] using rest
      · simpa [kept,here] using rest

end Labels

/-- A message, by the order in which it was buffered, and a piece of it. -/
abbrev Piece := Nat × Nat

/-- The ack that a packet gives for a piece. The packet is neither acknowledged nor lost yet. -/
structure Record where
  piece : Piece
  ack : MessageAck

/-- A channel and what happened to its messages. -/
structure Flow where
  sender : UnreliableSendState
  /-- The number of fragments of each message that was buffered, or none for a single message. -/
  messages : List (Option Nat)
  /-- The pieces that the entries of the two queues are. -/
  singles : List Piece
  fragments : List Piece
  committed : List Piece
  recorded : List Record
  acked : List Piece
  /-- The messages that were reported as acknowledged. -/
  reported : List Nat

def pieces (message : Option Nat) : Nat := message.getD 1

inductive Event where
  | Send (fragmenter : FragmentSender) (message : Bytes) (compression : CompressionConfig)
  /-- One candidate enters a packet and is committed. -/
  | Commit (candidate : Nat)
  | Finish (outcome : SendFlushOutcome) (was_ready : Bool)
  | Ack (record : Nat)
  | Lose (record : Nat)
  | Update (elapsed : Duration)

namespace Flow

def start (delivery : UnreliableDelivery) (retry_unsent_messages : Bool) : Flow :=
  ⟨.new delivery retry_unsent_messages,[],[],[],[],[],[],[]⟩

/-- The pieces of message `n` that were added to a queue. -/
def added (n : Nat) (before after : List PendingSendMessage) : List Piece :=
  (List.range (after.length - before.length)).map (n,·)

/-- The piece that a candidate is. -/
def piece (s : Flow) : SendMessageKey → Option Piece
  | .UnreliableSingle index => s.singles[index]?
  | .UnreliableFragment index => s.fragments[index]?
  | _ => none

/-- The pieces that the channel offers to the next packets, in order. -/
def waiting (s : Flow) : List Piece := s.sender.collect_candidates.filterMap fun c => s.piece c.key

def keeps_single (discard : Bool) (pending : PendingSendMessage) : Bool := !discard && !pending.committed

def keeps_fragment (discard : Bool) (pending : PendingSendMessage) : Bool :=
  !pending.committed && (!discard || pending.fragment_started)

def finish (s : Flow) (outcome : SendFlushOutcome) (was_ready : Bool) : Flow :=
  let discard := s.sender.discard_unsent outcome was_ready
  { s with
    sender := s.sender.finish_send outcome was_ready,
    singles := keepLabels (keeps_single discard) s.sender.singles s.singles,
    fragments := keepLabels (keeps_fragment discard) s.sender.fragments s.fragments }

def step (lz4 : Lz4) (s : Flow) : Event → Option Flow
  | .Send fragmenter message compression =>
    (s.sender.buffer_send lz4 fragmenter message compression).map fun (sender,_) =>
      let singles := added s.messages.length s.sender.singles sender.singles
      let fragments := added s.messages.length s.sender.fragments sender.fragments
      { s with
        sender,
        messages := s.messages ++ [if fragments = [] then none else some fragments.length],
        singles := s.singles ++ singles,
        fragments := s.fragments ++ fragments }
  | .Commit candidate =>
    match s.sender.collect_candidates[candidate]? with
    | none => none
    | some c =>
      (s.sender.commit_send c.key).map fun sender =>
        let pieces := (s.piece c.key).toList
        let acks := if watches_acks s.sender then (recorded_ack c.message).toList else []
        { s with
          sender,
          committed := s.committed ++ pieces,
          recorded := s.recorded ++ pieces.flatMap fun piece => acks.map fun ack => ⟨piece,ack⟩ }
  | .Finish outcome was_ready => some (s.finish outcome was_ready)
  | .Ack record =>
    match s.recorded[record]? with
    | none => none
    | some ⟨piece,ack⟩ =>
      (s.sender.receive_ack ack).map fun (sender,completed) =>
        { s with
          sender,
          recorded := s.recorded.eraseIdx record,
          acked := s.acked ++ [piece],
          reported := if completed then s.reported ++ [piece.1] else s.reported }
  | .Lose record =>
    match s.recorded[record]? with
    | none => none
    | some ⟨_,ack⟩ => some { s with sender := s.sender.receive_nack ack,recorded := s.recorded.eraseIdx record }
  | .Update elapsed => some { s with sender := s.sender.update elapsed }

end Flow

/-! ### Entries with their pieces -/

abbrev Entry := PendingSendMessage × Piece

/-- What the two queues hold of the messages, and what is committed of them: every message is either there as a
    whole, in the queues or committed, or gone as a whole. -/
structure Sound (messages : List (Option Nat)) (committed : List Piece) (singles fragments : List Entry) : Prop where
  single : ∀ e ∈ singles, messages[e.2.1]? = some none ∧ e.2.2 = 0 ∧ (e.1.committed = true ↔ e.2 ∈ committed)
  fragment : ∀ e ∈ fragments, (∃ k, messages[e.2.1]? = some (some k) ∧ e.2.2 < k) ∧
    (∃ data, e.1.message = .Fragment data ∧ data.fragment_id = e.2.2) ∧ (e.1.committed = true ↔ e.2 ∈ committed)
  started : ∀ e ∈ fragments, ∀ p ∈ committed, p.1 = e.2.1 → e.1.fragment_started = true
  alike : ∀ e ∈ fragments, ∀ other ∈ fragments, e.2.1 = other.2.1 →
    e.1.fragment_message_id = other.1.fragment_message_id ∧ e.1.fragment_started = other.1.fragment_started
  distinct_singles : (singles.map Prod.snd).Nodup
  distinct_fragments : (fragments.map Prod.snd).Nodup
  known : ∀ p ∈ committed, ∃ message, messages[p.1]? = some message ∧ p.2 < pieces message
  whole : ∀ (n : Nat) message, messages[n]? = some message →
    (∀ i < pieces message, (n,i) ∈ committed ∨ (n,i) ∈ (singles ++ fragments).map Prod.snd) ∨
      ∀ i < pieces message, (n,i) ∉ committed ∧ (n,i) ∉ (singles ++ fragments).map Prod.snd

def commits (e : Entry) : Entry := (commit e.1,e.2)

/-- What the commit of a fragment does to the entries, unless its message was started before. -/
def starts (before : Bool) (message_id : MessageId) (e : Entry) : Entry :=
  if before then e else (start_message message_id e.1,e.2)

section
variable (before : Bool) (message_id : MessageId) (e : Entry)

@[simp] theorem starts_piece : (starts before message_id e).2 = e.2 := by
  unfold starts
  split <;> rfl

@[simp] theorem starts_message : (starts before message_id e).1.message = e.1.message := by
  unfold starts start_message
  split_ifs <;> rfl

@[simp] theorem starts_committed : (starts before message_id e).1.committed = e.1.committed := by
  unfold starts start_message
  split_ifs <;> rfl

@[simp] theorem starts_started : (starts before message_id e).1.fragment_started =
    (e.1.fragment_started || !before && decide (e.1.fragment_message_id = some message_id)) := by
  unfold starts start_message
  split_ifs with isStarted named <;> simp [isStarted]
  all_goals simp [named]

end

section Sound
variable {messages : List (Option Nat)} {committed : List Piece} {singles fragments : List Entry}

theorem mem_modify {α : Type} {change : α → α} {entries : List α} {i : Nat} {entry : α}
    (member : entry ∈ entries.modify i change) :
    ∃ j old, entries[j]? = some old ∧ entry = if i = j then change old else old := by
  obtain ⟨j,stored⟩ := List.mem_iff_getElem?.mp member
  rw [List.getElem?_modify] at stored
  cases isOld : entries[j]? with
  | none => simp [isOld] at stored
  | some old =>
    refine ⟨j,old,isOld,?_⟩
    rw [isOld] at stored
    split at stored
    next here => rw [if_pos here]; exact (Option.some.inj stored).symm
    next elsewhere => rw [if_neg elsewhere]; exact (Option.some.inj stored).symm

theorem map_modify {α β : Type} {read : α → β} {change : α → α} (same : ∀ entry, read (change entry) = read entry)
    (entries : List α) (i : Nat) : (entries.modify i change).map read = entries.map read := by
  apply List.ext_getElem?
  intro j
  simp only [List.getElem?_map,List.getElem?_modify]
  cases entries[j]? with
  | none => simp
  | some entry =>
    simp only [Option.map_some]
    split <;> simp [same]

/-- Two entries for the same piece are at the same position. -/
private theorem position_eq {entries : List Entry} (distinct : (entries.map Prod.snd).Nodup) {i j : Nat}
    {e other : Entry}
    (atI : entries[i]? = some e) (atJ : entries[j]? = some other) (same : e.2 = other.2) : i = j := by
  have inside := (List.getElem?_eq_some_iff.mp atI).1
  refine (List.getElem?_inj (by rwa [List.length_map]) distinct).mp ?_
  rw [List.getElem?_map,List.getElem?_map,atI,atJ,Option.map_some,Option.map_some,same]

theorem sound_nil : Sound [] [] [] [] := by
  constructor <;> simp

private theorem inside_of_getElem? {message : Option Nat} {n : Nat} (isMessage : messages[n]? = some message) :
    n < messages.length := (List.getElem?_eq_some_iff.mp isMessage).1

theorem Sound.old (sound : Sound messages committed singles fragments) {p : Piece}
    (member : p ∈ (singles ++ fragments).map Prod.snd) : p.1 < messages.length := by
  obtain ⟨e,isEntry,rfl⟩ := List.mem_map.mp member
  rcases List.mem_append.mp isEntry with isEntry | isEntry
  · exact inside_of_getElem? (sound.single e isEntry).1
  · obtain ⟨⟨k,isMessage,-⟩,-⟩ := sound.fragment e isEntry
    exact inside_of_getElem? isMessage

private theorem nodup_append_new {entries new : List Entry} (distinct : (entries.map Prod.snd).Nodup)
    (distinctNew : (new.map Prod.snd).Nodup) (before : ∀ p ∈ entries.map Prod.snd, p.1 < messages.length)
    (isNew : ∀ e ∈ new, e.2.1 = messages.length) : ((entries ++ new).map Prod.snd).Nodup := by
  rw [List.map_append,List.nodup_append]
  refine ⟨distinct,distinctNew,fun p isOld q added same => ?_⟩
  obtain ⟨e,member,rfl⟩ := List.mem_map.mp added
  exact (before p isOld).ne (same ▸ isNew e member)

/-- A message is added at the ends of the queues, as a whole. -/
theorem Sound.add (sound : Sound messages committed singles fragments) {message : Option Nat} (message_id : MessageId)
    {newSingles newFragments : List Entry}
    (isSingle : ∀ e ∈ newSingles, message = none ∧ e.2 = (messages.length,0) ∧ e.1.committed = false)
    (isFragment : ∀ e ∈ newFragments, (∃ k, message = some k ∧ e.2.1 = messages.length ∧ e.2.2 < k) ∧
      (∃ data, e.1.message = .Fragment data ∧ data.fragment_id = e.2.2 ∧ data.message_id = message_id) ∧
      e.1.committed = false ∧ e.1.fragment_started = false)
    (distinct_singles : (newSingles.map Prod.snd).Nodup) (distinct_fragments : (newFragments.map Prod.snd).Nodup)
    (whole : ∀ i < pieces message, (messages.length,i) ∈ (newSingles ++ newFragments).map Prod.snd) :
    Sound (messages ++ [message]) committed (singles ++ newSingles) (fragments ++ newFragments) := by
  have old : ∀ {n : Nat} {other : Option Nat}, messages[n]? = some other → (messages ++ [message])[n]? = some other :=
    fun isMessage => by rw [List.getElem?_append_left (inside_of_getElem? isMessage),isMessage]
  have last : (messages ++ [message])[messages.length]? = some message := List.getElem?_concat_length
  have uncommitted : ∀ {p : Piece}, p.1 = messages.length → p ∉ committed := fun isLast member => by
    obtain ⟨other,isMessage,-⟩ := sound.known _ member
    exact (inside_of_getElem? isMessage).ne isLast
  have newSingle : ∀ e ∈ newSingles, e.2.1 = messages.length := fun e member => by rw [(isSingle e member).2.1]
  have newFragment : ∀ e ∈ newFragments, e.2.1 = messages.length := fun e member => by
    obtain ⟨⟨k,-,isLast,-⟩,-⟩ := isFragment e member
    exact isLast
  have oldFragment : ∀ e ∈ fragments, e.2.1 < messages.length := fun e member =>
    sound.old (List.mem_map_of_mem (List.mem_append_right _ member))
  constructor
  · intro e member
    rcases List.mem_append.mp member with member | member
    · obtain ⟨isMessage,first,isCommitted⟩ := sound.single e member
      exact ⟨old isMessage,first,isCommitted⟩
    · obtain ⟨rfl,label,isCommitted⟩ := isSingle e member
      rw [label,isCommitted]
      exact ⟨last,rfl,iff_of_false Bool.false_ne_true (uncommitted rfl)⟩
  · intro e member
    rcases List.mem_append.mp member with member | member
    · obtain ⟨⟨k,isMessage,inside⟩,rest⟩ := sound.fragment e member
      exact ⟨⟨k,old isMessage,inside⟩,rest⟩
    · obtain ⟨⟨k,rfl,isLast,inside⟩,⟨data,isData,index,-⟩,isCommitted,-⟩ := isFragment e member
      rw [isCommitted]
      exact ⟨⟨k,isLast ▸ last,inside⟩,⟨data,isData,index⟩,iff_of_false Bool.false_ne_true (uncommitted isLast)⟩
  · intro e member p isCommitted same
    rcases List.mem_append.mp member with member | member
    · exact sound.started e member p isCommitted same
    · exact absurd isCommitted (uncommitted (same.trans (newFragment e member)))
  · intro e member other isOther same
    rcases List.mem_append.mp member with member | member <;> rcases List.mem_append.mp isOther with isOther | isOther
    · exact sound.alike e member other isOther same
    · exact absurd (same.trans (newFragment other isOther)) (oldFragment e member).ne
    · exact absurd (same.symm.trans (newFragment e member)) (oldFragment other isOther).ne
    · obtain ⟨-,⟨data,isData,-,named⟩,-,started⟩ := isFragment e member
      obtain ⟨-,⟨data',isData',-,named'⟩,-,started'⟩ := isFragment other isOther
      simp only [PendingSendMessage.fragment_message_id,isData,isData',named,named',started,started',and_self]
  · exact nodup_append_new sound.distinct_singles distinct_singles
      (fun p member => sound.old (by rw [List.map_append]; exact List.mem_append_left _ member)) newSingle
  · exact nodup_append_new sound.distinct_fragments distinct_fragments
      (fun p member => sound.old (by rw [List.map_append]; exact List.mem_append_right _ member)) newFragment
  · intro p member
    obtain ⟨other,isMessage,inside⟩ := sound.known p member
    exact ⟨other,old isMessage,inside⟩
  · have labels : ∀ p : Piece, p ∈ ((singles ++ newSingles) ++ (fragments ++ newFragments)).map Prod.snd ↔
        p ∈ (singles ++ fragments).map Prod.snd ∨ p ∈ (newSingles ++ newFragments).map Prod.snd := by
      intro p
      simp only [List.map_append,List.mem_append]
      tauto
    have isLast : ∀ {p : Piece}, p ∈ (newSingles ++ newFragments).map Prod.snd → p.1 = messages.length := by
      intro p member
      obtain ⟨e,isEntry,rfl⟩ := List.mem_map.mp member
      rcases List.mem_append.mp isEntry with isEntry | isEntry
      · exact newSingle e isEntry
      · exact newFragment e isEntry
    intro n other isMessage
    rcases Nat.lt_or_ge n messages.length with before | behind
    · rw [List.getElem?_append_left before] at isMessage
      rcases sound.whole n other isMessage with whole | gone
      · exact .inl fun i inside => (whole i inside).imp_right fun member => (labels _).mpr (.inl member)
      · refine .inr fun i inside => ⟨(gone i inside).1,fun member => ?_⟩
        rcases (labels _).mp member with isOld | isNew
        · exact (gone i inside).2 isOld
        · exact before.ne (isLast isNew)
    · have isN : n = messages.length := by
        have := inside_of_getElem? isMessage
        rw [List.length_append,List.length_singleton] at this
        omega
      subst isN
      obtain rfl := Option.some.inj (last.symm.trans isMessage)
      exact .inl fun i inside => .inr ((labels _).mpr (.inr (whole i inside)))

/-- What is committed of a message stays, whatever else is. -/
private theorem whole_commit {labels : List Piece} {x : Piece} (isLabel : x ∈ labels)
    (whole : ∀ (n : Nat) message, messages[n]? = some message →
      (∀ i < pieces message, (n,i) ∈ committed ∨ (n,i) ∈ labels) ∨ ∀ i < pieces message, (n,i) ∉ committed ∧
        (n,i) ∉ labels)
    {n : Nat} {message : Option Nat} (isMessage : messages[n]? = some message) :
    (∀ i < pieces message, (n,i) ∈ committed ++ [x] ∨ (n,i) ∈ labels) ∨
      ∀ i < pieces message, (n,i) ∉ committed ++ [x] ∧ (n,i) ∉ labels := by
  rcases whole n message isMessage with whole | gone
  · exact .inl fun i inside => (whole i inside).imp_left (List.mem_append_left _)
  · refine .inr fun i inside => ⟨fun member => ?_,(gone i inside).2⟩
    rcases List.mem_append.mp member with member | member
    · exact (gone i inside).1 member
    · exact (gone i inside).2 (List.mem_singleton.mp member ▸ isLabel)

theorem Sound.commit_single (sound : Sound messages committed singles fragments) {i : Nat} {e : Entry}
    (atIndex : singles[i]? = some e) : Sound messages (committed ++ [e.2]) (singles.modify i commits) fragments := by
  have labels : (singles.modify i commits).map Prod.snd = singles.map Prod.snd :=
    map_modify (fun e => rfl : ∀ e, (commits e).2 = e.2) singles i
  have isSingle := sound.single e (List.mem_of_getElem? atIndex)
  have otherMessage : ∀ other ∈ fragments, other.2.1 ≠ e.2.1 := fun other member same => by
    obtain ⟨⟨k,isMessage,-⟩,-⟩ := sound.fragment other member
    rw [same,isSingle.1] at isMessage
    cases isMessage
  constructor
  · intro other member
    obtain ⟨j,old,stored,rfl⟩ := mem_modify member
    obtain ⟨isMessage,first,isCommitted⟩ := sound.single old (List.mem_of_getElem? stored)
    split
    next here =>
      subst here
      obtain rfl := Option.some.inj (atIndex.symm.trans stored)
      exact ⟨isMessage,first,iff_of_true rfl (List.mem_append_right _ (List.mem_singleton_self _))⟩
    next elsewhere =>
      have different : old.2 ≠ e.2 :=
        fun same => elsewhere (position_eq sound.distinct_singles atIndex stored same.symm)
      simp only [List.mem_append,List.mem_singleton,different,or_false]
      exact ⟨isMessage,first,isCommitted⟩
  · intro other member
    obtain ⟨isMessage,shape,isCommitted⟩ := sound.fragment other member
    have different : other.2 ≠ e.2 := fun same => otherMessage other member (congrArg Prod.fst same)
    simp only [List.mem_append,List.mem_singleton,different,or_false]
    exact ⟨isMessage,shape,isCommitted⟩
  · intro other member p isCommitted same
    rcases List.mem_append.mp isCommitted with isCommitted | isNew
    · exact sound.started other member p isCommitted same
    · rw [List.mem_singleton.mp isNew] at same
      exact absurd same.symm (otherMessage other member)
  · exact sound.alike
  · rw [labels]
    exact sound.distinct_singles
  · exact sound.distinct_fragments
  · intro p member
    rcases List.mem_append.mp member with member | isNew
    · exact sound.known p member
    · rw [List.mem_singleton.mp isNew]
      exact ⟨none,isSingle.1,by rw [isSingle.2.1]; exact Nat.one_pos⟩
  · intro n message isMessage
    rw [List.map_append,labels,← List.map_append]
    exact whole_commit (List.mem_map_of_mem (List.mem_append_left _ (List.mem_of_getElem? atIndex))) sound.whole
      isMessage

theorem Sound.commit_fragment (sound : Sound messages committed singles fragments) {i : Nat} {e : Entry}
    (atIndex : fragments[i]? = some e) {message_id : MessageId} (named : e.1.fragment_message_id = some message_id) :
    Sound messages (committed ++ [e.2]) singles
      ((fragments.modify i commits).map (starts e.1.fragment_started message_id)) := by
  have labels : ((fragments.modify i commits).map (starts e.1.fragment_started message_id)).map Prod.snd =
      fragments.map Prod.snd := by
    rw [List.map_map,← map_modify (fun e => rfl : ∀ e, (commits e).2 = e.2) fragments i]
    exact List.map_congr_left fun e _ => starts_piece ..
  have change : ∀ new ∈ (fragments.modify i commits).map (starts e.1.fragment_started message_id), ∃ j old,
      fragments[j]? = some old ∧ new.2 = old.2 ∧ new.1.message = old.1.message ∧
        (new.1.committed = true ↔ old.1.committed = true ∨ i = j) ∧
        new.1.fragment_started = (old.1.fragment_started ||
          !e.1.fragment_started && decide (old.1.fragment_message_id = some message_id)) := by
    intro new member
    obtain ⟨middle,isMiddle,rfl⟩ := List.mem_map.mp member
    obtain ⟨j,old,stored,rfl⟩ := mem_modify isMiddle
    refine ⟨j,old,stored,?_⟩
    split
    · next here => exact ⟨by simp [commits],by simp [commits,commit],by simp [commits,commit,here],starts_started ..⟩
    · next elsewhere => exact ⟨by simp,by simp,by simp [elsewhere],by simp⟩
  have isEntry := List.mem_of_getElem? atIndex
  obtain ⟨⟨k,isMessage,inside⟩,-⟩ := sound.fragment e isEntry
  constructor
  · intro other member
    obtain ⟨isSingle,first,isCommitted⟩ := sound.single other member
    have different : other.2 ≠ e.2 := fun same => by
      rw [congrArg Prod.fst same,isMessage] at isSingle
      cases isSingle
    simp only [List.mem_append,List.mem_singleton,different,or_false]
    exact ⟨isSingle,first,isCommitted⟩
  · intro new member
    obtain ⟨j,old,stored,label,message,isCommitted,-⟩ := change new member
    obtain ⟨isFragment,shape,wasCommitted⟩ := sound.fragment old (List.mem_of_getElem? stored)
    rw [label,message,isCommitted,wasCommitted,List.mem_append,List.mem_singleton]
    refine ⟨isFragment,shape,
      or_congr_right ⟨fun same => ?_,fun same => position_eq sound.distinct_fragments atIndex stored same.symm⟩⟩
    subst same
    rw [Option.some.inj (stored.symm.trans atIndex)]
  · intro new member p isCommitted same
    obtain ⟨j,old,stored,label,-,-,isStarted⟩ := change new member
    have wasEntry := List.mem_of_getElem? stored
    rw [isStarted]
    rw [label] at same
    rcases List.mem_append.mp isCommitted with isCommitted | isNew
    · rw [sound.started old wasEntry p isCommitted same,Bool.true_or]
    · rw [List.mem_singleton.mp isNew] at same
      obtain ⟨sameId,sameStart⟩ := sound.alike e isEntry old wasEntry same
      rw [← sameId,named,← sameStart]
      cases e.1.fragment_started <;> simp
  · intro new member other isOther same
    obtain ⟨j,old,stored,label,message,-,isStarted⟩ := change new member
    obtain ⟨j',old',stored',label',message',-,isStarted'⟩ := change other isOther
    rw [label,label'] at same
    obtain ⟨sameId,sameStart⟩ := sound.alike old (List.mem_of_getElem? stored) old' (List.mem_of_getElem? stored') same
    rw [isStarted,isStarted',sameId,sameStart]
    refine ⟨?_,rfl⟩
    simp only [PendingSendMessage.fragment_message_id,message,message'] at sameId ⊢
    exact sameId
  · exact sound.distinct_singles
  · rw [labels]
    exact sound.distinct_fragments
  · intro p member
    rcases List.mem_append.mp member with member | isNew
    · exact sound.known p member
    · rw [List.mem_singleton.mp isNew]
      exact ⟨some k,isMessage,inside⟩
  · intro n message isMessage
    rw [List.map_append,labels,← List.map_append]
    exact whole_commit (List.mem_map_of_mem (List.mem_append_right _ isEntry)) sound.whole isMessage

theorem Sound.finish (sound : Sound messages committed singles fragments) (discard : Bool) :
    Sound messages committed (singles.filter fun e => Flow.keeps_single discard e.1)
      (fragments.filter fun e => Flow.keeps_fragment discard e.1) := by
  have stillSingle : ∀ e ∈ singles.filter fun e => Flow.keeps_single discard e.1, e ∈ singles :=
    fun e => List.mem_of_mem_filter
  have stillFragment : ∀ e ∈ fragments.filter fun e => Flow.keeps_fragment discard e.1, e ∈ fragments :=
    fun e => List.mem_of_mem_filter
  constructor
  · exact fun e member => sound.single e (stillSingle e member)
  · exact fun e member => sound.fragment e (stillFragment e member)
  · exact fun e member => sound.started e (stillFragment e member)
  · exact fun e member other isOther => sound.alike e (stillFragment e member) other (stillFragment other isOther)
  · exact sound.distinct_singles.sublist (List.filter_sublist.map _)
  · exact sound.distinct_fragments.sublist (List.filter_sublist.map _)
  · exact sound.known
  · intro n message isMessage
    rcases sound.whole n message isMessage with whole | gone
    · by_cases kept : ∀ e ∈ singles ++ fragments, e.2.1 = n → e.2 ∉ committed →
          e ∈ (singles.filter fun e => Flow.keeps_single discard e.1) ++ fragments.filter fun e =>
            Flow.keeps_fragment discard e.1
      · refine .inl fun i inside => (whole i inside).elim .inl fun member => ?_
        by_cases isCommitted : (n,i) ∈ committed
        · exact .inl isCommitted
        · obtain ⟨e,isEntry,label⟩ := List.mem_map.mp member
          exact .inr (List.mem_map.mpr ⟨e,kept e isEntry (by rw [label]) (label ▸ isCommitted),label⟩)
      · simp only [not_forall] at kept
        obtain ⟨e,isEntry,rfl,waits,dropped⟩ := kept
        rw [List.mem_append,not_or] at dropped
        rcases List.mem_append.mp isEntry with isEntry | isEntry
        · -- A single message is given up with all others.
          obtain ⟨isSingle,first,isCommitted⟩ := sound.single e isEntry
          obtain rfl := Option.some.inj (isSingle.symm.trans isMessage)
          have discards : discard = true := by
            have notKept := fun keeps => dropped.1 (List.mem_filter.mpr ⟨isEntry,keeps⟩)
            simpa [Flow.keeps_single,isCommitted,waits] using notKept
          refine .inr fun i inside => ⟨?_,fun member => ?_⟩
          · obtain rfl : i = 0 := Nat.lt_one_iff.mp inside
            exact first ▸ waits
          · obtain ⟨other,isOther,label⟩ := List.mem_map.mp member
            rcases List.mem_append.mp isOther with isOther | isOther
            · simpa [Flow.keeps_single,discards] using (List.mem_filter.mp isOther).2
            · obtain ⟨⟨k,isFragment,-⟩,-⟩ := sound.fragment other (stillFragment other isOther)
              rw [label,isSingle] at isFragment
              cases isFragment
        · -- No fragment of the message is committed, and none of them is kept.
          obtain ⟨⟨k,isFragment,-⟩,-,isCommitted⟩ := sound.fragment e isEntry
          have notKept := fun keeps => dropped.2 (List.mem_filter.mpr ⟨isEntry,keeps⟩)
          simp only [Flow.keeps_fragment,Bool.and_eq_true,Bool.or_eq_true,Bool.not_eq_true',isCommitted,waits,
            Bool.eq_false_iff,ne_eq,not_false_eq_true,true_and] at notKept
          obtain ⟨discards,unstarted⟩ := not_or.mp notKept
          refine .inr fun i inside => ⟨fun member => unstarted (sound.started e isEntry _ member rfl),fun member => ?_⟩
          obtain ⟨other,isOther,label⟩ := List.mem_map.mp member
          rcases List.mem_append.mp isOther with isOther | isOther
          · obtain ⟨isSingle,-⟩ := sound.single other (stillSingle other isOther)
            rw [label,isFragment] at isSingle
            cases isSingle
          · have same := (sound.alike e isEntry other (stillFragment other isOther) (by rw [label])).2
            have keeps := (List.mem_filter.mp isOther).2
            rw [Flow.keeps_fragment,not_not.mp discards,← same] at keeps
            simp [unstarted] at keeps
    · refine .inr fun i inside => ⟨(gone i inside).1,fun member => (gone i inside).2 ?_⟩
      obtain ⟨e,isEntry,label⟩ := List.mem_map.mp member
      exact List.mem_map.mpr ⟨e,(List.mem_append.mp isEntry).elim
        (fun isEntry => List.mem_append_left _ (stillSingle e isEntry))
        (fun isEntry => List.mem_append_right _ (stillFragment e isEntry)),label⟩

end Sound

/-! ### What the operations do to the queues -/

section Operations
variable {lz4 : Lz4} {self self' : UnreliableSendState}

/-- A message is buffered as a single one, or in fragments that have the next id. -/
theorem buffer_send_cases {fragmenter : FragmentSender} {message : Bytes} {config : CompressionConfig}
    {id : Option MessageId} (executed : self.buffer_send lz4 fragmenter message config = some (self',id)) :
    (message.length ≤ fragmenter.fragment_size ∧
      self'.singles = self.singles ++
        [.new (.Single ⟨if self.delivery ≠ .Unordered then some self.next_message_id else none,message⟩)] ∧
      self'.fragments = self.fragments ∧ self'.fragment_acks = self.fragment_acks ∨
    fragmenter.fragment_size < message.length ∧ self'.singles = self.singles ∧
      self'.fragments = self.fragments ++
        (cut lz4 fragmenter self.next_message_id message config).pieces.map (fun data => .new (.Fragment data)) ∧
      self'.fragment_acks = self.fragment_acks.map (·.add_new_fragment_to_wait_for self.next_message_id
        (cut lz4 fragmenter self.next_message_id message config).count)) ∧
    self'.delivery = self.delivery ∧ self'.retry_unsent_messages = self.retry_unsent_messages ∧
    (self.delivery ≠ .Unordered → self'.next_message_id = self.next_message_id.add_assign 1) := by
  unfold buffer_send at executed
  dsimp only at executed
  obtain ⟨queued,isQueued,finished⟩ := Option.map_eq_some_iff.mp executed
  by_cases large : message.length > fragmenter.fragment_size
  · rw [if_pos (decide_eq_true large),build_fragments_cut large,Option.map_some] at isQueued
    obtain rfl := Option.some.inj isQueued
    rw [decide_eq_true large,Bool.true_or,if_pos rfl] at finished
    cases finished
    refine ⟨.inr ⟨large,rfl,rfl,?_⟩,rfl,rfl,fun _ => rfl⟩
    simp [Fragmented.pieces]
  · rw [if_neg (by simpa using large)] at isQueued
    obtain rfl := Option.some.inj isQueued
    rw [decide_eq_false large,Bool.false_or] at finished
    by_cases unordered : self.delivery = .Unordered
    · simp only [unordered,ne_eq,not_true_eq_false,decide_false,Bool.false_eq_true,if_false] at finished
      cases finished
      exact ⟨.inl ⟨Nat.not_lt.mp large,by simp [unordered],rfl,rfl⟩,unordered.symm,rfl,
        fun ordered => absurd unordered ordered⟩
    · simp only [unordered,ne_eq,not_false_eq_true,decide_true,if_true] at finished
      cases finished
      exact ⟨.inl ⟨Nat.not_lt.mp large,by simp [unordered],rfl,rfl⟩,rfl,rfl,fun _ => rfl⟩

/-- A candidate is an entry that is not committed. -/
theorem candidate_cases {c : SendUnreliable.SendCandidate} (member : c ∈ self.collect_candidates) :
    (∃ i p, self.singles[i]? = some p ∧ p.committed = false ∧ c = ⟨.UnreliableSingle i,p.message⟩) ∨
      ∃ i p, self.fragments[i]? = some p ∧ p.committed = false ∧ c = ⟨.UnreliableFragment i,p.message⟩ := by
  have entry : ∀ {key : Nat → SendMessageKey} {queue : List PendingSendMessage}, c ∈ uncommitted key queue →
      ∃ i p, queue[i]? = some p ∧ p.committed = false ∧ c = ⟨key i,p.message⟩ := by
    intro key queue member
    obtain ⟨⟨p,i⟩,filtered,rfl⟩ := List.mem_map.mp member
    obtain ⟨isEntry,waits⟩ := List.mem_filter.mp filtered
    exact ⟨i,p,List.mem_zipIdx_iff_getElem?.mp isEntry,by simpa using waits,rfl⟩
  exact (List.mem_append.mp member).imp entry entry

theorem finish_send_queues (self : UnreliableSendState) (outcome : SendFlushOutcome) (was_ready : Bool) :
    (self.finish_send outcome was_ready).singles =
        self.singles.filter (Flow.keeps_single (self.discard_unsent outcome was_ready)) ∧
      (self.finish_send outcome was_ready).fragments =
        self.fragments.filter (Flow.keeps_fragment (self.discard_unsent outcome was_ready)) := by
  unfold finish_send
  cases self.discard_unsent outcome was_ready with
  | false =>
    refine ⟨List.filter_congr fun p _ => ?_,List.filter_congr fun p _ => ?_⟩
    · simp [Flow.keeps_single]
    · simp [Flow.keeps_fragment]
  | true =>
    refine ⟨?_,List.filter_congr fun p _ => ?_⟩
    · simp [Flow.keeps_single]
    · simp [Flow.keeps_fragment]

theorem receive_ack_queues {ack : MessageAck} {completed : Bool}
    (executed : self.receive_ack ack = some (self',completed)) :
    self'.singles = self.singles ∧ self'.fragments = self.fragments := by
  unfold UnreliableSendState.receive_ack at executed
  split at executed
  next => cases executed; exact ⟨rfl,rfl⟩
  next =>
  split at executed
  next => cases executed; exact ⟨rfl,rfl⟩
  next =>
    obtain ⟨⟨fragment_acks,_⟩,-,same⟩ := Option.map_eq_some_iff.mp executed
    cases same
    exact ⟨rfl,rfl⟩

theorem receive_nack_queues (self : UnreliableSendState) (nack : MessageAck) :
    (self.receive_nack nack).singles = self.singles ∧ (self.receive_nack nack).fragments = self.fragments := by
  unfold receive_nack
  split <;> exact ⟨rfl,rfl⟩

end Operations

namespace Flow

def single_entries (s : Flow) : List Entry := s.sender.singles.zip s.singles
def fragment_entries (s : Flow) : List Entry := s.sender.fragments.zip s.fragments

structure Tracked (s : Flow) : Prop where
  singles : s.sender.singles.length = s.singles.length
  fragments : s.sender.fragments.length = s.fragments.length
  sound : Sound s.messages s.committed s.single_entries s.fragment_entries

variable {lz4 : Lz4} {s s' : Flow}

theorem tracked_start (delivery : UnreliableDelivery) (retry_unsent_messages : Bool) :
    (start delivery retry_unsent_messages).Tracked := ⟨rfl,rfl,sound_nil⟩

theorem waiting_eq (tracked : s.Tracked) : s.waiting =
    (s.single_entries.filter fun e => !e.1.committed).map Prod.snd ++
      (s.fragment_entries.filter fun e => !e.1.committed).map Prod.snd := by
  rw [single_entries,fragment_entries]
  change _ = keepLabels (fun p : PendingSendMessage => !p.committed) _ _ ++
    keepLabels (fun p : PendingSendMessage => !p.committed) _ _
  rw [← labels_at_positions _ tracked.singles,← labels_at_positions _ tracked.fragments]
  simp only [waiting,collect_candidates,uncommitted,List.filterMap_append,List.filterMap_map]
  rfl

theorem mem_waiting (tracked : s.Tracked) {p : Piece} :
    p ∈ s.waiting ↔ p ∈ (s.single_entries ++ s.fragment_entries).map Prod.snd ∧ p ∉ s.committed := by
  have sound := tracked.sound
  rw [waiting_eq tracked,← List.map_append,← List.filter_append,List.mem_map]
  constructor
  · rintro ⟨e,filtered,rfl⟩
    obtain ⟨member,waits⟩ := List.mem_filter.mp filtered
    refine ⟨List.mem_map_of_mem member,fun isCommitted => ?_⟩
    rcases List.mem_append.mp member with member | member
    · simp [(sound.single e member).2.2.mpr isCommitted] at waits
    · simp [(sound.fragment e member).2.2.mpr isCommitted] at waits
  · rintro ⟨member,waits⟩
    obtain ⟨e,isEntry,rfl⟩ := List.mem_map.mp member
    refine ⟨e,List.mem_filter.mpr ⟨isEntry,?_⟩,rfl⟩
    rcases List.mem_append.mp isEntry with isEntry | isEntry
    · simpa using mt (sound.single e isEntry).2.2.mp waits
    · simpa using mt (sound.fragment e isEntry).2.2.mp waits

/-- Only the queues, what the messages are and what is committed matter. -/
theorem Tracked.same_queues (tracked : s.Tracked) (senderSingles : s'.sender.singles = s.sender.singles)
    (senderFragments : s'.sender.fragments = s.sender.fragments) (singles : s'.singles = s.singles)
    (fragments : s'.fragments = s.fragments) (messages : s'.messages = s.messages)
    (committed : s'.committed = s.committed) : s'.Tracked := by
  refine ⟨?_,?_,?_⟩
  · rw [senderSingles,singles,tracked.singles]
  · rw [senderFragments,fragments,tracked.fragments]
  · rw [single_entries,fragment_entries,senderSingles,senderFragments,singles,fragments,messages,committed]
    exact tracked.sound

private theorem added_append (n : Nat) (before new : List PendingSendMessage) :
    added n before (before ++ new) = (List.range new.length).map (n,·) := by
  rw [added,List.length_append,Nat.add_sub_cancel_left]

private theorem added_self (n : Nat) (queue : List PendingSendMessage) : added n queue queue = [] := by
  rw [added,Nat.sub_self]
  rfl

/-- What a message adds to the queues. -/
theorem send_cases {fragmenter : FragmentSender} {message : Bytes} {compression : CompressionConfig}
    (tracked : s.Tracked)
    (executed : s.step lz4 (.Send fragmenter message compression) = some s') :
    ∃ sender id, s.sender.buffer_send lz4 fragmenter message compression = some (sender,id) ∧
      (s' = { s with sender,messages := s.messages ++ [none],singles := s.singles ++ [(s.messages.length,0)] } ∧
        message.length ≤ fragmenter.fragment_size ∧ sender.fragment_acks = s.sender.fragment_acks ∧
        s'.fragment_entries = s.fragment_entries ∧ s'.single_entries = s.single_entries ++
          [(.new (.Single ⟨if s.sender.delivery ≠ .Unordered then some s.sender.next_message_id else none,message⟩),
            (s.messages.length,0))] ∨
      s' = { s with
          sender,
          messages := s.messages ++ [some (cut lz4 fragmenter s.sender.next_message_id message compression).count],
          fragments := s.fragments ++
            (List.range (cut lz4 fragmenter s.sender.next_message_id message compression).count).map (s.messages.length,
              ·) } ∧
        fragmenter.fragment_size < message.length ∧
        sender.fragment_acks = s.sender.fragment_acks.map (·.add_new_fragment_to_wait_for s.sender.next_message_id
          (cut lz4 fragmenter s.sender.next_message_id message compression).count) ∧
        s'.single_entries = s.single_entries ∧ s'.fragment_entries = s.fragment_entries ++
          (List.range (cut lz4 fragmenter s.sender.next_message_id message compression).count).map fun i =>
            (.new (.Fragment ((cut lz4 fragmenter s.sender.next_message_id message compression).piece i)),
              (s.messages.length,i))) := by
  obtain ⟨⟨sender,id⟩,buffers,rfl⟩ := Option.map_eq_some_iff.mp executed
  refine ⟨sender,id,buffers,?_⟩
  obtain ⟨⟨short,singles,fragments,acks⟩ | ⟨long,singles,fragments,acks⟩,-⟩ := buffer_send_cases buffers
  · refine .inl ⟨?_,short,acks,?_,?_⟩
    · simp only [singles,fragments,added_append,added_self]
      simp
    · simp only [fragment_entries,fragments,added_self,List.append_nil]
    · simp only [single_entries,singles,added_append]
      rw [List.zip_append tracked.singles]
      rfl
  · have some_fragments : (List.range (cut lz4 fragmenter s.sender.next_message_id message compression).count).map
        (s.messages.length,·) ≠ [] := by
      have positive : 0 < (cut lz4 fragmenter s.sender.next_message_id message compression).count := cut_count_pos long
      simpa using positive.ne'
    refine .inr ⟨?_,long,acks,?_,?_⟩
    · simp only [singles,fragments,added_append,added_self,List.length_map,Fragmented.pieces,List.length_range,
        if_neg some_fragments,List.append_nil]
    · simp only [single_entries,singles,added_self,List.append_nil]
    · simp only [fragment_entries,fragments,added_append,List.length_map,Fragmented.pieces,List.length_range]
      rw [List.zip_append tracked.fragments,List.map_map,List.zip_map']
      rfl

/-- What a commit does to the queues and to what is recorded. -/
theorem commit_cases {candidate : Nat} (tracked : s.Tracked) (executed : s.step lz4 (.Commit candidate) = some s') :
    ∃ e, s'.committed = s.committed ++ [e.2] ∧ s'.messages = s.messages ∧ s'.acked = s.acked ∧
      s'.reported = s.reported ∧
      s'.recorded = s.recorded ++
        (if watches_acks s.sender then (recorded_ack e.1.message).toList else []).map (⟨e.2,·⟩) ∧
      s'.sender.fragment_acks = s.sender.fragment_acks ∧ s'.sender.delivery = s.sender.delivery ∧
      s'.sender.next_message_id = s.sender.next_message_id ∧
      s'.sender.singles.length = s'.singles.length ∧ s'.sender.fragments.length = s'.fragments.length ∧
        e.1.committed = false ∧
      ((∃ i, s.single_entries[i]? = some e ∧ s'.fragment_entries = s.fragment_entries ∧
          s'.single_entries = s.single_entries.modify i commits) ∨
        ∃ i message_id, s.fragment_entries[i]? = some e ∧ e.1.fragment_message_id = some message_id ∧
          s'.single_entries = s.single_entries ∧
          s'.fragment_entries =
            (s.fragment_entries.modify i commits).map (starts e.1.fragment_started message_id)) := by
  simp only [step] at executed
  split at executed
  next => cases executed
  next c isCandidate =>
  obtain ⟨sender,committed,rfl⟩ := Option.map_eq_some_iff.mp executed
  rcases candidate_cases (List.mem_of_getElem? isCandidate) with ⟨i,p,stored,waits,rfl⟩ | ⟨i,p,stored,waits,rfl⟩
  · have inside : i < s.singles.length := tracked.singles ▸ (List.getElem?_eq_some_iff.mp stored).1
    obtain ⟨x,label⟩ : ∃ x, s.singles[i]? = some x := ⟨_,List.getElem?_eq_getElem inside⟩
    obtain rfl := Option.some.inj committed
    refine ⟨(p,x),?_,rfl,rfl,rfl,?_,rfl,rfl,rfl,?_,tracked.fragments,waits,.inl ⟨i,?_,rfl,?_⟩⟩
    · simp only [piece,label,Option.toList_some]
    · simp only [piece,label,Option.toList_some,List.flatMap_cons,List.flatMap_nil,List.append_nil]
    · simp only [List.length_modify,tracked.singles]
    · exact List.getElem?_zip_eq_some.mpr ⟨stored,label⟩
    · exact zip_modify commit s.sender.singles s.singles i
  · have inside : i < s.fragments.length := tracked.fragments ▸ (List.getElem?_eq_some_iff.mp stored).1
    obtain ⟨x,label⟩ : ∃ x, s.fragments[i]? = some x := ⟨_,List.getElem?_eq_getElem inside⟩
    have atIndex : s.fragment_entries[i]? = some (p,x) := List.getElem?_zip_eq_some.mpr ⟨stored,label⟩
    obtain ⟨-,⟨data,isData,-⟩,-⟩ := tracked.sound.fragment _ (List.mem_of_getElem? atIndex)
    have named : p.fragment_message_id = some data.message_id := by rw [PendingSendMessage.fragment_message_id,isData]
    simp only [commit_send,stored,named,Option.some.injEq] at committed
    obtain rfl := committed
    refine ⟨(p,x),?_,rfl,rfl,rfl,?_,rfl,rfl,rfl,tracked.singles,?_,waits,.inr ⟨i,data.message_id,atIndex,named,rfl,?_⟩⟩
    · simp only [piece,label,Option.toList_some]
    · simp only [piece,label,Option.toList_some,List.flatMap_cons,List.flatMap_nil,List.append_nil]
    · simp only
      split <;> simp only [List.length_map,List.length_modify,tracked.fragments]
    · have modified := zip_modify commit s.sender.fragments s.fragments i
      simp only [fragment_entries] at modified ⊢
      change _ = ((s.sender.fragments.zip s.fragments).modify i fun entry => (commit entry.1,entry.2)).map _
      rw [← modified]
      cases isStarted : p.fragment_started with
      | true =>
        rw [if_pos rfl]
        exact (List.map_id _).symm
      | false =>
        rw [if_neg Bool.false_ne_true,List.zip_map_left]
        rfl

theorem finish_entries (s : Flow) (outcome : SendFlushOutcome) (was_ready : Bool) :
    (s.finish outcome was_ready).single_entries =
        s.single_entries.filter (fun e => keeps_single (s.sender.discard_unsent outcome was_ready) e.1) ∧
      (s.finish outcome was_ready).fragment_entries =
        s.fragment_entries.filter fun e => keeps_fragment (s.sender.discard_unsent outcome was_ready) e.1 := by
  obtain ⟨singles,fragments⟩ := finish_send_queues s.sender outcome was_ready
  rw [single_entries,single_entries,fragment_entries,fragment_entries,finish,singles,fragments]
  exact ⟨zip_keepLabels ..,zip_keepLabels ..⟩

/-- The queues and what is committed stay sound. -/
theorem Tracked.step (tracked : s.Tracked) {event : Event} (executed : s.step lz4 event = some s') : s'.Tracked := by
  cases event with
  | Send fragmenter message compression =>
    obtain ⟨sender,id,buffers,sent⟩ := send_cases tracked executed
    obtain ⟨queues,-⟩ := buffer_send_cases buffers
    rcases sent with ⟨rfl,short,-,fragments,singles⟩ | ⟨rfl,long,-,singles,fragments⟩
    · rcases queues with ⟨-,addedSingles,addedFragments,-⟩ | ⟨long,-⟩
      · refine ⟨?_,?_,?_⟩
        · simp only [addedSingles,List.length_append,tracked.singles,List.length_singleton]
        · rw [addedFragments,tracked.fragments]
        · rw [singles,fragments,← List.append_nil s.fragment_entries]
          refine tracked.sound.add .zero (by simp [PendingSendMessage.new]) (by simp) (by simp) (by simp) ?_
          intro i inside
          obtain rfl : i = 0 := Nat.lt_one_iff.mp inside
          simp
      · omega
    · rcases queues with ⟨short,-⟩ | ⟨-,addedSingles,addedFragments,-⟩
      · omega
      · refine ⟨?_,?_,?_⟩
        · rw [addedSingles,tracked.singles]
        · simp only [addedFragments,List.length_append,tracked.fragments,List.length_map,Fragmented.pieces,
            List.length_range]
        · rw [singles,fragments,← List.append_nil s.single_entries]
          refine tracked.sound.add s.sender.next_message_id (by simp) ?_ (by simp) ?_ ?_
          · intro e member
            obtain ⟨i,inside,rfl⟩ := List.mem_map.mp member
            exact ⟨⟨_,rfl,rfl,List.mem_range.mp inside⟩,⟨_,rfl,rfl,cut_message_id ..⟩,rfl,rfl⟩
          · rw [List.map_map]
            exact List.nodup_range.map fun i j same => (Prod.mk.inj same).2
          · intro i inside
            simpa [pieces] using inside
  | Commit candidate =>
    obtain ⟨e,committed,messages,-,-,-,-,-,-,lengthSingles,lengthFragments,-,shape⟩ := commit_cases tracked executed
    refine ⟨lengthSingles,lengthFragments,?_⟩
    rw [committed,messages]
    rcases shape with ⟨i,atIndex,fragments,singles⟩ | ⟨i,message_id,atIndex,named,singles,fragments⟩
    · rw [fragments,singles]
      exact tracked.sound.commit_single atIndex
    · rw [fragments,singles]
      exact tracked.sound.commit_fragment atIndex named
  | Finish outcome was_ready =>
    cases executed
    obtain ⟨singles,fragments⟩ := finish_send_queues s.sender outcome was_ready
    refine ⟨?_,?_,?_⟩
    · rw [Flow.finish,singles]
      exact length_keepLabels _ tracked.singles
    · rw [Flow.finish,fragments]
      exact length_keepLabels _ tracked.fragments
    · obtain ⟨singles,fragments⟩ := finish_entries s outcome was_ready
      rw [singles,fragments]
      exact tracked.sound.finish _
  | Ack record =>
    simp only [Flow.step] at executed
    split at executed
    next => cases executed
    next piece ack _ =>
    obtain ⟨⟨sender,completed⟩,acks,rfl⟩ := Option.map_eq_some_iff.mp executed
    obtain ⟨singles,fragments⟩ := receive_ack_queues acks
    exact tracked.same_queues singles fragments rfl rfl rfl rfl
  | Lose record =>
    simp only [Flow.step] at executed
    split at executed
    next => cases executed
    next piece ack _ =>
    cases executed
    obtain ⟨singles,fragments⟩ := receive_nack_queues s.sender ack
    exact tracked.same_queues singles fragments rfl rfl rfl rfl
  | Update elapsed =>
    cases executed
    exact tracked.same_queues rfl rfl rfl rfl rfl rfl

theorem tracked_reached {meets : Flow → Event → Flow → Prop} {delivery : UnreliableDelivery}
    {retry_unsent_messages : Bool}
    (reached : Runs.Reaches (step lz4) meets (start delivery retry_unsent_messages) s) : s.Tracked := by
  refine reached.invariant Tracked (tracked_start delivery retry_unsent_messages) ?_
  intro before event after tracked executed _
  exact tracked.step executed

/-! ### What a channel offers -/

/-- What the channel does not give up at the end of a flush: everything, or what belongs to a message that a packet
    has a piece of. -/
def retained (s : Flow) (outcome : SendFlushOutcome) (was_ready : Bool) (p : Piece) : Bool :=
  !s.sender.discard_unsent outcome was_ready || s.committed.any fun sent => sent.1 == p.1

/-- A piece is not offered after it was committed. -/
theorem Tracked.committed_once (tracked : s.Tracked) {p : Piece} (isCommitted : p ∈ s.committed) : p ∉ s.waiting :=
  fun waits => ((mem_waiting tracked).mp waits).2 isCommitted

/-- A message is committed or offered piece by piece, or gone as a whole. -/
theorem Tracked.whole_or_gone (tracked : s.Tracked) {n : Nat} {message : Option Nat}
    (isMessage : s.messages[n]? = some message) :
    (∀ i < pieces message, (n,i) ∈ s.committed ∨ (n,i) ∈ s.waiting) ∨
      ∀ i < pieces message, (n,i) ∉ s.committed ∧ (n,i) ∉ s.waiting := by
  refine (tracked.sound.whole n message isMessage).imp (fun whole i inside => ?_) fun gone i inside => ?_
  · by_cases isCommitted : (n,i) ∈ s.committed
    · exact .inl isCommitted
    · exact .inr ((mem_waiting tracked).mpr ⟨(whole i inside).resolve_left isCommitted,isCommitted⟩)
  · exact ⟨(gone i inside).1,fun waits => (gone i inside).2 ((mem_waiting tracked).mp waits).1⟩

theorem Tracked.finish (tracked : s.Tracked) (outcome : SendFlushOutcome) (was_ready : Bool) :
    (s.finish outcome was_ready).Tracked :=
  Tracked.step tracked
    (show Flow.step Lz4.literals s (.Finish outcome was_ready) = some (s.finish outcome was_ready) from rfl)

private theorem filter_sublist_filter {α : Type} {P Q : α → Bool} {entries : List α}
    (implies : ∀ e ∈ entries, P e = true → Q e = true) : (entries.filter P).Sublist (entries.filter Q) := by
  have both : entries.filter P = (entries.filter Q).filter P := by
    rw [List.filter_filter]
    refine List.filter_congr fun e member => ?_
    cases holds : P e with
    | false => rfl
    | true => rw [implies e member holds,Bool.and_true]
  rw [both]
  exact List.filter_sublist

/-- The end of a flush keeps the order of what is offered, and everything that is retained. -/
theorem Tracked.finish_waiting (tracked : s.Tracked) (outcome : SendFlushOutcome) (was_ready : Bool) :
    (s.waiting.filter (s.retained outcome was_ready)).Sublist (s.finish outcome was_ready).waiting ∧
      (s.finish outcome was_ready).waiting.Sublist s.waiting := by
  have after := tracked.finish outcome was_ready
  have sound := tracked.sound
  obtain ⟨singles,fragments⟩ := finish_entries s outcome was_ready
  rw [waiting_eq tracked,waiting_eq after,singles,fragments]
  constructor
  · rw [List.filter_append,List.filter_map,List.filter_map,List.filter_filter,List.filter_filter,List.filter_filter,
      List.filter_filter]
    refine ((filter_sublist_filter fun e member holds => ?_).map _).append
      ((filter_sublist_filter fun e member holds => ?_).map _)
    · simp only [Function.comp_apply,retained,keeps_single,Bool.and_eq_true,Bool.or_eq_true,Bool.not_eq_true',
        List.any_eq_true,beq_iff_eq] at holds ⊢
      obtain ⟨keeps | ⟨p,isCommitted,same⟩,waits⟩ := holds
      · exact ⟨waits,keeps,waits⟩
      · -- The only piece of a single message is the entry itself.
        obtain ⟨isSingle,first,wasCommitted⟩ := sound.single e member
        obtain ⟨message,isMessage,inside⟩ := sound.known p isCommitted
        rw [same,isSingle] at isMessage
        obtain rfl := Option.some.inj isMessage
        have isEntry : p = e.2 := Prod.ext same (by rw [first]; exact Nat.lt_one_iff.mp inside)
        rw [wasCommitted.mpr (isEntry ▸ isCommitted)] at waits
        cases waits
    · simp only [Function.comp_apply,retained,keeps_fragment,Bool.and_eq_true,Bool.or_eq_true,Bool.not_eq_true',
        List.any_eq_true,beq_iff_eq] at holds ⊢
      obtain ⟨keeps | ⟨p,isCommitted,same⟩,waits⟩ := holds
      · exact ⟨waits,waits,.inl keeps⟩
      · exact ⟨waits,waits,.inr (sound.started e member p isCommitted same)⟩
  · exact ((List.filter_sublist.filter _).map _).append ((List.filter_sublist.filter _).map _)

/-- A fragment is offered after a flush when the flush keeps it. -/
theorem Tracked.fragment_kept (tracked : s.Tracked) {e : Entry} (member : e ∈ s.fragment_entries)
    (outcome : SendFlushOutcome)
    (was_ready : Bool) :
    e.2 ∈ (s.finish outcome was_ready).waiting ↔
      keeps_fragment (s.sender.discard_unsent outcome was_ready) e.1 = true := by
  obtain ⟨singles,fragments⟩ := finish_entries s outcome was_ready
  obtain ⟨⟨k,isMessage,-⟩,-⟩ := tracked.sound.fragment e member
  rw [waiting_eq (tracked.finish outcome was_ready),singles,fragments,List.mem_append,List.mem_map,List.mem_map]
  constructor
  · rintro (⟨other,kept,same⟩ | ⟨other,kept,same⟩)
    · have isSingle := (tracked.sound.single other (List.mem_of_mem_filter (List.mem_of_mem_filter kept))).1
      rw [same,isMessage] at isSingle
      cases isSingle
    · obtain ⟨isOther,keeps⟩ := List.mem_filter.mp (List.mem_of_mem_filter kept)
      rwa [List.inj_on_of_nodup_map tracked.sound.distinct_fragments isOther member same] at keeps
  · intro keeps
    have waits : (!e.1.committed) = true := by
      rw [keeps_fragment,Bool.and_eq_true] at keeps
      exact keeps.1
    exact .inr ⟨e,List.mem_filter.mpr ⟨List.mem_filter.mpr ⟨member,keeps⟩,waits⟩,rfl⟩

end Flow

end Lightyear.UnreliableFlow
