import Lightyear.Snoc
import Lightyear.UnreliableFlow

/-!
Which messages an unreliable channel with acks reports as acknowledged. A piece of a message is outstanding while
the channel offers it or a packet on its way carries it. The tracker of a message is found by its id, and the ids
come round after `2^16` messages.
-/
namespace Lightyear.FragmentAcks
open Lightyear.Ids Lightyear.Ids.WrappingId Lightyear.Message Lightyear.Compression Lightyear.Fragments
open Lightyear.Reassembly Lightyear.SendUnreliable Lightyear.SendUnreliable.UnreliableSendState Lightyear.UnreliableFlow

/-- The tracker knows which of the `k` fragments of message `n` are acknowledged. -/
structure Tracks (acked : List Piece) (n k : Nat) (t : FragmentAckTracker) : Prop where
  num_fragments : t.num_fragments = k
  received : t.received = (List.range k).map fun i => decide ((n,i) ∈ acked)
  counted : t.num_received_fragments = t.received.count true
  last_received : t.last_received = none

/-- Some fragment of the message is not acknowledged, and every such fragment still can be. -/
def Awaits (outstanding : Set Piece) (acked : List Piece) (n k : Nat) : Prop :=
  (∃ i < k, (n,i) ∉ acked) ∧ ∀ i < k, (n,i) ∉ acked → (n,i) ∈ outstanding

section Trackers
variable {outstanding outstanding' : Set Piece} {acked acked' : List Piece} {n k : Nat} {t : FragmentAckTracker}

theorem Tracks.congr (tracks : Tracks acked n k t) (same : ∀ i, (n,i) ∈ acked ↔ (n,i) ∈ acked') :
    Tracks acked' n k t where
  num_fragments := tracks.num_fragments
  received := tracks.received.trans (List.map_congr_left fun i _ => decide_eq_decide.mpr (same i))
  counted := tracks.counted
  last_received := tracks.last_received

theorem Awaits.congr (awaits : Awaits outstanding acked n k) (same : ∀ i, (n,i) ∈ acked ↔ (n,i) ∈ acked')
    (still : ∀ i < k, (n,i) ∉ acked → (n,i) ∈ outstanding → (n,i) ∈ outstanding') : Awaits outstanding' acked' n k := by
  obtain ⟨⟨i,inside,isMissing⟩,all⟩ := awaits
  refine ⟨⟨i,inside,mt (same i).mpr isMissing⟩,fun j inside isMissing => ?_⟩
  have wasMissing := mt (same j).mp isMissing
  exact still j inside wasMissing (all j inside wasMissing)

theorem tracks_new (n k : Nat) (isNew : ∀ i, (n,i) ∉ acked) : Tracks acked n k (.new k) where
  num_fragments := rfl
  received := by simp [FragmentAckTracker.new,isNew]
  counted := by simp [FragmentAckTracker.new,List.count_replicate]
  last_received := rfl

/-- The ack of a fragment completes the message when it was the last one. -/
theorem Tracks.receive_ack (tracks : Tracks acked n k t) {i : Nat} (inside : i < k) (isNew : (n,i) ∉ acked) :
    ∃ t' completed, t.receive_ack i none = some (t',completed) ∧ Tracks (acked ++ [(n,i)]) n k t' ∧
      (completed = true ↔ ∀ j < k, (n,j) ∈ acked ++ [(n,i)]) := by
  have atIndex : t.received[i]? = some false := by
    rw [tracks.received,List.getElem?_map,List.getElem?_range inside,Option.map_some,decide_eq_false isNew]
  have inReceived : i < t.received.length := (List.getElem?_eq_some_iff.mp atIndex).1
  have received : t.received.set i true = (List.range k).map fun j => decide ((n,j) ∈ acked ++ [(n,i)]) := by
    apply List.ext_getElem?
    intro j
    rw [List.getElem?_set,tracks.received,List.getElem?_map,List.getElem?_map,List.length_map,List.length_range]
    rcases lt_or_ge j k with here | beyond
    · rw [List.getElem?_range here,Option.map_some,Option.map_some]
      split
      next same => simp [← same]
      next different => simp [Ne.symm different]
    · rw [if_neg (by omega),List.getElem?_eq_none (by simpa using beyond),Option.map_none,Option.map_none]
  have counted : (t.received.set i true).count true = t.num_received_fragments + 1 := by
    have isFalse : t.received[i] = false := Option.some.inj ((List.getElem?_eq_getElem inReceived).symm.trans atIndex)
    rw [List.count_set inReceived,isFalse,tracks.counted]
    rfl
  have length : (t.received.set i true).length = k := by rw [received,List.length_map,List.length_range]
  let t' : FragmentAckTracker := ⟨k,t.num_received_fragments + 1,t.received.set i true,none⟩
  have executed : t.receive_ack i none = some (t',decide (t.num_received_fragments + 1 = k)) := by
    simp only [FragmentAckTracker.receive_ack,atIndex,Bool.false_eq_true,if_false,tracks.num_fragments,t']
  refine ⟨t',_,executed,⟨rfl,received,counted.symm,rfl⟩,?_⟩
  rw [decide_eq_true_iff,← counted,← length,List.count_eq_length,received]
  simp

end Trackers

def IsFragmented (messages : List (Option Nat)) (n : Nat) : Prop := ∃ k, messages[n]? = some (some k)

/-- What the trackers know of the messages. A message of which a fragment is neither acknowledged nor outstanding is
    never completed. -/
structure Accounts (messages : List (Option Nat)) (outstanding : Set Piece) (acked : List Piece) (reported : List Nat)
    (look : MessageId → Option FragmentAckTracker) : Prop where
  missing : ∀ p ∈ outstanding, (∃ message, messages[p.1]? = some message ∧ p.2 < pieces message) ∧ p ∉ acked
  heard : ∀ p ∈ acked, p.1 < messages.length
  said : ∀ n ∈ reported, n < messages.length
  once : reported.Nodup
  complete : ∀ (n : Nat) message, messages[n]? = some message → n ∈ reported → ∀ i < pieces message, (n,i) ∈ acked
  single : ∀ n : Nat, messages[n]? = some none → (n,0) ∈ acked → n ∈ reported
  status : ∀ n k : Nat, messages[n]? = some (some k) →
    (∃ t, look (ofIndex n) = some t ∧ Tracks acked n k t ∧ Awaits outstanding acked n k) ∨ n ∈ reported ∨
      ∃ i < k, (n,i) ∉ acked ∧ (n,i) ∉ outstanding
  owner : ∀ id t, look id = some t → ∃ n k : Nat, messages[n]? = some (some k) ∧ id = ofIndex n ∧ Tracks acked n k t ∧
    Awaits outstanding acked n k
  alone : ∀ p ∈ outstanding, ∀ q ∈ outstanding, IsFragmented messages p.1 → IsFragmented messages q.1 →
    ofIndex p.1 = ofIndex q.1 → p.1 = q.1

section Accounts
variable {messages : List (Option Nat)} {outstanding : Set Piece} {acked : List Piece} {reported : List Nat}
  {look : MessageId → Option FragmentAckTracker}

private theorem before_length {message : Option Nat} {n : Nat} (isMessage : messages[n]? = some message) :
    n < messages.length := (List.getElem?_eq_some_iff.mp isMessage).1

private theorem isFragmented {n k : Nat} (isMessage : messages[n]? = some (some k)) :
    IsFragmented messages n := ⟨k,isMessage⟩

theorem Awaits.one {n k : Nat} (awaits : Awaits outstanding acked n k) : ∃ i, (n,i) ∈ outstanding := by
  obtain ⟨⟨i,inside,isMissing⟩,all⟩ := awaits
  exact ⟨i,all i inside isMissing⟩

theorem accounts_nil : Accounts [] ∅ [] [] fun _ => none := by
  constructor <;> simp

theorem Accounts.inside (accounts : Accounts messages outstanding acked reported look) {p : Piece}
    (waits : p ∈ outstanding) :
    p.1 < messages.length := by
  obtain ⟨⟨message,isMessage,-⟩,-⟩ := accounts.missing p waits
  exact before_length isMessage

/-- The tracker under the id of a message with an outstanding fragment is that of the message. -/
theorem Accounts.owned (accounts : Accounts messages outstanding acked reported look) {n k i : Nat}
    (isMessage : messages[n]? = some (some k)) (isOutstanding : (n,i) ∈ outstanding) {t : FragmentAckTracker}
    (found : look (ofIndex n) = some t) : Tracks acked n k t ∧ Awaits outstanding acked n k := by
  obtain ⟨m,l,isOwner,sameId,tracks,awaits⟩ := accounts.owner _ t found
  obtain ⟨j,other⟩ := awaits.one
  obtain rfl := accounts.alone _ isOutstanding _ other (isFragmented isMessage) (isFragmented isOwner) sameId
  obtain rfl := Option.some.inj (Option.some.inj (isMessage.symm.trans isOwner))
  exact ⟨tracks,awaits⟩

/-- Another message that is waited for has another id. -/
theorem Accounts.apart (accounts : Accounts messages outstanding acked reported look) {n k i m l : Nat}
    (isMessage : messages[n]? = some (some k)) (isOutstanding : (n,i) ∈ outstanding)
    (isOther : messages[m]? = some (some l))
    (awaits : Awaits outstanding acked m l) (different : m ≠ n) : ofIndex m ≠ ofIndex n := by
  intro same
  obtain ⟨j,other⟩ := awaits.one
  exact different (accounts.alone _ other _ isOutstanding (isFragmented isOther) (isFragmented isMessage) same)

/-- A message is added, with a new tracker if it has fragments. -/
theorem Accounts.add (accounts : Accounts messages outstanding acked reported look) {message : Option Nat}
    (positive : 0 < pieces message)
    (free : message.isSome → ∀ p ∈ outstanding, IsFragmented messages p.1 → ofIndex p.1 ≠ ofIndex messages.length)
    {look' : MessageId → Option FragmentAckTracker}
    (looks : ∀ id, look' id = if id = ofIndex messages.length then message.elim (look id) (some <| .new ·)
      else look id) :
    Accounts (messages ++ [message]) (outstanding ∪ {p | p.1 = messages.length ∧ p.2 < pieces message})
      acked reported look' := by
  have old : ∀ {n : Nat} {other : Option Nat}, messages[n]? = some other → (messages ++ [message])[n]? = some other :=
    Snoc.getElem?_snoc_old
  have longer : ∀ {n}, n < messages.length → n < (messages ++ [message]).length := fun before => by
    rw [List.length_append]
    omega
  have notAcked : ∀ i, (messages.length,i) ∉ acked := fun i member => (accounts.heard _ member).ne rfl
  have wasFragmented : ∀ p ∈ outstanding, IsFragmented (messages ++ [message]) p.1 → IsFragmented messages p.1 :=
    fun p isOutstanding ⟨k,isMessage⟩ => (Snoc.getElem?_snoc.mp isMessage).elim (⟨k,·⟩) fun isNew =>
      absurd isNew.1 (accounts.inside isOutstanding).ne
  have more : outstanding ⊆ outstanding ∪ {p | p.1 = messages.length ∧ p.2 < pieces message} := Set.subset_union_left
  have still : ∀ {n k : Nat}, Awaits outstanding acked n k →
      Awaits (outstanding ∪ {p | p.1 = messages.length ∧ p.2 < pieces message}) acked n k :=
    fun awaits => awaits.congr (fun _ => Iff.rfl) fun i _ _ isOutstanding => more isOutstanding
  have unchanged : ∀ {n k : Nat} {t : FragmentAckTracker}, messages[n]? = some (some k) → Awaits outstanding acked n k →
      look (ofIndex n) = some t → look' (ofIndex n) = some t := by
    intro n k t isMessage awaits found
    rw [looks]
    split
    next same =>
      obtain ⟨i,isOutstanding⟩ := awaits.one
      cases message with
      | none => exact found
      | some l => exact absurd same (free rfl _ isOutstanding (isFragmented isMessage))
    next => exact found
  constructor
  · rintro p (isOutstanding | ⟨isNew,inside⟩)
    · obtain ⟨⟨other,isMessage,inside⟩,isMissing⟩ := accounts.missing p isOutstanding
      exact ⟨⟨other,old isMessage,inside⟩,isMissing⟩
    · obtain ⟨n,i⟩ := p
      obtain rfl : n = messages.length := isNew
      exact ⟨⟨message,List.getElem?_concat_length,inside⟩,notAcked i⟩
  · exact fun p isAcked => longer (accounts.heard p isAcked)
  · exact fun n isReported => longer (accounts.said n isReported)
  · exact accounts.once
  · intro n other isMessage isReported
    rcases Snoc.getElem?_snoc.mp isMessage with isMessage | ⟨rfl,-⟩
    · exact accounts.complete n other isMessage isReported
    · exact absurd rfl (accounts.said _ isReported).ne
  · intro n isMessage isAcked
    rcases Snoc.getElem?_snoc.mp isMessage with isMessage | ⟨rfl,-⟩
    · exact accounts.single n isMessage isAcked
    · exact absurd isAcked (notAcked 0)
  · intro n k isMessage
    rcases Snoc.getElem?_snoc.mp isMessage with isMessage | ⟨rfl,rfl⟩
    · rcases accounts.status n k isMessage with ⟨t,found,tracks,awaits⟩ | isReported | ⟨i,inside,isMissing,isGone⟩
      · exact .inl ⟨t,unchanged isMessage awaits found,tracks,still awaits⟩
      · exact .inr (.inl isReported)
      · refine .inr (.inr ⟨i,inside,isMissing,?_⟩)
        rintro (isOutstanding | ⟨isNew,-⟩)
        · exact isGone isOutstanding
        · exact (before_length isMessage).ne isNew
    · refine .inl ⟨.new k,by rw [looks,if_pos rfl]; rfl,tracks_new _ k notAcked,⟨0,positive,notAcked 0⟩,?_⟩
      exact fun i inside _ => .inr ⟨rfl,inside⟩
  · intro id t found
    have isOld : look id = some t → ∃ n k : Nat, (messages ++ [message])[n]? = some (some k) ∧ id = ofIndex n ∧
        Tracks acked n k t ∧
          Awaits (outstanding ∪ {p | p.1 = messages.length ∧ p.2 < pieces message}) acked n k := by
      intro found
      obtain ⟨n,k,isMessage,sameId,tracks,awaits⟩ := accounts.owner id t found
      exact ⟨n,k,old isMessage,sameId,tracks,still awaits⟩
    rw [looks] at found
    split at found
    next isId =>
      cases message with
      | none => exact isOld found
      | some k =>
        obtain rfl := Option.some.inj found
        refine ⟨messages.length,k,List.getElem?_concat_length,isId,tracks_new _ k notAcked,⟨0,positive,notAcked 0⟩,?_⟩
        exact fun i inside _ => .inr ⟨rfl,inside⟩
    next => exact isOld found
  · have isSome : IsFragmented (messages ++ [message]) messages.length → message.isSome := fun ⟨k,isMessage⟩ => by
      rw [List.getElem?_concat_length] at isMessage
      exact Option.isSome_of_eq_some (Option.some.inj isMessage)
    rintro p (isOutstanding | ⟨isNew,-⟩) q (isOther | ⟨isNew',-⟩) fragmented fragmented' same
    · exact accounts.alone p isOutstanding q isOther (wasFragmented p isOutstanding fragmented)
        (wasFragmented q isOther fragmented') same
    · rw [isNew'] at fragmented' same
      exact absurd same (free (isSome fragmented') p isOutstanding (wasFragmented p isOutstanding fragmented))
    · rw [isNew] at fragmented same
      exact absurd same.symm (free (isSome fragmented) q isOther (wasFragmented q isOther fragmented'))
    · rw [isNew,isNew']

/-- What an ack has to do to the trackers: it reports a single message, or a message of which it acknowledges the last
    fragment, and leaves the trackers of the other messages. -/
theorem Accounts.acknowledge (accounts : Accounts messages outstanding acked reported look) (completed : Bool)
    {n i : Nat}
    {message : Option Nat} (isMessage : messages[n]? = some message) (isOutstanding : (n,i) ∈ outstanding)
    {look' : MessageId → Option FragmentAckTracker} (single : message = none → completed = true)
    (all : completed = true → ∀ j < pieces message, (n,j) ∈ acked ++ [(n,i)])
    (others : ∀ m k : Nat, messages[m]? = some (some k) → m ≠ n → Awaits outstanding acked m k →
      look' (ofIndex m) = look (ofIndex m))
    (status : ∀ k, message = some k →
      (∃ t, look' (ofIndex n) = some t ∧ Tracks (acked ++ [(n,i)]) n k t ∧
        Awaits (outstanding \ {(n,i)}) (acked ++ [(n,i)]) n k) ∨ completed = true ∨
        ∃ j < k, (n,j) ∉ acked ++ [(n,i)] ∧ (n,j) ∉ outstanding)
    (owner : ∀ id t, look' id = some t → look id = some t ∧ (message = none ∨ id ≠ ofIndex n) ∨
      ∃ k, message = some k ∧ id = ofIndex n ∧ Tracks (acked ++ [(n,i)]) n k t ∧
        Awaits (outstanding \ {(n,i)}) (acked ++ [(n,i)]) n k) :
    Accounts messages (outstanding \ {(n,i)}) (acked ++ [(n,i)])
      (if completed then reported ++ [n] else reported) look' := by
  have same : ∀ {m : Nat}, m ≠ n → ∀ j, (m,j) ∈ acked ↔ (m,j) ∈ acked ++ [(n,i)] := fun different j => by
    simp [different]
  have still : ∀ {m k : Nat}, m ≠ n → Awaits outstanding acked m k →
      Awaits (outstanding \ {(n,i)}) (acked ++ [(n,i)]) m k :=
    fun different awaits => awaits.congr (same different) fun j _ _ waits => ⟨waits,by simp [different]⟩
  have said : ∀ m, m ∈ (if completed then reported ++ [n] else reported) ↔ m ∈ reported ∨ m = n ∧ completed = true := by
    intro m
    cases completed <;> simp
  obtain ⟨⟨_,isSame,inside⟩,isMissing⟩ := accounts.missing _ isOutstanding
  obtain rfl := Option.some.inj (isMessage.symm.trans isSame)
  have notReported : n ∉ reported := fun isReported => isMissing (accounts.complete n _ isMessage isReported i inside)
  constructor
  · rintro p ⟨waits,different⟩
    obtain ⟨known,isMissing⟩ := accounts.missing p waits
    exact ⟨known,fun isAcked => (List.mem_append.mp isAcked).elim isMissing fun isNew =>
      different (List.mem_singleton.mp isNew)⟩
  · intro p isAcked
    rcases List.mem_append.mp isAcked with isAcked | isNew
    · exact accounts.heard p isAcked
    · rw [List.mem_singleton.mp isNew]
      exact before_length isMessage
  · intro m isReported
    rcases (said m).mp isReported with isReported | ⟨rfl,-⟩
    · exact accounts.said m isReported
    · exact before_length isMessage
  · split
    · exact Snoc.nodup_snoc accounts.once notReported
    · exact accounts.once
  · intro m other isOther isReported j inMessage
    rcases (said m).mp isReported with isReported | ⟨rfl,isCompleted⟩
    · exact List.mem_append_left _ (accounts.complete m other isOther isReported j inMessage)
    · obtain rfl := Option.some.inj (isMessage.symm.trans isOther)
      exact all isCompleted j inMessage
  · intro m isOther isAcked
    rcases List.mem_append.mp isAcked with isAcked | isNew
    · exact (said m).mpr (.inl (accounts.single m isOther isAcked))
    · obtain rfl : m = n := congrArg Prod.fst (List.mem_singleton.mp isNew)
      exact (said m).mpr (.inr ⟨rfl,single (Option.some.inj (isMessage.symm.trans isOther))⟩)
  · intro m k isOther
    by_cases isMine : m = n
    · subst isMine
      rcases status k (Option.some.inj (isMessage.symm.trans isOther)) with tracked | isCompleted |
        ⟨j,inMessage,isMissing,isGone⟩
      · exact .inl tracked
      · exact .inr (.inl ((said _).mpr (.inr ⟨rfl,isCompleted⟩)))
      · exact .inr (.inr ⟨j,inMessage,isMissing,fun waits => isGone waits.1⟩)
    · rcases accounts.status m k isOther with ⟨t,found,tracks,awaits⟩ | isReported | ⟨j,inMessage,isMissing,isGone⟩
      · exact .inl ⟨t,(others m k isOther isMine awaits).trans found,tracks.congr (same isMine),still isMine awaits⟩
      · exact .inr (.inl ((said m).mpr (.inl isReported)))
      · exact .inr (.inr ⟨j,inMessage,mt (same isMine j).mpr isMissing,fun waits => isGone waits.1⟩)
  · intro id t found
    rcases owner id t found with ⟨wasFound,notMine⟩ | ⟨k,rfl,rfl,tracks,awaits⟩
    · obtain ⟨m,k,isOther,sameId,tracks,awaits⟩ := accounts.owner id t wasFound
      have different : m ≠ n := by
        rintro rfl
        rcases notMine with rfl | otherId
        · cases isMessage.symm.trans isOther
        · exact otherId sameId
      exact ⟨m,k,isOther,sameId,tracks.congr (same different),still different awaits⟩
    · exact ⟨n,k,isMessage,rfl,tracks,awaits⟩
  · exact fun p waits q waits' => accounts.alone p waits.1 q waits'.1

/-- The ack of a single message reports it. -/
theorem Accounts.acknowledge_single (accounts : Accounts messages outstanding acked reported look) {n i : Nat}
    (isMessage : messages[n]? = some none) (isOutstanding : (n,i) ∈ outstanding) :
    Accounts messages (outstanding \ {(n,i)}) (acked ++ [(n,i)]) (reported ++ [n]) look := by
  obtain ⟨⟨message,isSame,inside⟩,-⟩ := accounts.missing _ isOutstanding
  obtain rfl := Option.some.inj (isMessage.symm.trans isSame)
  refine accounts.acknowledge true isMessage isOutstanding (fun _ => rfl) ?_ (fun _ _ _ _ _ => rfl) nofun
    fun id t found => .inl ⟨found,.inl rfl⟩
  intro _ j inMessage
  obtain rfl : j = i := (Nat.lt_one_iff.mp inMessage).trans (Nat.lt_one_iff.mp inside).symm
  exact List.mem_append_right _ (List.mem_singleton_self _)

/-- The ack of a fragment never panics, and reports the message when it was the last one. -/
theorem Accounts.acknowledge_fragment {acks : FragmentAckReceiver}
    (accounts : Accounts messages outstanding acked reported (acks.fragment_messages.lookup ·)) {n k i : Nat}
    (isMessage : messages[n]? = some (some k)) (isOutstanding : (n,i) ∈ outstanding) :
    ∃ acks' completed, acks.receive_fragment_ack (ofIndex n) i none = some (acks',completed) ∧
      Accounts messages (outstanding \ {(n,i)}) (acked ++ [(n,i)]) (if completed then reported ++ [n] else reported)
        (acks'.fragment_messages.lookup ·) := by
  obtain ⟨⟨message,isSame,inside⟩,isMissing⟩ := accounts.missing _ isOutstanding
  obtain rfl := Option.some.inj (isMessage.symm.trans isSame)
  cases found : acks.fragment_messages.lookup (ofIndex n) with
  | none =>
    refine ⟨acks,false,by rw [FragmentAckReceiver.receive_fragment_ack,found],?_⟩
    refine accounts.acknowledge false isMessage isOutstanding nofun nofun (fun _ _ _ _ _ => rfl) ?_ ?_
    · intro l isMine
      obtain rfl := Option.some.inj isMine
      rcases accounts.status n k isMessage with ⟨t,isTracker,-⟩ | isReported | ⟨j,inMessage,isMissing,isGone⟩
      · rw [found] at isTracker
        cases isTracker
      · exact absurd (accounts.complete n _ isMessage isReported i inside) isMissing
      · refine .inr (.inr ⟨j,inMessage,fun isAcked => ?_,isGone⟩)
        rcases List.mem_append.mp isAcked with isAcked | isNew
        · exact isMissing isAcked
        · exact isGone (List.mem_singleton.mp isNew ▸ isOutstanding)
    · refine fun id t isTracker => .inl ⟨isTracker,.inr ?_⟩
      rintro rfl
      rw [found] at isTracker
      cases isTracker
  | some t =>
    obtain ⟨tracks,awaits⟩ := accounts.owned isMessage isOutstanding found
    obtain ⟨t',completed,executed,tracks',all⟩ := tracks.receive_ack inside isMissing
    cases completed with
    | true =>
      refine ⟨⟨acks.fragment_messages.erase (ofIndex n)⟩,true,?_,?_⟩
      · simp only [FragmentAckReceiver.receive_fragment_ack,found,executed]
      refine accounts.acknowledge true isMessage isOutstanding nofun (fun _ => all.mp rfl) ?_
        (fun _ _ => .inr (.inl rfl)) ?_
      · intro m l isOther different awaits
        rw [Maps.lookup_erase_ite,if_neg (accounts.apart isMessage isOutstanding isOther awaits different)]
      · intro id t isTracker
        rw [Maps.lookup_erase_ite] at isTracker
        split at isTracker
        next => cases isTracker
        next otherId => exact .inl ⟨isTracker,.inr otherId⟩
    | false =>
      refine ⟨⟨acks.fragment_messages.insert (ofIndex n) t'⟩,false,?_,?_⟩
      · simp only [FragmentAckReceiver.receive_fragment_ack,found,executed]
      have awaits' : Awaits (outstanding \ {(n,i)}) (acked ++ [(n,i)]) n k := by
        constructor
        · simpa only [not_forall,exists_prop] using mt all.mpr Bool.false_ne_true
        · intro j inMessage isMissing
          rw [List.mem_append,not_or,List.mem_singleton] at isMissing
          exact ⟨awaits.2 j inMessage isMissing.1,isMissing.2⟩
      refine accounts.acknowledge false isMessage isOutstanding nofun nofun ?_ ?_ ?_
      · intro m l isOther different awaits
        rw [Maps.lookup_insert_ite,if_neg (accounts.apart isMessage isOutstanding isOther awaits different)]
      · intro l isMine
        obtain rfl := Option.some.inj isMine
        exact .inl ⟨t',by rw [Maps.lookup_insert_ite,if_pos rfl],tracks',awaits'⟩
      · intro id t isTracker
        rw [Maps.lookup_insert_ite] at isTracker
        split at isTracker
        next isId =>
          obtain rfl := Option.some.inj isTracker
          exact .inr ⟨k,rfl,isId,tracks',awaits'⟩
        next otherId => exact .inl ⟨isTracker,.inr otherId⟩

/-- What is lost or given up is not waited for any longer. -/
theorem Accounts.abandon (accounts : Accounts messages outstanding acked reported look) {outstanding' : Set Piece}
    {look' : MessageId → Option FragmentAckTracker} (fewer : outstanding' ⊆ outstanding)
    (looks : ∀ id, look' id = look id ∨ look' id = none ∧ ∃ p ∈ outstanding, p ∉ outstanding' ∧
      IsFragmented messages p.1 ∧
      id = ofIndex p.1)
    (forgotten : ∀ p ∈ outstanding, p ∉ outstanding' → IsFragmented messages p.1 → look' (ofIndex p.1) = none) :
    Accounts messages outstanding' acked reported look' := by
  -- A message whose tracker stays has lost nothing.
  have still : ∀ {n k : Nat}, messages[n]? = some (some k) → Awaits outstanding acked n k → look' (ofIndex n) ≠ none →
      Awaits outstanding' acked n k := by
    intro n k isMessage awaits tracked
    refine awaits.congr (fun _ => Iff.rfl) fun i _ _ waits => ?_
    by_contra isGone
    exact tracked (forgotten _ waits isGone (isFragmented isMessage))
  constructor
  · exact fun p waits => accounts.missing p (fewer waits)
  · exact accounts.heard
  · exact accounts.said
  · exact accounts.once
  · exact accounts.complete
  · exact accounts.single
  · intro n k isMessage
    rcases accounts.status n k isMessage with ⟨t,found,tracks,awaits⟩ | isReported | ⟨i,inside,isMissing,isGone⟩
    · rcases looks (ofIndex n) with same | ⟨-,p,waits,isGone,fragmented,sameId⟩
      · rw [found] at same
        exact .inl ⟨t,same,tracks,still isMessage awaits (by simp [same])⟩
      · obtain ⟨j,other⟩ := awaits.one
        have isMine : n = p.1 := accounts.alone _ other p waits (isFragmented isMessage) fragmented sameId
        obtain ⟨⟨message,isSame,inside⟩,isMissing⟩ := accounts.missing p waits
        subst isMine
        obtain rfl := Option.some.inj (isMessage.symm.trans isSame)
        exact .inr (.inr ⟨p.2,inside,isMissing,isGone⟩)
    · exact .inr (.inl isReported)
    · exact .inr (.inr ⟨i,inside,isMissing,fun waits => isGone (fewer waits)⟩)
  · intro id t found
    rcases looks id with same | ⟨isNone,-⟩
    · rw [same] at found
      obtain ⟨n,k,isMessage,sameId,tracks,awaits⟩ := accounts.owner id t found
      exact ⟨n,k,isMessage,sameId,tracks,
        still isMessage awaits (by rw [← sameId,same,found]; exact Option.some_ne_none t)⟩
    · rw [isNone] at found
      cases found
  · exact fun p waits q waits' => accounts.alone p (fewer waits) q (fewer waits')

end Accounts

/-! ### Channels with acks -/

/-- The first fragment of the message with an id. -/
def IsFirst (id : MessageId) (pending : PendingSendMessage) : Prop :=
  ∃ data, pending.message = .Fragment data ∧ data.fragment_id = 0 ∧ data.message_id = id

/-- A message that is given up with its first fragment loses its tracker. -/
private theorem discard_trackers (dropped : List PendingSendMessage) (acks : FragmentAckReceiver) (id : MessageId) :
    ((∃ pending ∈ dropped, IsFirst id pending) → (dropped.foldl discard_acks acks).fragment_messages.lookup id = none) ∧
      ((∀ pending ∈ dropped, ¬IsFirst id pending) →
        (dropped.foldl discard_acks acks).fragment_messages.lookup id = acks.fragment_messages.lookup id) := by
  suffices one : ∀ (acks : FragmentAckReceiver) pending,
      (IsFirst id pending ∨ acks.fragment_messages.lookup id = none →
        (discard_acks acks pending).fragment_messages.lookup id = none) ∧
      (¬IsFirst id pending → (discard_acks acks pending).fragment_messages.lookup id =
        acks.fragment_messages.lookup id) by
    have none : ∀ (dropped : List PendingSendMessage) (acks : FragmentAckReceiver),
        acks.fragment_messages.lookup id = none → (dropped.foldl discard_acks acks).fragment_messages.lookup id =
          none := by
      intro dropped
      induction dropped with
      | nil => exact fun _ isNone => isNone
      | cons pending dropped ih => exact fun acks isNone => ih _ ((one acks pending).1 (.inr isNone))
    induction dropped generalizing acks with
    | nil => exact ⟨by simp,fun _ => rfl⟩
    | cons pending dropped ih =>
      rw [List.foldl_cons]
      constructor
      · rintro ⟨first,member,isFirst⟩
        rcases List.mem_cons.mp member with rfl | member
        · exact none dropped _ ((one acks first).1 (.inl isFirst))
        · exact (ih _).1 ⟨first,member,isFirst⟩
      · intro others
        rw [(ih _).2 fun other member => others other (List.mem_cons_of_mem _ member)]
        exact (one acks pending).2 (others pending List.mem_cons_self)
  intro acks pending
  unfold discard_acks IsFirst
  cases pending.message with
  | Single data => simp
  | Fragment data =>
    simp only [MessageData.Fragment.injEq,exists_eq_left']
    by_cases isFirst : data.fragment_id = 0
    · simp only [isFirst,true_and,if_true,FragmentAckReceiver.discard_message,Maps.lookup_erase_ite]
      constructor
      · rintro (rfl | isNone)
        · rw [if_pos rfl]
        · split
          · rfl
          · exact isNone
      · exact fun different => if_neg (Ne.symm different)
    · simp [isFirst]

private theorem mem_eraseIdx_distinct {α : Type} {entries : List α} (distinct : entries.Nodup) {i : Nat} {a b : α}
    (atIndex : entries[i]? = some a) : b ∈ entries.eraseIdx i ↔ b ∈ entries ∧ b ≠ a := by
  rw [List.mem_eraseIdx_iff_getElem?]
  constructor
  · rintro ⟨j,different,atJ⟩
    refine ⟨List.mem_of_getElem? atJ,?_⟩
    rintro rfl
    exact different ((List.getElem?_inj (List.getElem?_eq_some_iff.mp atJ).1 distinct).mp (atJ.trans atIndex.symm))
  · rintro ⟨member,different⟩
    obtain ⟨j,atJ⟩ := List.mem_iff_getElem?.mp member
    refine ⟨j,?_,atJ⟩
    rintro rfl
    exact different (Option.some.inj (atJ.symm.trans atIndex))

open Flow

/-- The id of the next message is that of no fragment that the channel offers or a packet on its way carries. -/
def Free (s : Flow) : Prop :=
  (∀ pending ∈ s.sender.fragments, pending.committed = false →
    pending.fragment_message_id ≠ some s.sender.next_message_id) ∧
    ∀ r ∈ s.recorded, r.ack.fragment_id ≠ none → r.ack.message_id ≠ s.sender.next_message_id

/-- A channel with acks cuts a message into fragments only under a free id. -/
def Sends (s : Flow) : Event → Prop
  | .Send fragmenter message _ =>
    s.sender.delivery = .UnorderedWithAcks → fragmenter.fragment_size < message.length → Free s
  | _ => True

instance (s : Flow) : Decidable (Free s) :=
  inferInstanceAs (Decidable ((∀ pending ∈ s.sender.fragments, pending.committed = false →
    pending.fragment_message_id ≠ some s.sender.next_message_id) ∧
      ∀ r ∈ s.recorded, r.ack.fragment_id ≠ none → r.ack.message_id ≠ s.sender.next_message_id))

instance (s : Flow) : ∀ event, Decidable (Sends s event)
  | .Send fragmenter message _ =>
    inferInstanceAs (Decidable (s.sender.delivery = .UnorderedWithAcks → fragmenter.fragment_size < message.length →
      Free s))
  | .Commit _ | .Finish .. | .Ack _ | .Lose _ | .Update _ => .isTrue trivial

def outstanding (s : Flow) : Set Piece := {p | p ∈ s.waiting ∨ p ∈ s.recorded.map Record.piece}

/-- The ack that packets give for a piece of a message. -/
def ack_of (message : Option Nat) (p : Piece) : MessageAck := ⟨ofIndex p.1,message.map fun _ => p.2⟩

structure Accounted (s : Flow) : Prop where
  delivery : s.sender.delivery = .UnorderedWithAcks
  next : s.sender.next_message_id = ofIndex s.messages.length
  singles : ∀ e ∈ s.single_entries, recorded_ack e.1.message = some (ack_of none e.2)
  fragments : ∀ e ∈ s.fragment_entries, e.1.fragment_message_id = some (ofIndex e.2.1)
  recorded : ∀ r ∈ s.recorded, r.piece ∈ s.committed ∧ ∃ message, s.messages[r.piece.1]? = some message ∧
    r.ack = ack_of message r.piece
  once : (s.recorded.map Record.piece).Nodup
  accounts : ∃ acks, s.sender.fragment_acks = some acks ∧
    Accounts s.messages (outstanding s) s.acked s.reported (acks.fragment_messages.lookup ·)

theorem accounted_start (retry_unsent_messages : Bool) :
    Accounted (start .UnorderedWithAcks retry_unsent_messages) where
  delivery := rfl
  next := rfl
  singles := by simp [start,single_entries]
  fragments := by simp [start,fragment_entries]
  recorded := by simp [start]
  once := List.nodup_nil
  accounts := by
    refine ⟨.new,rfl,?_⟩
    have nothing : outstanding (start .UnorderedWithAcks retry_unsent_messages) = ∅ := by
      ext p
      simp [outstanding,start,waiting,collect_candidates,uncommitted,UnreliableSendState.new]
    rw [nothing]
    exact accounts_nil

variable {lz4 : Lz4} {s s' : Flow}

/-- What packets record for an entry of the queues. -/
private theorem Accounted.recorded_ack_of (accounted : Accounted s) (tracked : s.Tracked) {e : Entry}
    (member : e ∈ s.single_entries ++ s.fragment_entries) :
    ∃ message, s.messages[e.2.1]? = some message ∧ recorded_ack e.1.message = some (ack_of message e.2) := by
  rcases List.mem_append.mp member with member | member
  · exact ⟨none,(tracked.sound.single e member).1,accounted.singles e member⟩
  · obtain ⟨⟨k,isMessage,-⟩,⟨data,isData,index⟩,-⟩ := tracked.sound.fragment e member
    have named := accounted.fragments e member
    rw [PendingSendMessage.fragment_message_id,isData] at named
    refine ⟨some k,isMessage,?_⟩
    rw [isData,ack_of,← index,← Option.some.inj named]
    rfl

private theorem Accounted.free (accounted : Accounted s) (tracked : s.Tracked) (free : Free s) :
    ∀ p ∈ outstanding s, IsFragmented s.messages p.1 → ofIndex p.1 ≠ ofIndex s.messages.length := by
  rintro p waits ⟨k,isMessage⟩ same
  rw [← accounted.next] at same
  rcases waits with waits | isRecorded
  · obtain ⟨member,notCommitted⟩ := (mem_waiting tracked).mp waits
    obtain ⟨e,isEntry,rfl⟩ := List.mem_map.mp member
    rcases List.mem_append.mp isEntry with member | member
    · rw [(tracked.sound.single e member).1] at isMessage
      cases isMessage
    · obtain ⟨-,-,isCommitted⟩ := tracked.sound.fragment e member
      have uncommitted := Bool.eq_false_iff.mpr (mt isCommitted.mp notCommitted)
      exact free.1 e.1 (List.of_mem_zip member).1 uncommitted (same ▸ accounted.fragments e member)
  · obtain ⟨r,member,rfl⟩ := List.mem_map.mp isRecorded
    obtain ⟨-,message,isSame,isAck⟩ := accounted.recorded r member
    obtain rfl := Option.some.inj (isMessage.symm.trans isSame)
    exact free.2 r member (by rw [isAck]; nofun) (by rw [isAck]; exact same)

/-- A message that is buffered is outstanding with all of its pieces. -/
private theorem outstanding_send (tracked : s.Tracked) (tracked' : s'.Tracked) (message : Option Nat)
    (committed : s'.committed = s.committed) (recorded : s'.recorded = s.recorded)
    (labels : ∀ p, p ∈ (s'.single_entries ++ s'.fragment_entries).map Prod.snd ↔
      p ∈ (s.single_entries ++ s.fragment_entries).map Prod.snd ∨ p.1 = s.messages.length ∧ p.2 < pieces message) :
    outstanding s' = outstanding s ∪ {p | p.1 = s.messages.length ∧ p.2 < pieces message} := by
  ext p
  have notCommitted : p.1 = s.messages.length → p ∉ s.committed := fun isNew isCommitted => by
    obtain ⟨other,isMessage,-⟩ := tracked.sound.known p isCommitted
    exact (List.getElem?_eq_some_iff.mp isMessage).1.ne isNew
  simp only [outstanding,Set.mem_ofPred_eq,Set.mem_union,mem_waiting tracked,mem_waiting tracked',labels,committed,
    recorded]
  tauto

theorem Accounted.send (accounted : Accounted s) (tracked : s.Tracked) {fragmenter : FragmentSender} {message : Bytes}
    {compression : CompressionConfig} (sends : Sends s (.Send fragmenter message compression))
    (executed : s.step lz4 (.Send fragmenter message compression) = some s') : Accounted s' := by
  have tracked' := tracked.step executed
  obtain ⟨sender,id,buffers,sent⟩ := send_cases tracked executed
  obtain ⟨-,delivery,-,next⟩ := buffer_send_cases buffers
  have ordered : s.sender.delivery ≠ .Unordered := by
    rw [accounted.delivery]
    exact UnreliableDelivery.noConfusion
  have nextId : ∀ added : Option Nat, sender.next_message_id = ofIndex (s.messages ++ [added]).length := fun added => by
    rw [next ordered,accounted.next,add_assign_ofIndex,List.length_append]
    rfl
  have recorded : ∀ added : Option Nat, ∀ r ∈ s.recorded, r.piece ∈ s.committed ∧ ∃ message,
      (s.messages ++ [added])[r.piece.1]? = some message ∧ r.ack = ack_of message r.piece := fun added r member => by
    obtain ⟨isCommitted,message,isMessage,isAck⟩ := accounted.recorded r member
    exact ⟨isCommitted,message,Snoc.getElem?_snoc_old isMessage,isAck⟩
  obtain ⟨acks,isAcks,accounts⟩ := accounted.accounts
  rcases sent with ⟨rfl,short,same,fragments,singles⟩ | ⟨rfl,long,added,singles,fragments⟩
  · have grown := outstanding_send tracked tracked' none rfl rfl fun p => by
      rw [singles,fragments]
      simp only [List.map_append,List.mem_append,List.map_cons,List.map_nil,List.mem_singleton,Prod.ext_iff,pieces,
        Option.getD_none,Nat.lt_one_iff]
      tauto
    refine ⟨delivery.trans accounted.delivery,nextId none,?_,?_,recorded none,accounted.once,acks,same.trans isAcks,?_⟩
    · intro e member
      rw [singles] at member
      rcases List.mem_append.mp member with member | isNew
      · exact accounted.singles e member
      · obtain rfl := List.mem_singleton.mp isNew
        simp [recorded_ack,PendingSendMessage.new,MessageData.message_id,ordered,ack_of,accounted.next,
          Batches.fragment_index]
    · rw [fragments]
      exact accounted.fragments
    · rw [grown]
      exact accounts.add (show 0 < pieces none from Nat.one_pos) (fun fragmented => by simp at fragmented)
        fun id => by simp
  · have free : Free s := sends accounted.delivery long
    have positive : 0 < (cut lz4 fragmenter s.sender.next_message_id message compression).count := cut_count_pos long
    have isId := accounted.next
    generalize counted : (cut lz4 fragmenter s.sender.next_message_id message compression).count = count at *
    have grown := outstanding_send tracked tracked' (some count) rfl rfl fun p => by
      rw [singles,fragments]
      simp only [List.map_append,List.mem_append,List.map_map,List.mem_map,List.mem_range,Function.comp_apply,pieces,
        Option.getD_some,Prod.ext_iff]
      grind
    refine ⟨delivery.trans accounted.delivery,nextId _,?_,?_,recorded _,accounted.once,
      acks.add_new_fragment_to_wait_for (ofIndex s.messages.length) count,?_,?_⟩
    · rw [singles]
      exact accounted.singles
    · intro e member
      rw [fragments] at member
      rcases List.mem_append.mp member with member | isNew
      · exact accounted.fragments e member
      · obtain ⟨i,-,rfl⟩ := List.mem_map.mp isNew
        exact congrArg some ((cut_message_id ..).trans isId)
    · rw [added,isAcks,isId]
      rfl
    · rw [grown]
      refine accounts.add (show 0 < pieces (some count) from positive)
        (fun _ => accounted.free tracked free) fun id => ?_
      rw [FragmentAckReceiver.add_new_fragment_to_wait_for,Maps.lookup_insert_ite]
      rfl

/-- A piece that is committed is outstanding as before. -/
theorem Accounted.commit (accounted : Accounted s) (tracked : s.Tracked) {candidate : Nat}
    (executed : s.step lz4 (.Commit candidate) = some s') : Accounted s' := by
  have tracked' := tracked.step executed
  obtain ⟨e,committed,messages,acked,reported,recorded,acks,delivery,next,-,-,waits,shape⟩ :=
    commit_cases tracked executed
  have member : e ∈ s.single_entries ++ s.fragment_entries := by
    rcases shape with ⟨i,atIndex,-⟩ | ⟨i,message_id,atIndex,-⟩
    · exact List.mem_append_left _ (List.mem_of_getElem? atIndex)
    · exact List.mem_append_right _ (List.mem_of_getElem? atIndex)
  have notCommitted : e.2 ∉ s.committed := by
    rcases List.mem_append.mp member with isSingle | isFragment
    · exact mt (tracked.sound.single e isSingle).2.2.mpr (by rw [waits]; nofun)
    · exact mt (tracked.sound.fragment e isFragment).2.2.mpr (by rw [waits]; nofun)
  obtain ⟨message,isMessage,isAck⟩ := accounted.recorded_ack_of tracked member
  rw [watches_acks,accounted.delivery,isAck,decide_eq_true rfl,if_pos rfl] at recorded
  have recorded : s'.recorded = s.recorded ++ [⟨e.2,ack_of message e.2⟩] := recorded
  -- The commit changes no message of an entry.
  have entries : (∀ new ∈ s'.single_entries, ∃ old ∈ s.single_entries, new.2 = old.2 ∧ new.1.message = old.1.message) ∧
      (∀ new ∈ s'.fragment_entries, ∃ old ∈ s.fragment_entries, new.2 = old.2 ∧ new.1.message = old.1.message) ∧
      (s'.single_entries ++ s'.fragment_entries).map Prod.snd =
        (s.single_entries ++ s.fragment_entries).map Prod.snd := by
    have modified : ∀ {entries : List Entry} {i : Nat}, ∀ new ∈ entries.modify i commits,
        ∃ old ∈ entries, new.2 = old.2 ∧ new.1.message = old.1.message := by
      intro entries i new isNew
      obtain ⟨j,old,stored,rfl⟩ := mem_modify isNew
      refine ⟨old,List.mem_of_getElem? stored,?_⟩
      split <;> exact ⟨rfl,rfl⟩
    have labels : ∀ (entries : List Entry) (i : Nat), (entries.modify i commits).map Prod.snd = entries.map Prod.snd :=
      map_modify fun _ => rfl
    rcases shape with ⟨i,-,fragments,singles⟩ | ⟨i,message_id,-,-,singles,fragments⟩
    · rw [fragments,singles,List.map_append,List.map_append,labels]
      exact ⟨modified,fun new isNew => ⟨new,isNew,rfl,rfl⟩,rfl⟩
    · rw [fragments,singles,List.map_append,List.map_append,List.map_map]
      refine ⟨fun new isNew => ⟨new,isNew,rfl,rfl⟩,fun new isNew => ?_,congrArg _ ?_⟩
      · obtain ⟨middle,isMiddle,rfl⟩ := List.mem_map.mp isNew
        rw [starts_piece,starts_message]
        exact modified middle isMiddle
      · rw [← labels s.fragment_entries i]
        exact List.map_congr_left fun e _ => starts_piece ..
  obtain ⟨singles,fragments,labels⟩ := entries
  have same : outstanding s' = outstanding s := by
    ext p
    have isEntry : p = e.2 → p ∈ (s.single_entries ++ s.fragment_entries).map Prod.snd ∧ p ∉ s.committed := fun same =>
      ⟨same ▸ List.mem_map_of_mem member,same ▸ notCommitted⟩
    simp only [outstanding,Set.mem_ofPred_eq,mem_waiting tracked,mem_waiting tracked',labels,committed,recorded,
      List.map_append,List.map_cons,List.map_nil,List.mem_append,List.mem_singleton]
    simp only [List.map_append,List.mem_append] at isEntry
    tauto
  obtain ⟨trackers,isTrackers,accounts⟩ := accounted.accounts
  refine ⟨delivery.trans accounted.delivery,?_,?_,?_,?_,?_,trackers,acks.trans isTrackers,?_⟩
  · rw [next,messages,accounted.next]
  · intro new isNew
    obtain ⟨old,isOld,label,message⟩ := singles new isNew
    rw [label,message,accounted.singles old isOld]
  · intro new isNew
    obtain ⟨old,isOld,label,message⟩ := fragments new isNew
    rw [label,PendingSendMessage.fragment_message_id,message]
    exact accounted.fragments old isOld
  · rw [recorded,committed,messages]
    intro r isRecord
    rcases List.mem_append.mp isRecord with isRecord | isNew
    · obtain ⟨isCommitted,rest⟩ := accounted.recorded r isRecord
      exact ⟨List.mem_append_left _ isCommitted,rest⟩
    · obtain rfl := List.mem_singleton.mp isNew
      exact ⟨List.mem_append_right _ (List.mem_singleton_self _),message,isMessage,rfl⟩
  · rw [recorded,List.map_append]
    refine Snoc.nodup_snoc accounted.once fun isRecorded => notCommitted ?_
    obtain ⟨r,isRecord,samePiece⟩ := List.mem_map.mp isRecorded
    have samePiece : r.piece = e.2 := samePiece
    exact samePiece ▸ (accounted.recorded r isRecord).1
  · rw [same,messages,acked,reported]
    exact accounts

/-- What the channel gives up at the end of a flush is not outstanding any longer, and its trackers are gone. -/
theorem Accounted.finish (accounted : Accounted s) (tracked : s.Tracked) (outcome : SendFlushOutcome)
    (was_ready : Bool) :
    Accounted (s.finish outcome was_ready) := by
  have tracked' := tracked.finish outcome was_ready
  obtain ⟨retains,fewer⟩ := tracked.finish_waiting outcome was_ready
  obtain ⟨singles,fragments⟩ := finish_entries s outcome was_ready
  obtain ⟨acks,isAcks,accounts⟩ := accounted.accounts
  have subset : outstanding (s.finish outcome was_ready) ⊆ outstanding s :=
    fun p waits => waits.imp_left (fewer.subset ·)
  have queues : (∀ e ∈ (s.finish outcome was_ready).single_entries, e ∈ s.single_entries) ∧
      ∀ e ∈ (s.finish outcome was_ready).fragment_entries, e ∈ s.fragment_entries := by
    rw [singles,fragments]
    exact ⟨fun e => List.mem_of_mem_filter,fun e => List.mem_of_mem_filter⟩
  -- What is left to show is what becomes of the trackers.
  suffices trackers : ∃ acks', (s.finish outcome was_ready).sender.fragment_acks = some acks' ∧
      (∀ id, acks'.fragment_messages.lookup id = acks.fragment_messages.lookup id ∨
        acks'.fragment_messages.lookup id = none ∧ ∃ p ∈ outstanding s, p ∉ outstanding (s.finish outcome was_ready) ∧
          IsFragmented s.messages p.1 ∧ id = ofIndex p.1) ∧
      ∀ p ∈ outstanding s, p ∉ outstanding (s.finish outcome was_ready) → IsFragmented s.messages p.1 →
        acks'.fragment_messages.lookup (ofIndex p.1) = none by
    obtain ⟨acks',isAcks',looks,forgotten⟩ := trackers
    have counts : (s.finish outcome was_ready).sender.delivery = s.sender.delivery ∧
        (s.finish outcome was_ready).sender.next_message_id = s.sender.next_message_id := by
      simp only [Flow.finish,finish_send]
      split <;> exact ⟨rfl,rfl⟩
    exact ⟨counts.1.trans accounted.delivery,counts.2.trans accounted.next,
      fun e member => accounted.singles e (queues.1 e member),fun e member => accounted.fragments e (queues.2 e member),
      accounted.recorded,accounted.once,acks',isAcks',accounts.abandon subset looks forgotten⟩
  cases discards : s.sender.discard_unsent outcome was_ready with
  | false =>
    have nothing : ∀ p ∈ outstanding s, p ∈ outstanding (s.finish outcome was_ready) := by
      intro p waits
      refine waits.imp_left fun waits => retains.subset (List.mem_filter.mpr ⟨waits,?_⟩)
      rw [retained,discards]
      rfl
    refine ⟨acks,?_,fun id => .inl rfl,fun p waits isGone => absurd (nothing p waits) isGone⟩
    simp only [Flow.finish,finish_send,discards,Bool.false_eq_true,if_false]
    exact isAcks
  | true =>
    let dropped := s.sender.fragments.filter fun pending => !pending.committed && !pending.fragment_started
    refine ⟨dropped.foldl discard_acks acks,?_,fun id => ?_,?_⟩
    · simp only [Flow.finish,finish_send,discards,if_true]
      rw [isAcks]
      rfl
    · obtain ⟨isNone,same⟩ := discard_trackers dropped acks id
      by_cases drops : ∃ pending ∈ dropped, IsFirst id pending
      · refine .inr ⟨isNone drops,?_⟩
        obtain ⟨pending,isDropped,isFirst⟩ := drops
        obtain ⟨member,unstarted⟩ := List.mem_filter.mp isDropped
        obtain ⟨i,stored⟩ := List.mem_iff_getElem?.mp member
        obtain ⟨x,label⟩ : ∃ x, s.fragments[i]? = some x :=
          ⟨_,List.getElem?_eq_getElem (tracked.fragments ▸ (List.getElem?_eq_some_iff.mp stored).1)⟩
        have isEntry : (pending,x) ∈ s.fragment_entries :=
          List.mem_of_getElem? (List.getElem?_zip_eq_some.mpr ⟨stored,label⟩)
        obtain ⟨⟨k,isMessage,-⟩,-,isCommitted⟩ := tracked.sound.fragment _ isEntry
        obtain ⟨data,isData,-,rfl⟩ := isFirst
        have named := accounted.fragments _ isEntry
        rw [PendingSendMessage.fragment_message_id,isData] at named
        rw [Bool.and_eq_true,Bool.not_eq_true',Bool.not_eq_true'] at unstarted
        have notCommitted : x ∉ s.committed := mt isCommitted.mpr (by rw [unstarted.1]; exact Bool.false_ne_true)
        refine ⟨x,.inl ((mem_waiting tracked).mpr ⟨List.mem_map_of_mem (List.mem_append_right _ isEntry),notCommitted⟩),
          ?_,
          ⟨k,isMessage⟩,Option.some.inj named⟩
        rintro (waits | isRecorded)
        · have keeps := (tracked.fragment_kept isEntry outcome was_ready).mp waits
          rw [discards,keeps_fragment,unstarted.2,unstarted.1] at keeps
          cases keeps
        · obtain ⟨r,isRecord,rfl⟩ := List.mem_map.mp isRecorded
          exact notCommitted (accounted.recorded r isRecord).1
      · exact .inl (same fun pending isDropped isFirst => drops ⟨pending,isDropped,isFirst⟩)
    · intro p waits isGone fragmented
      obtain ⟨notKept,notRecorded⟩ := not_or.mp isGone
      have waits := waits.resolve_right notRecorded
      obtain ⟨⟨message,isMessage,inside⟩,-⟩ := accounts.missing p (.inl waits)
      obtain ⟨k,isFragmented⟩ := fragmented
      obtain rfl := Option.some.inj (isMessage.symm.trans isFragmented)
      have notCommitted : p ∉ s.committed := fun isCommitted => tracked.committed_once isCommitted waits
      -- The message is given up as a whole, with its first fragment.
      have first : (p.1,0) ∉ s.committed ∧ (p.1,0) ∉ (s.finish outcome was_ready).waiting := by
        rcases tracked'.whole_or_gone isMessage with whole | gone
        · exact absurd ((whole p.2 inside).resolve_left notCommitted) notKept
        · exact gone 0 (Nat.zero_lt_of_lt inside)
      have offered : (p.1,0) ∈ s.waiting := by
        rcases tracked.whole_or_gone isMessage with whole | gone
        · exact (whole 0 (Nat.zero_lt_of_lt inside)).resolve_left first.1
        · exact absurd waits (gone p.2 inside).2
      obtain ⟨e,isEntry,label⟩ := List.mem_map.mp ((mem_waiting tracked).mp offered).1
      rcases List.mem_append.mp isEntry with isEntry | isEntry
      · have isSingle := (tracked.sound.single e isEntry).1
        rw [label,isMessage] at isSingle
        cases isSingle
      · obtain ⟨-,⟨data,isData,index⟩,isCommitted⟩ := tracked.sound.fragment e isEntry
        have keeps := mt (tracked.fragment_kept isEntry outcome was_ready).mpr (label ▸ first.2)
        have uncommitted := mt isCommitted.mp (label ▸ first.1)
        have named := accounted.fragments e isEntry
        rw [PendingSendMessage.fragment_message_id,isData,label] at named
        refine (discard_trackers dropped acks _).1 ⟨e.1,List.mem_filter.mpr ⟨(List.of_mem_zip isEntry).1,?_⟩,
          data,isData,index.trans (congrArg Prod.snd label),Option.some.inj named⟩
        simpa [discards,keeps_fragment,uncommitted] using keeps

/-- When a packet is acknowledged or lost, its record is gone, and only trackers change. -/
private theorem Accounted.resolve (accounted : Accounted s) (tracked : s.Tracked) {record : Nat} {r : Record}
    (atRecord : s.recorded[record]? = some r) {acked : List Piece} {reported : List Nat} (acks : FragmentAckReceiver)
    (accounts : Accounts s.messages (outstanding s \ {r.piece}) acked reported (acks.fragment_messages.lookup ·)) :
    Accounted { s with
      sender := { s.sender with fragment_acks := some acks },recorded := s.recorded.eraseIdx record,acked,
      reported } := by
  have atPiece : (s.recorded.map Record.piece)[record]? = some r.piece := by
    rw [List.getElem?_map,atRecord,Option.map_some]
  have notWaiting := tracked.committed_once (accounted.recorded r (List.mem_of_getElem? atRecord)).1
  have left : outstanding { s with
      sender := { s.sender with fragment_acks := some acks },recorded := s.recorded.eraseIdx record,acked,reported } =
      outstanding s \ {r.piece} := by
    ext p
    change p ∈ s.waiting ∨ p ∈ (s.recorded.eraseIdx record).map Record.piece ↔ _
    simp only [outstanding,Set.mem_ofPred_eq,Set.mem_sdiff,Set.mem_singleton_iff,← List.eraseIdx_map,
      mem_eraseIdx_distinct accounted.once atPiece]
    have different : p ∈ s.waiting → p ≠ r.piece := fun waits same => notWaiting (same ▸ waits)
    tauto
  refine ⟨accounted.delivery,accounted.next,accounted.singles,accounted.fragments,
    fun other member => accounted.recorded other (List.mem_of_mem_eraseIdx member),?_,acks,rfl,left ▸ accounts⟩
  rw [← List.eraseIdx_map]
  exact accounted.once.eraseIdx record

/-- No ack that was recorded panics. -/
theorem Accounted.ack (accounted : Accounted s) (tracked : s.Tracked) {record : Nat} {r : Record}
    (atRecord : s.recorded[record]? = some r) :
    ∃ sender completed, s.sender.receive_ack r.ack = some (sender,completed) ∧
      Accounted { s with
        sender,
        recorded := s.recorded.eraseIdx record,
        acked := s.acked ++ [r.piece],
        reported := if completed then s.reported ++ [r.piece.1] else s.reported } := by
  have member := List.mem_of_getElem? atRecord
  obtain ⟨-,message,isMessage,isAck⟩ := accounted.recorded r member
  obtain ⟨acks,isAcks,accounts⟩ := accounted.accounts
  have waits : r.piece ∈ outstanding s := .inr (List.mem_map_of_mem member)
  rw [isAck]
  cases message with
  | none =>
    have acknowledged := accounted.resolve tracked atRecord _ (accounts.acknowledge_single isMessage waits)
    rw [← isAcks] at acknowledged
    refine ⟨s.sender,true,?_,acknowledged⟩
    simp only [receive_ack,ack_of,Option.map_none,accounted.delivery,decide_true]
  | some k =>
    obtain ⟨acks',completed,executed,accounts'⟩ := accounts.acknowledge_fragment isMessage waits
    refine ⟨_,completed,?_,accounted.resolve tracked atRecord acks' accounts'⟩
    simp only [receive_ack,ack_of,Option.map_some,isAcks,executed]

/-- The loss of a fragment gives its message up. -/
theorem Accounted.lose (accounted : Accounted s) (tracked : s.Tracked) {record : Nat} {r : Record}
    (atRecord : s.recorded[record]? = some r) :
    Accounted { s with sender := s.sender.receive_nack r.ack,recorded := s.recorded.eraseIdx record } := by
  have member := List.mem_of_getElem? atRecord
  obtain ⟨-,message,isMessage,isAck⟩ := accounted.recorded r member
  obtain ⟨acks,isAcks,accounts⟩ := accounted.accounts
  have waits : r.piece ∈ outstanding s := .inr (List.mem_map_of_mem member)
  have isLost : r.piece ∉ outstanding s \ {r.piece} := fun lost => lost.2 rfl
  have only : ∀ p ∈ outstanding s, p ∉ outstanding s \ {r.piece} → p = r.piece := fun p waits isGone => by
    by_contra different
    exact isGone ⟨waits,different⟩
  rw [isAck]
  cases message with
  | none =>
    have abandoned := accounted.resolve tracked atRecord _ (accounts.abandon Set.sdiff_subset (fun id => .inl rfl)
      fun p waits isGone ⟨k,isFragmented⟩ => by
        rw [only p waits isGone,isMessage] at isFragmented
        cases isFragmented)
    rw [← isAcks] at abandoned
    exact abandoned
  | some k =>
    have looks : ∀ id, (acks.discard_message (ofIndex r.piece.1)).fragment_messages.lookup id =
        if id = ofIndex r.piece.1 then none else acks.fragment_messages.lookup id := fun id => Maps.lookup_erase_ite ..
    have abandoned := accounted.resolve tracked atRecord (acks.discard_message (ofIndex r.piece.1))
      (accounts.abandon Set.sdiff_subset (fun id => by
        rw [looks]
        split
        next isId => exact .inr ⟨rfl,r.piece,waits,isLost,⟨k,isMessage⟩,isId⟩
        next => exact .inl rfl)
        fun p waits isGone _ => by rw [looks,only p waits isGone,if_pos rfl])
    simp only [receive_nack,ack_of,Option.map_some,Option.isSome_some,if_true,isAcks]
    exact abandoned

/-- No tracker of a sender is forgotten because of its age: the time of an ack is not kept. -/
theorem Accounted.update (accounted : Accounted s) (elapsed : Duration) :
    Accounted { s with sender := s.sender.update elapsed } := by
  obtain ⟨acks,isAcks,accounts⟩ := accounted.accounts
  refine ⟨accounted.delivery,accounted.next,accounted.singles,accounted.fragments,accounted.recorded,accounted.once,
    acks.cleanup (elapsed - DISCARD_AFTER),?_,?_⟩
  · simp only [UnreliableSendState.update,isAcks,Option.map_some]
  · have same : ∀ id, (acks.cleanup (elapsed - DISCARD_AFTER)).fragment_messages.lookup id =
        acks.fragment_messages.lookup id := by
      intro id
      rw [FragmentAckReceiver.cleanup,Maps.lookup_retain]
      cases found : acks.fragment_messages.lookup id with
      | none => rfl
      | some t =>
        obtain ⟨n,k,-,-,tracks,-⟩ := accounts.owner id t found
        simp [tracks.last_received]
    simp only [same]
    exact accounts

theorem Accounted.step (accounted : Accounted s) (tracked : s.Tracked) {event : Event} (sends : Sends s event)
    (executed : s.step lz4 event = some s') : Accounted s' := by
  cases event with
  | Send fragmenter message compression => exact accounted.send tracked sends executed
  | Commit candidate => exact accounted.commit tracked executed
  | Finish outcome was_ready =>
    cases executed
    exact accounted.finish tracked outcome was_ready
  | Ack record =>
    simp only [Flow.step] at executed
    split at executed
    next => cases executed
    next piece ack atRecord =>
    obtain ⟨sender,completed,acks,accounted'⟩ := accounted.ack tracked atRecord
    rw [acks] at executed
    cases executed
    exact accounted'
  | Lose record =>
    simp only [Flow.step] at executed
    split at executed
    next => cases executed
    next piece ack atRecord =>
    cases executed
    exact accounted.lose tracked atRecord
  | Update elapsed =>
    cases executed
    exact accounted.update elapsed

theorem accounted_reached {retry_unsent_messages : Bool}
    (reached : Runs.Reaches (Flow.step lz4) (fun before event _ => Sends before event)
      (start .UnorderedWithAcks retry_unsent_messages) s) : Accounted s := by
  have both : s.Tracked ∧ Accounted s := by
    refine reached.invariant (fun s => s.Tracked ∧ Accounted s) ⟨tracked_start ..,accounted_start _⟩ ?_
    rintro before event after ⟨tracked,accounted⟩ executed sends
    exact ⟨tracked.step executed,accounted.step tracked sends executed⟩
  exact both.2

theorem Accounted.reported_iff (accounted : Accounted s) {n : Nat} {message : Option Nat}
    (isMessage : s.messages[n]? = some message) : n ∈ s.reported ↔ ∀ i < pieces message, (n,i) ∈ s.acked := by
  obtain ⟨acks,-,accounts⟩ := accounted.accounts
  refine ⟨accounts.complete n message isMessage,fun all => ?_⟩
  cases message with
  | none => exact accounts.single n isMessage (all 0 Nat.one_pos)
  | some k =>
    rcases accounts.status n k isMessage with ⟨t,-,-,⟨i,inside,isMissing⟩,-⟩ | isReported | ⟨i,inside,isMissing,-⟩
    · exact absurd (all i inside) isMissing
    · exact isReported
    · exact absurd (all i inside) isMissing

/-- In a run in which a channel with acks cuts messages only under free ids, what is committed is not offered again,
    the end of a flush keeps what is retained in its order, a message is there or gone as a whole, and a channel with
    acks reports each message once, when all of its pieces are acknowledged. -/
theorem commits_under_free_ids {delivery : UnreliableDelivery} {retry_unsent_messages : Bool}
    (reached : Runs.Reaches (Flow.step lz4) (fun before event _ => Sends before event)
      (start delivery retry_unsent_messages) s) :
    (∀ p ∈ s.committed, p ∉ s.waiting) ∧
      (∀ outcome was_ready,
        (s.waiting.filter (s.retained outcome was_ready)).Sublist (s.finish outcome was_ready).waiting ∧
          (s.finish outcome was_ready).waiting.Sublist s.waiting) ∧
      (∀ (n : Nat) message, s.messages[n]? = some message →
        (∀ i < pieces message, (n,i) ∈ s.committed ∨ (n,i) ∈ s.waiting) ∨
          ∀ i < pieces message, (n,i) ∉ s.committed ∧ (n,i) ∉ s.waiting) ∧
      (delivery = .UnorderedWithAcks → s.reported.Nodup ∧
        (∀ (n : Nat) message, s.messages[n]? = some message →
          (n ∈ s.reported ↔ ∀ i < pieces message, (n,i) ∈ s.acked)) ∧
        ∀ r ∈ s.recorded, ∃ sender completed, s.sender.receive_ack r.ack = some (sender,completed)) := by
  have tracked := tracked_reached reached
  refine ⟨fun p => tracked.committed_once,tracked.finish_waiting,fun n message => tracked.whole_or_gone,?_⟩
  rintro rfl
  have accounted := accounted_reached reached
  obtain ⟨acks,-,accounts⟩ := accounted.accounts
  refine ⟨accounts.once,fun n message => accounted.reported_iff,fun r member => ?_⟩
  obtain ⟨record,atRecord⟩ := List.mem_iff_getElem?.mp member
  obtain ⟨sender,completed,executed,-⟩ := accounted.ack tracked atRecord
  exact ⟨sender,completed,executed⟩

/-- A message of two fragments is started before a flush runs out of bandwidth, and a single message is given up. -/
theorem commits_under_free_ids_started : ∃ s,
    Runs.Reaches (Flow.step .literals) (fun before event _ => Sends before event) (start .UnorderedWithAcks false) s ∧
      (s.messages = [some 2,none] ∧ s.committed = [(0,0),(0,1)] ∧ s.waiting = [] ∧ s.acked = [(0,1),(0,0)] ∧
        s.reported = [0]) ∧
      s.reported.Nodup ∧
        ∀ (n : Nat) message, s.messages[n]? = some message →
          (n ∈ s.reported ↔ ∀ i < pieces message, (n,i) ∈ s.acked) := by
  obtain ⟨s,reached,check⟩ := Runs.reaches_of_check (Flow.step .literals) (fun before event _ => Sends before event)
    (start .UnorderedWithAcks false)
    (fun s => decide (s.messages = [some 2,none] ∧ s.committed = [(0,0),(0,1)] ∧ s.waiting = [] ∧
      s.acked = [(0,1),(0,0)] ∧
      s.reported = [0]))
    [.Send ⟨2,by decide⟩ [1,2,3] .DISABLED,.Send ⟨2,by decide⟩ [7] .DISABLED,.Commit 1,.Finish .BandwidthLimited true,
      .Commit 0,.Ack 1,.Ack 0] (by decide +kernel)
  obtain ⟨-,-,-,acks⟩ := commits_under_free_ids reached
  exact ⟨s,reached,of_decide_eq_true check,(acks rfl).1,(acks rfl).2.1⟩

/-! ### When the ids come round -/

/-- Single messages are buffered under the next ids. -/
private theorem sends_single (lz4 : Lz4) {start : Flow} (fragmenter : FragmentSender) (message : Bytes)
    (short : message.length ≤ fragmenter.fragment_size) (count : Nat) {s : Flow}
    (ordered : s.sender.delivery ≠ .Unordered)
    (reached : Runs.Reaches (Flow.step lz4) (fun _ _ _ => True) start s) : ∃ queue singles,
    Runs.Reaches (Flow.step lz4) (fun _ _ _ => True) start { s with
      sender := { s.sender with singles := queue,next_message_id := s.sender.next_message_id.add_assign count },
      messages := s.messages ++ List.replicate count none,
      singles } := by
  induction count generalizing s with
  | zero =>
    refine ⟨s.sender.singles,s.singles,?_⟩
    have same : s.sender.next_message_id.add_assign 0 = s.sender.next_message_id := by
      cases s.sender.next_message_id
      simp [add_assign]
    rw [same,List.replicate_zero,List.append_nil]
    exact reached
  | succ count ih =>
    obtain ⟨queue,singles,sent⟩ : ∃ queue singles, Flow.step lz4 s (.Send fragmenter message .DISABLED) = some { s with
        sender := { s.sender with singles := queue,next_message_id := s.sender.next_message_id.add_assign 1 },
        messages := s.messages ++ [none],
        singles } := by
      simp [Flow.step,buffer_send,Nat.not_lt.mpr short,ordered,added]
    obtain ⟨queue,singles,reached⟩ := ih (by exact ordered) (.step _ reached sent trivial)
    refine ⟨queue,singles,?_⟩
    have next : (s.sender.next_message_id.add_assign 1).add_assign count =
        s.sender.next_message_id.add_assign (count + 1) := by
      simp only [add_assign,BitVec.add_assoc,← BitVec.ofNat_add,Nat.add_comm]
    simp only [next,List.append_assoc,← List.replicate_succ,List.singleton_append] at reached
    exact reached

/-- Two fragments are in packets when a message of two fragments is buffered under their id: its packets are all
    acknowledged, but it is not reported. -/
theorem unreported_after_ids_come_round : ∃ s,
    Runs.Reaches (Flow.step .literals) (fun _ _ _ => True) (start .UnorderedWithAcks false) s ∧
      ∃ (n : Nat) (message : Option Nat), s.messages[n]? = some message ∧ (∀ i < pieces message, (n,i) ∈ s.acked) ∧
        n ∉ s.reported := by
  let acks : FragmentAckReceiver := FragmentAckReceiver.new.add_new_fragment_to_wait_for .zero 2
  let recorded : List Record := [⟨(0,0),⟨.zero,some 0⟩⟩,⟨(0,1),⟨.zero,some 1⟩⟩]
  let unsent (next_message_id : MessageId) (messages : List (Option Nat)) : Flow :=
    ⟨⟨.UnorderedWithAcks,[],[],next_message_id,some acks,false⟩,messages,[],[],[(0,0),(0,1)],recorded,[],[]⟩
  have reached : Runs.Reaches (Flow.step .literals) (fun _ _ _ => True) (start .UnorderedWithAcks false)
      (unsent (ofIndex 1) [some 2]) :=
    Runs.reaches_of_run .start (show Runs.run _ _ (start .UnorderedWithAcks false)
      [.Send ⟨2,by decide⟩ [1,2,3] .DISABLED,.Commit 0,.Commit 0,.Finish .Complete true] = _ from rfl)
  obtain ⟨queue,singles,reached⟩ :=
    sends_single .literals ⟨2,by decide⟩ [1] (by decide) 65535 (fun isUnordered => by cases isUnordered) reached
  have round : (unsent (ofIndex 1) [some 2]).sender.next_message_id.add_assign 65535 = .zero :=
    add_assign_ofIndex 1 65535
  rw [round] at reached
  generalize isMessages : (unsent (ofIndex 1) [some 2]).messages ++ List.replicate 65535 none = messages at reached
  have given_up : Flow.step .literals
    ⟨⟨.UnorderedWithAcks,queue,[],.zero,some acks,false⟩,messages,singles,[],[(0,0),(0,1)],
      recorded,[],[]⟩ (.Finish .BandwidthLimited true) = some (unsent .zero messages) := by
    simp [Flow.step,Flow.finish,finish_send,discard_unsent,keepLabels,keeps_single,unsent]
  obtain ⟨s,executed,isMessage,acked,reported⟩ :
    ∃ s, Runs.run (Flow.step .literals) (fun _ _ _ => True) (unsent .zero messages)
      [.Send ⟨2,by decide⟩ [4,5,6] .DISABLED,.Commit 0,.Commit 0,.Ack 0,.Ack 0,.Ack 0,.Ack 0] = some s ∧
      s.messages = messages ++ [some 2] ∧ s.acked = [(0,0),(0,1),(messages.length,0),(messages.length,1)] ∧
        s.reported = [0] :=
    ⟨_,rfl,rfl,rfl,rfl⟩
  refine ⟨s,Runs.reaches_of_run (.step _ reached given_up trivial) executed,messages.length,some 2,?_,?_,?_⟩
  · rw [isMessage,List.getElem?_concat_length]
  · intro i inside
    rw [acked]
    rcases Nat.lt_succ_iff_lt_or_eq.mp (show i < 2 from inside) with first | rfl
    · obtain rfl := Nat.lt_one_iff.mp first
      simp
    · simp
  · rw [reported,← isMessages,List.mem_singleton,List.length_append]
    exact fun isZero => absurd (Nat.add_eq_zero_iff.mp isZero).1 (Nat.succ_ne_zero _)

end Lightyear.FragmentAcks
