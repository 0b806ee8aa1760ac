import Lightyear.Runs
import Lightyear.SendReliable
import Lightyear.SendUnreliable
import Lightyear.Snoc

/-!
How long a reliable sender keeps a message. For every candidate that enters a packet the transport records the
ack that the packet gives, and every packet is acknowledged or lost once. The ids come round after `2^16`
messages, and what is pending under an id is overwritten by the next message with that id.
-/
namespace Lightyear.ReliableRetention
open Lightyear.Ids Lightyear.Ids.WrappingId Lightyear.Message Lightyear.Compression Lightyear.Fragments
open Lightyear.Reassembly Lightyear.SendReliable Lightyear.SendReliable.ReliableSendState

/-- The bytes of a message, or its fragments. -/
abbrev Content := Bytes ⊕ List FragmentData

def content : UnackedMessage → Content
  | .Single bytes _ => .inl bytes
  | .Fragmented fragments => .inr (fragments.map (·.data))

def marks : UnackedMessage → List Bool
  | .Single _ _ => []
  | .Fragmented fragments => fragments.map (·.acked)

/-- What is pending under an id, but for the times at which it was sent. -/
def look (self : ReliableSendState) (id : MessageId) : Option (Nat × Content × List Bool) :=
  (self.pending.lookup id).map fun p => (p.send_order,content p.message,marks p.message)

section Look
variable {lz4 : Lz4} {self : ReliableSendState}

/-- The fragments of a message are numbered and have its id. -/
def Numbered (id : MessageId) : Content → Prop
  | .inl _ => True
  | .inr fragments =>
    ∀ (i : Nat) (fragment : FragmentData), fragments[i]? = some fragment → fragment.message_id = id ∧
      fragment.fragment_id = i

private theorem look_insert (id other : MessageId) (p : PendingReliableMessage) :
    look { self with pending := self.pending.insert id p } other =
      if other = id then some (p.send_order,content p.message,marks p.message) else look self other := by
  simp only [look,Maps.lookup_insert_ite]
  split <;> rfl

private theorem look_erase (id other : MessageId) :
    look { self with pending := self.pending.erase id } other = if other = id then none else look self other := by
  simp only [look,Maps.lookup_erase_ite]
  split <;> rfl

/-- A message is pending under the next id when it has been buffered, with nothing acknowledged. -/
theorem look_buffer_send {fragmenter : FragmentSender} {message : Bytes} {config : CompressionConfig} {id : MessageId}
    {self' : ReliableSendState} (executed : self.buffer_send lz4 fragmenter message config = some (self',id)) :
    self'.next_message_id = self.next_message_id.add_assign 1 ∧ self'.next_send_order = self.next_send_order + 1 ∧
      ∃ unackedMessage, unacked lz4 fragmenter self.next_message_id message config = some unackedMessage ∧
        Numbered self.next_message_id (content unackedMessage) ∧ (∀ mark ∈ marks unackedMessage, mark = false) ∧
        ∀ other, look self' other =
          if other = self.next_message_id then
            some (self.next_send_order,content unackedMessage,marks unackedMessage)
          else look self other := by
  unfold buffer_send at executed
  dsimp only at executed
  split at executed
  next => cases executed
  next unackedMessage made =>
  split at executed
  next => cases executed
  next =>
  obtain ⟨rfl,rfl⟩ := Prod.mk.inj (Option.some.inj executed)
  refine ⟨rfl,rfl,unackedMessage,made,?_,?_,fun other => look_insert ..⟩
  · cases unackedMessage with
    | Single bytes last_sent => trivial
    | Fragmented fragments =>
      obtain ⟨-,pieces⟩ := carries_unacked made
      intro i fragment atIndex
      rw [pieces,Fragmented.pieces,List.getElem?_map,Option.map_eq_some_iff] at atIndex
      obtain ⟨j,inRange,rfl⟩ := atIndex
      obtain ⟨-,rfl⟩ := List.getElem?_eq_some_iff.mp inRange
      exact ⟨cut_message_id ..,List.getElem_range _⟩
  · unfold unacked at made
    split at made
    next =>
      obtain ⟨fragments,-,rfl⟩ := Option.map_eq_some_iff.mp made
      simp [marks]
    next =>
      cases made
      simp [marks]

/-- A commit changes no more than a time. -/
theorem look_commit_send (key : SendMessageKey) (sent_at : Duration) (other : MessageId) :
    look (self.commit_send key sent_at) other = look self other := by
  unfold commit_send
  split
  next id =>
    split
    next bytes _ send_order stored =>
      rw [look_insert]
      split
      next same => rw [same,look,stored]; rfl
      next => rfl
    next => rfl
  next id fragment_id =>
    split
    next fragments send_order stored =>
      rw [look_insert]
      split
      next same =>
        rw [same,look,stored]
        simp only [Option.map_some,content,marks,Option.some.injEq,Prod.mk.injEq,true_and]
        refine ⟨congrArg Sum.inr ?_,?_⟩
        all_goals
          apply List.ext_getElem?
          intro i
          simp only [List.getElem?_map,List.getElem?_modify]
          split <;> simp [Function.comp_def]
      next => rfl
    next => rfl
  next => rfl

private theorem commit_send_counts (key : SendMessageKey) (sent_at : Duration) :
    (self.commit_send key sent_at).next_message_id = self.next_message_id ∧
      (self.commit_send key sent_at).next_send_order = self.next_send_order := by
  unfold commit_send
  split
  · split <;> exact ⟨rfl,rfl⟩
  · split <;> exact ⟨rfl,rfl⟩
  · exact ⟨rfl,rfl⟩

/-- Every candidate is of a pending message: the message itself, or one of its fragments. -/
theorem look_candidate {c : SendReliable.SendCandidate} (member : c ∈ self.collect_candidates) :
    ∃ id kept known, look self id = some (c.send_order,kept,known) ∧
      ((∃ bytes, kept = .inl bytes ∧ c.message = .Single ⟨some id,bytes⟩) ∨
        ∃ (fragments : List FragmentData) (i : Nat) (fragment : FragmentData), kept = .inr fragments ∧
          fragments[i]? = some fragment ∧ c.message = .Fragment fragment) := by
  obtain ⟨⟨id,p⟩,stored,isCandidate⟩ := List.mem_flatMap.mp member
  have isPending := (Maps.lookup_eq_some_iff _ _ _).mpr stored
  refine ⟨id,content p.message,marks p.message,?_⟩
  unfold candidates at isCandidate
  dsimp only at isCandidate
  cases shape : p.message with
  | Single bytes last_sent =>
    rw [shape] at isCandidate
    dsimp only at isCandidate
    split at isCandidate
    next =>
      obtain rfl := List.mem_singleton.mp isCandidate
      exact ⟨by rw [look,isPending,Option.map_some,shape],.inl ⟨bytes,rfl,rfl⟩⟩
    next => cases isCandidate
  | Fragmented fragments =>
    rw [shape] at isCandidate
    obtain ⟨fragment,filtered,rfl⟩ := List.mem_map.mp isCandidate
    obtain ⟨i,atIndex⟩ := List.mem_iff_getElem?.mp (List.mem_of_mem_filter filtered)
    refine ⟨by rw [look,isPending,Option.map_some,shape],.inr ⟨_,i,fragment.data,rfl,?_,rfl⟩⟩
    rw [List.getElem?_map,atIndex,Option.map_some]

private theorem look_length {id : MessageId} {n : Nat} {fragments : List FragmentData} {known : List Bool}
    (pending : look self id = some (n,.inr fragments,known)) : known.length = fragments.length := by
  obtain ⟨⟨message,send_order⟩,-,isKept⟩ := Option.map_eq_some_iff.mp pending
  cases message with
  | Single bytes last_sent => simp [content] at isKept
  | Fragmented fragments =>
    obtain ⟨rfl,rfl,rfl⟩ := isKept
    simp [marks]

private theorem receive_ack_unknown {ack : MessageAck} (unknown : look self ack.message_id = none) :
    self.receive_ack ack = some (self,false) := by
  rw [receive_ack,Option.map_eq_none_iff.mp unknown]

/-- What a packet acknowledges has the shape of the message. -/
def Fits (ack : MessageAck) : Content → Prop
  | .inl _ => ack.fragment_id = none
  | .inr fragments => ∃ i < fragments.length, ack.fragment_id = some i

private theorem data_marked {fragments : List FragmentAck} {i : Nat} {fragment : FragmentAck}
    (atIndex : fragments[i]? = some fragment) :
    (fragments.set i { fragment with acked := true }).map (·.data) = fragments.map (·.data) := by
  obtain ⟨inside,rfl⟩ := List.getElem?_eq_some_iff.mp atIndex
  rw [List.map_set]
  apply List.ext_getElem?
  intro j
  simp only [List.getElem?_set,List.getElem?_map]
  split
  next isIndex => subst isIndex; simp [inside]
  next => rfl

/-- An ack of the shape of the pending message marks what it is for, and completes the message when all is marked. -/
theorem look_receive_ack {ack : MessageAck} {n : Nat} {kept : Content} {known : List Bool}
    (pending : look self ack.message_id = some (n,kept,known)) (shape : Fits ack kept) :
    ∃ self' completed, self.receive_ack ack = some (self',completed) ∧
      self'.next_message_id = self.next_message_id ∧ self'.next_send_order = self.next_send_order ∧
      (completed = true → ∀ mark ∈ ack.fragment_id.elim known (known.set · true), mark = true) ∧
      ∀ other, look self' other =
        if other = ack.message_id then
          if completed then none else some (n,kept,ack.fragment_id.elim known (known.set · true))
        else look self other := by
  obtain ⟨⟨message,send_order⟩,stored,isKept⟩ := Option.map_eq_some_iff.mp pending
  unfold receive_ack
  rw [stored]
  cases message with
  | Single bytes last_sent =>
    obtain ⟨rfl,rfl,rfl⟩ := isKept
    have isNone : ack.fragment_id = none := shape
    rw [isNone]
    exact ⟨_,_,rfl,rfl,rfl,by simp [marks],fun other => by simp [look_erase]⟩
  | Fragmented fragments =>
    obtain ⟨rfl,rfl,rfl⟩ := isKept
    obtain ⟨i,inside,isIndex⟩ := shape
    rw [List.length_map] at inside
    have atIndex : fragments[i]? = some fragments[i] := List.getElem?_eq_getElem inside
    simp only [isIndex,atIndex,Option.elim_some,content,marks]
    by_cases already : fragments[i].acked = true
    · have same : (fragments.map (·.acked)).set i true = fragments.map (·.acked) := by
        apply List.ext_getElem?
        intro j
        simp only [List.getElem?_set,List.getElem?_map]
        split
        next isIndex => subst isIndex; simp [inside,already]
        next => rfl
      rw [if_pos already]
      refine ⟨self,false,rfl,rfl,rfl,nofun,fun other => ?_⟩
      rw [same,if_neg Bool.false_ne_true]
      split
      next isId => rw [isId,look,stored]; rfl
      next => rfl
    · rw [if_neg already]
      have marked : (fragments.map (·.acked)).set i true =
          (fragments.set i { fragments[i] with acked := true }).map (·.acked) := by rw [List.map_set]
      have same := data_marked atIndex
      split
      next all =>
        refine ⟨_,true,rfl,rfl,rfl,fun _ mark member => ?_,fun other => look_erase ..⟩
        rw [marked] at member
        obtain ⟨fragment,inFragments,rfl⟩ := List.mem_map.mp member
        exact List.all_eq_true.mp all fragment inFragments
      next =>
        refine ⟨_,false,rfl,rfl,rfl,nofun,fun other => ?_⟩
        rw [look_insert,if_neg Bool.false_ne_true,marked]
        simp only [content,marks,same]

/-- Whatever an ack leaves pending was pending before, with other marks. -/
theorem look_of_receive_ack {ack : MessageAck} {completed : Bool} {self' : ReliableSendState}
    (executed : self.receive_ack ack = some (self',completed)) {id : MessageId} {n : Nat} {kept : Content}
    {known' : List Bool}
    (pending : look self' id = some (n,kept,known')) : ∃ known, look self id = some (n,kept,known) := by
  have erased : look { self with pending := self.pending.erase ack.message_id } id = some (n,kept,known') →
      ∃ known, look self id = some (n,kept,known) := by
    intro pending
    rw [look_erase] at pending
    split at pending
    next => cases pending
    next => exact ⟨known',pending⟩
  unfold receive_ack at executed
  split at executed
  next =>
    cases executed
    exact ⟨known',pending⟩
  next =>
    split at executed
    next => cases executed
    next =>
      cases executed
      exact erased pending
  next fragments send_order stored =>
  split at executed
  next => cases executed
  next fragment_id _ =>
  split at executed
  next => cases executed
  next fragment inFragments =>
  split at executed
  next =>
    cases executed
    exact ⟨known',pending⟩
  next =>
  dsimp only at executed
  split at executed
  next =>
    cases executed
    exact erased pending
  next =>
    cases executed
    rw [look_insert] at pending
    split at pending
    next isId =>
      simp only [content,data_marked inFragments,Option.some.injEq,Prod.mk.injEq] at pending
      obtain ⟨rfl,rfl,-⟩ := pending
      exact ⟨marks (.Fragmented fragments),by rw [isId,look,stored]; rfl⟩
    next => exact ⟨known',pending⟩

end Look

/-! ### Runs -/

/-- The ack that a packet gives for a message. The packet is neither acknowledged nor lost yet. -/
structure Record where
  message : Nat
  ack : MessageAck

/-- A sender and what happened to it. The messages are numbered in the order in which they were buffered. -/
structure Retention where
  sender : ReliableSendState
  buffered : List Content
  recorded : List Record
  /-- The messages whose packets were acknowledged, with the fragment that a packet carried. -/
  acked : List (Nat × Option FragmentIndex)

inductive Event where
  | Send (fragmenter : FragmentSender) (message : Bytes) (compression : CompressionConfig)
  /-- One candidate enters a packet and is committed. -/
  | Transmit (candidate : Nat) (sent_at : Duration)
  | Ack (record : Nat)
  | Lose (record : Nat)
  | Update (now rtt : Duration)

namespace Retention

def start (settings : ReliableSettings) : Retention := ⟨.new settings,[],[],[]⟩

def step (lz4 : Lz4) (s : Retention) : Event → Option Retention
  | .Send fragmenter message compression =>
    match s.sender.buffer_send lz4 fragmenter message compression,
      unacked lz4 fragmenter s.sender.next_message_id message compression with
    | some (sender,_),some unackedMessage =>
      some { s with sender,buffered := s.buffered ++ [content unackedMessage] }
    | _,_ => none
  | .Transmit candidate sent_at =>
    s.sender.collect_candidates[candidate]?.map fun c =>
      { s with
        sender := s.sender.commit_send c.key sent_at,
        recorded := s.recorded ++ (SendUnreliable.recorded_ack c.message).toList.map (⟨c.send_order,·⟩) }
  | .Ack record =>
    match s.recorded[record]? with
    | none => none
    | some ⟨message,ack⟩ =>
      (s.sender.receive_ack ack).map fun (sender,_) =>
        { s with sender,recorded := s.recorded.eraseIdx record,acked := s.acked ++ [(message,ack.fragment_id)] }
  | .Lose record => some { s with recorded := s.recorded.eraseIdx record }
  | .Update now rtt => some { s with sender := s.sender.update now rtt }

/-- The id of the next message is that of no message that is pending, or that a packet on its way still carries. -/
def Free (s : Retention) : Prop :=
  s.sender.next_message_id ∉ s.sender.pending ∧ ∀ r ∈ s.recorded, r.ack.message_id ≠ s.sender.next_message_id

/-- A message is buffered only under a free id. -/
def Sends (s : Retention) : Event → Prop
  | .Send .. => s.Free
  | _ => True

instance (s : Retention) : Decidable s.Free :=
  inferInstanceAs (Decidable (s.sender.next_message_id ∉ s.sender.pending ∧
    ∀ r ∈ s.recorded, r.ack.message_id ≠ s.sender.next_message_id))

instance (s : Retention) : ∀ event, Decidable (s.Sends event)
  | .Send .. => inferInstanceAs (Decidable s.Free)
  | .Transmit .. | .Ack _ | .Lose _ | .Update .. => .isTrue trivial

/-- The packet of a message was acknowledged, or one for each of its fragments. -/
def Acknowledged (s : Retention) (n : Nat) : Content → Prop
  | .inl _ => (n,none) ∈ s.acked
  | .inr fragments => ∀ i < fragments.length, (n,some i) ∈ s.acked

/-- The message is pending as it was buffered. -/
def Keeps (s : Retention) (n : Nat) (message : Content) : Prop :=
  ∃ p, s.sender.pending.lookup (ofIndex n) = some p ∧ p.send_order = n ∧ content p.message = message

structure Retains (s : Retention) : Prop where
  next : s.sender.next_message_id = ofIndex s.buffered.length
  order : s.sender.next_send_order = s.buffered.length
  numbered : ∀ (n : Nat) message, s.buffered[n]? = some message → Numbered (ofIndex n) message
  pending : ∀ id n message known, look s.sender id = some (n,message,known) →
    id = ofIndex n ∧ s.buffered[n]? = some message ∧ ∀ i, known[i]? = some true → (n,some i) ∈ s.acked
  kept : ∀ (n : Nat) message, s.buffered[n]? = some message → s.Keeps n message ∨ s.Acknowledged n message
  recorded : ∀ r ∈ s.recorded, r.ack.message_id = ofIndex r.message ∧
    ∃ message, s.buffered[r.message]? = some message ∧ Fits r.ack message
  current : ∀ r ∈ s.recorded, ∀ n message known, look s.sender r.ack.message_id = some (n,message,known) → n = r.message

theorem retains_start (settings : ReliableSettings) : (start settings).Retains where
  next := rfl
  order := rfl
  numbered := by simp [start]
  pending := by simp [start,look,ReliableSendState.new]
  kept := by simp [start]
  recorded := by simp [start]
  current := by simp [start]

variable {lz4 : Lz4} {s s' : Retention}

theorem keeps_iff {n : Nat} {message : Content} :
    s.Keeps n message ↔ ∃ known, look s.sender (ofIndex n) = some (n,message,known) := by
  simp only [Keeps,look,Option.map_eq_some_iff,Prod.mk.injEq]
  exact ⟨fun ⟨p,stored,order,same⟩ => ⟨_,p,stored,order,same,rfl⟩,fun ⟨_,p,stored,order,same,_⟩ =>
    ⟨p,stored,order,same⟩⟩

/-- The ack that is recorded for a candidate of a message fits the message. -/
private theorem fits_recorded {c : SendReliable.SendCandidate} (member : c ∈ s.sender.collect_candidates)
    (retains : s.Retains) {ack : MessageAck} (isAck : ack ∈ SendUnreliable.recorded_ack c.message) :
    ack.message_id = ofIndex c.send_order ∧ ∃ message known,
      look s.sender ack.message_id = some (c.send_order,message,known) ∧ s.buffered[c.send_order]? = some message ∧
      Fits ack message := by
  obtain ⟨id,kept,known,pending,shape⟩ := look_candidate member
  obtain ⟨named,isMessage,-⟩ := retains.pending _ _ _ _ pending
  rcases shape with ⟨bytes,rfl,single⟩ | ⟨fragments,i,fragment,rfl,atIndex,isFragment⟩
  · rw [single] at isAck
    obtain rfl := Option.some.inj isAck
    exact ⟨named,_,_,pending,isMessage,rfl⟩
  · rw [isFragment] at isAck
    obtain rfl := Option.some.inj isAck
    obtain ⟨hasId,isIndex⟩ := retains.numbered _ _ isMessage i fragment atIndex
    have inside := (List.getElem?_eq_some_iff.mp atIndex).1
    refine ⟨hasId,.inr fragments,known,?_,isMessage,i,inside,congrArg some isIndex⟩
    rw [hasId,← named,pending]

/-- What an ack that was recorded does: it never panics, and the message leaves once it is acknowledged. -/
private theorem Retains.receive_ack (retains : s.Retains) {r : Record} (member : r ∈ s.recorded) :
    ∃ sender completed, s.sender.receive_ack r.ack = some (sender,completed) ∧
      sender.next_message_id = s.sender.next_message_id ∧ sender.next_send_order = s.sender.next_send_order ∧
      (∀ id n message known', look sender id = some (n,message,known') → ∃ known,
        look s.sender id = some (n,message,known) ∧
          ∀ i, known'[i]? = some true → known[i]? = some true ∨ (n,some i) = (r.message,r.ack.fragment_id)) ∧
      ∀ (n : Nat) message known, look s.sender (ofIndex n) = some (n,message,known) →
        (∃ known', look sender (ofIndex n) = some (n,message,known')) ∨
          Acknowledged { s with acked := s.acked ++ [(r.message,r.ack.fragment_id)] } n message := by
  obtain ⟨named,message,isMessage,fits⟩ := retains.recorded r member
  cases pending : look s.sender r.ack.message_id with
  | none =>
    exact ⟨s.sender,false,receive_ack_unknown pending,rfl,rfl,
      fun id n message known' looked => ⟨known',looked,fun i marked => .inl marked⟩,
      fun n message known looked => .inl ⟨known,looked⟩⟩
  | some entry =>
    obtain ⟨n,kept,known⟩ := entry
    obtain rfl := retains.current r member n kept known pending
    obtain ⟨-,isKept,marked⟩ := retains.pending _ _ _ _ pending
    obtain rfl := Option.some.inj (isKept.symm.trans isMessage)
    obtain ⟨sender,completed,executed,next,order,all,looks⟩ := look_receive_ack pending fits
    refine ⟨sender,completed,executed,next,order,fun id n message known' looked => ?_,fun n message known' looked => ?_⟩
    · rw [looks] at looked
      split at looked
      next isId =>
        split at looked
        next => cases looked
        next =>
          cases looked
          refine ⟨known,isId ▸ pending,fun i isTrue => ?_⟩
          cases acknowledges : r.ack.fragment_id with
          | none =>
            rw [acknowledges] at isTrue
            exact .inl isTrue
          | some j =>
            rw [acknowledges,Option.elim_some,List.getElem?_set] at isTrue
            split at isTrue
            next same => exact .inr (by rw [same])
            next => exact .inl isTrue
      next => exact ⟨known',looked,fun i isTrue => .inl isTrue⟩
    · rw [looks]
      split
      next isId =>
        rw [isId,pending] at looked
        cases looked
        split
        next isCompleted =>
          refine .inr ?_
          cases kept with
          | inl bytes =>
            have acknowledges : r.ack.fragment_id = none := fits
            simp [Acknowledged,acknowledges]
          | inr fragments =>
            obtain ⟨i,-,acknowledges⟩ := fits
            have length := look_length pending
            intro j inside
            by_cases same : i = j
            · simp [acknowledges,same]
            · rw [acknowledges,Option.elim_some] at all
              have isTrue := all isCompleted known[j] (List.mem_iff_getElem?.mpr ⟨j,by simp [same,length,inside]⟩)
              refine List.mem_append_left _ (marked j ?_)
              rw [List.getElem?_eq_getElem (by omega),isTrue]
        next => exact .inl ⟨_,rfl⟩
      next => exact .inl ⟨known',looked⟩

theorem Acknowledged.mono {n : Nat} {message : Content} (acknowledged : s.Acknowledged n message)
    (more : s.acked ⊆ s'.acked) : s'.Acknowledged n message := by
  cases message with
  | inl bytes => exact more acknowledged
  | inr fragments => exact fun i inside => more (acknowledged i inside)

/-- A message is buffered under a free id. -/
private theorem Retains.send (retains : s.Retains) (free : s.Free) {fragmenter : FragmentSender} {message : Bytes}
    {compression : CompressionConfig} {sender : ReliableSendState} {id : MessageId} {unackedMessage : UnackedMessage}
    (sent : s.sender.buffer_send lz4 fragmenter message compression = some (sender,id))
    (made : unacked lz4 fragmenter s.sender.next_message_id message compression = some unackedMessage) :
    Retains { s with sender,buffered := s.buffered ++ [content unackedMessage] } := by
  obtain ⟨next,order,unackedMessage',made',numbered,unmarked,looks⟩ := look_buffer_send sent
  obtain rfl := Option.some.inj (made.symm.trans made')
  have old : ∀ {n : Nat} {message : Content}, s.buffered[n]? = some message →
      (s.buffered ++ [content unackedMessage])[n]? = some message := fun isMessage => by
    rw [List.getElem?_append_left (List.getElem?_eq_some_iff.mp isMessage).1,isMessage]
  obtain ⟨notPending,notRecorded⟩ := free
  refine ⟨?_,?_,?_,?_,?_,?_,?_⟩
  · rw [next,retains.next,add_assign_ofIndex,List.length_append]
    rfl
  · rw [order,retains.order,List.length_append]
    rfl
  · intro n message isMessage
    rcases Snoc.getElem?_snoc.mp isMessage with isMessage | ⟨rfl,rfl⟩
    · exact retains.numbered n message isMessage
    · exact retains.next ▸ numbered
  · intro id n message known looked
    rw [looks] at looked
    split at looked
    next isId =>
      cases looked
      refine ⟨isId.trans (retains.order ▸ retains.next),?_,fun i isTrue => ?_⟩
      · rw [retains.order,List.getElem?_concat_length]
      · cases unmarked true (List.mem_of_getElem? isTrue)
    next =>
      obtain ⟨named,isMessage,marked⟩ := retains.pending id n message known looked
      exact ⟨named,old isMessage,marked⟩
  · intro n message isMessage
    rw [keeps_iff]
    rcases Snoc.getElem?_snoc.mp isMessage with isMessage | ⟨rfl,rfl⟩
    · rcases retains.kept n message isMessage with keeps | acknowledged
      · obtain ⟨known,looked⟩ := keeps_iff.mp keeps
        refine .inl ⟨known,?_⟩
        rw [looks,if_neg ?_,looked]
        rintro isNext
        obtain ⟨p,stored,-⟩ := keeps
        exact notPending ((Maps.mem_iff_lookup _ _).mpr ⟨p,isNext ▸ stored⟩)
      · exact .inr (acknowledged.mono (List.Subset.refl _))
    · refine .inl ⟨marks unackedMessage,?_⟩
      rw [looks,if_pos retains.next.symm,retains.order]
  · intro r member
    obtain ⟨named,message,isMessage,fits⟩ := retains.recorded r member
    exact ⟨named,message,old isMessage,fits⟩
  · intro r member n message known looked
    rw [looks,if_neg (notRecorded r member)] at looked
    exact retains.current r member n message known looked

/-- A candidate enters a packet, and the ack that the packet gives for it is recorded. -/
private theorem Retains.transmit (retains : s.Retains) {c : SendReliable.SendCandidate}
    (isCandidate : c ∈ s.sender.collect_candidates) (sent_at : Duration) :
    Retains { s with
      sender := s.sender.commit_send c.key sent_at,
      recorded := s.recorded ++ (SendUnreliable.recorded_ack c.message).toList.map (⟨c.send_order,·⟩) } := by
  have looks : ∀ id, look (s.sender.commit_send c.key sent_at) id = look s.sender id := look_commit_send c.key sent_at
  have known : ∀ {r : Record},
      r ∈ s.recorded ++ (SendUnreliable.recorded_ack c.message).toList.map (⟨c.send_order,·⟩) →
        r ∈ s.recorded ∨ ∃ ack ∈ SendUnreliable.recorded_ack c.message, r = ⟨c.send_order,ack⟩ := fun member => by
    rcases List.mem_append.mp member with old | new
    · exact .inl old
    · obtain ⟨ack,isAck,rfl⟩ := List.mem_map.mp new
      exact .inr ⟨ack,Option.mem_toList.mp isAck,rfl⟩
  refine ⟨?_,?_,retains.numbered,?_,?_,?_,?_⟩
  · rw [← retains.next]
    exact (commit_send_counts ..).1
  · rw [← retains.order]
    exact (commit_send_counts ..).2
  · intro id n message known looked
    rw [looks] at looked
    exact retains.pending id n message known looked
  · intro n message isMessage
    rw [keeps_iff,looks,← keeps_iff]
    exact retains.kept n message isMessage
  · intro r member
    rcases known member with old | ⟨ack,isAck,rfl⟩
    · exact retains.recorded r old
    · obtain ⟨named,message,_,-,isMessage,fits⟩ := fits_recorded isCandidate retains isAck
      exact ⟨named,message,isMessage,fits⟩
  · intro r member n message marks looked
    rw [looks] at looked
    rcases known member with old | ⟨ack,isAck,rfl⟩
    · exact retains.current r old n message marks looked
    · obtain ⟨-,_,_,pending,-⟩ := fits_recorded isCandidate retains isAck
      cases pending.symm.trans looked
      rfl

/-- The packet of a record is acknowledged. -/
private theorem Retains.ack (retains : s.Retains) {record : Nat} {r : Record} (atRecord : s.recorded[record]? = some r)
    {sender : ReliableSendState} {completed : Bool} (acked : s.sender.receive_ack r.ack = some (sender,completed)) :
    Retains { s with
      sender,recorded := s.recorded.eraseIdx record,acked := s.acked ++ [(r.message,r.ack.fragment_id)] } := by
  obtain ⟨sender',completed',acked',next,order,back,forth⟩ := retains.receive_ack (List.mem_of_getElem? atRecord)
  cases acked.symm.trans acked'
  have subset : s.acked ⊆ s.acked ++ [(r.message,r.ack.fragment_id)] := List.subset_append_left ..
  have still : ∀ r ∈ s.recorded.eraseIdx record, r ∈ s.recorded := fun r => List.mem_of_mem_eraseIdx
  refine ⟨next.trans retains.next,order.trans retains.order,retains.numbered,?_,?_,
    fun r member => retains.recorded r (still r member),?_⟩
  · intro id n content known' looked
    obtain ⟨known,looked,marks⟩ := back id n content known' looked
    obtain ⟨named,isMessage,marked⟩ := retains.pending id n content known looked
    refine ⟨named,isMessage,fun i isTrue => ?_⟩
    rcases marks i isTrue with old | new
    · exact subset (marked i old)
    · exact List.mem_append_right _ (List.mem_singleton.mpr new)
  · intro n content isMessage
    rw [keeps_iff]
    rcases retains.kept n content isMessage with keeps | acknowledged
    · obtain ⟨known,looked⟩ := keeps_iff.mp keeps
      exact forth n content known looked
    · exact .inr (acknowledged.mono subset)
  · intro r member n content known' looked
    obtain ⟨known,looked,-⟩ := back _ n content known' looked
    exact retains.current r (still r member) n content known looked

theorem Retains.step (retains : s.Retains) {event : Event} (free : s.Sends event)
    (executed : s.step lz4 event = some s') :
    s'.Retains := by
  cases event with
  | Send fragmenter message compression =>
    simp only [Retention.step] at executed
    split at executed
    next sender id unackedMessage sent made =>
      cases executed
      exact retains.send free sent made
    next => cases executed
  | Transmit candidate sent_at =>
    obtain ⟨c,isCandidate,rfl⟩ := Option.map_eq_some_iff.mp executed
    exact retains.transmit (List.mem_of_getElem? isCandidate) sent_at
  | Ack record =>
    simp only [Retention.step] at executed
    split at executed
    next => cases executed
    next message ack atRecord =>
    obtain ⟨⟨sender,completed⟩,acked,rfl⟩ := Option.map_eq_some_iff.mp executed
    exact retains.ack atRecord acked
  | Lose record =>
    cases executed
    have still : ∀ r ∈ s.recorded.eraseIdx record, r ∈ s.recorded := fun r => List.mem_of_mem_eraseIdx
    exact { retains with
      recorded := fun r member => retains.recorded r (still r member)
      current := fun r member => retains.current r (still r member) }
  | Update now rtt =>
    cases executed
    exact { retains with }

theorem retains_reached {settings : ReliableSettings}
    (reached : Runs.Reaches (step lz4) (fun before event _ => before.Sends event) (start settings) s) : s.Retains := by
  refine reached.invariant Retains (retains_start settings) ?_
  intro before event after retains executed free
  exact retains.step free executed

end Retention
open Retention

/-- In a run that buffers under free ids only, a message is pending as it was buffered until its packet, or one for
    each of its fragments, was acknowledged, and no ack that the transport has recorded panics. -/
theorem retained_under_free_ids {lz4 : Lz4} {settings : ReliableSettings} {s : Retention}
    (reached : Runs.Reaches (step lz4) (fun before event _ => before.Sends event) (start settings) s) :
    (∀ (n : Nat) message, s.buffered[n]? = some message → s.Keeps n message ∨ s.Acknowledged n message) ∧
      ∀ r ∈ s.recorded, ∃ sender completed, s.sender.receive_ack r.ack = some (sender,completed) := by
  have retains := retains_reached reached
  refine ⟨retains.kept,fun r member => ?_⟩
  obtain ⟨sender,completed,executed,-⟩ := retains.receive_ack member
  exact ⟨sender,completed,executed⟩

/-- Two fragments in packets, one acknowledged, and a message behind them. -/
theorem retained_under_free_ids_partly : ∃ s,
    Runs.Reaches (step .literals) (fun before event _ => before.Sends event) (start ⟨fun _ => 0⟩) s ∧
      (s.buffered.length = 2 ∧ s.acked = [(0,some 1)] ∧ s.recorded.length = 1) ∧
      (∀ (n : Nat) message, s.buffered[n]? = some message → s.Keeps n message ∨ s.Acknowledged n message) ∧
      ∀ r ∈ s.recorded, ∃ sender completed, s.sender.receive_ack r.ack = some (sender,completed) := by
  obtain ⟨s,reached,check⟩ := Runs.reaches_of_check (step .literals) (fun before event _ => before.Sends event)
    (start ⟨fun _ => 0⟩) (fun s => decide (s.buffered.length = 2 ∧ s.acked = [(0,some 1)] ∧ s.recorded.length = 1))
    [.Send ⟨2,by decide⟩ [1,2,3] .DISABLED,.Transmit 0 5,.Transmit 0 5,.Ack 1,.Send ⟨2,by decide⟩ [7] .DISABLED]
      (by decide +kernel)
  exact ⟨s,reached,of_decide_eq_true check,retained_under_free_ids reached⟩

/-! ### When the ids come round -/

/-- As long as the order is no more than a `u64`, short messages are buffered whatever is pending. -/
private theorem sends_short (lz4 : Lz4) {start : Retention} (fragmenter : FragmentSender) (message : Bytes)
    (short : message.length ≤ fragmenter.fragment_size) (count : Nat) {s : Retention}
    (room : s.sender.next_send_order + count + 1 < 2 ^ 64)
    (reached : Runs.Reaches (step lz4) (fun _ _ _ => True) start s) : ∃ s',
    Runs.Reaches (step lz4) (fun _ _ _ => True) start s' ∧
      s'.buffered = s.buffered ++ List.replicate count (.inl message) ∧
      s'.recorded = s.recorded ∧ s'.acked = s.acked ∧ s'.sender.next_send_order = s.sender.next_send_order + count ∧
      s'.sender.next_message_id = s.sender.next_message_id.add_assign count := by
  induction count generalizing s with
  | zero => exact ⟨s,reached,by simp,rfl,rfl,rfl,by cases id : s.sender.next_message_id; simp [add_assign]⟩
  | succ count ih =>
    have single : unacked lz4 fragmenter s.sender.next_message_id message .DISABLED = some (.Single message none) :=
      if_neg (Nat.not_lt.mpr short)
    have inside : ¬s.sender.next_send_order + 1 ≥ 2 ^ 64 := by omega
    have sent : step lz4 s (.Send fragmenter message .DISABLED) = some { s with
        sender := { s.sender with
          pending := s.sender.pending.insert s.sender.next_message_id ⟨.Single message none,s.sender.next_send_order⟩,
          next_message_id := s.sender.next_message_id.add_assign 1,
          next_send_order := s.sender.next_send_order + 1 },
        buffered := s.buffered ++ [.inl message] } := by
      simp only [step,buffer_send,single,if_neg inside]
      rfl
    obtain ⟨s',reached',buffered,recorded,acked,order,next⟩ := ih (by simp only; omega) (.step _ reached sent trivial)
    refine ⟨s',reached',?_,recorded,acked,?_,?_⟩
    · rw [buffered,List.append_assoc,List.replicate_succ]
      rfl
    · rw [order]
      simp only
      omega
    · rw [next]
      simp only [add_assign,BitVec.add_assoc,← BitVec.ofNat_add,Nat.add_comm]

/-- A message in a packet is overwritten by the one that is buffered `2^16` messages later, with nothing acknowledged.
    As that one has fragments, the ack of the packet then panics. -/
theorem overwritten_after_ids_come_round : ∃ s,
    Runs.Reaches (step .literals) (fun _ _ _ => True) (start ⟨fun _ => 0⟩) s ∧
      (∃ message, s.buffered[0]? = some message ∧ ¬s.Keeps 0 message ∧ ¬s.Acknowledged 0 message) ∧
      ∃ r ∈ s.recorded, s.sender.receive_ack r.ack = none := by
  obtain ⟨s₁,reached,check⟩ := Runs.reaches_of_check (step .literals) (fun _ _ _ => True) (start ⟨fun _ => 0⟩)
    (fun s => decide (s.buffered = [.inl [1]] ∧ s.acked = [] ∧ s.recorded.map (fun r => (r.message,r.ack)) =
      [(0,⟨.zero,none⟩)] ∧
      s.sender.next_message_id = ofIndex 1 ∧ s.sender.next_send_order = 1))
    [.Send ⟨2,by decide⟩ [1] .DISABLED,.Transmit 0 5] (by decide +kernel)
  obtain ⟨buffered₁,acked₁,recorded₁,next₁,order₁⟩ := of_decide_eq_true check
  obtain ⟨s₂,reached,buffered,recorded,acked,order,next⟩ := sends_short .literals ⟨2,by decide⟩ [1] (by decide) 65535
    (by omega) reached
  rw [next₁,add_assign_ofIndex] at next
  have isZero : s₂.sender.next_message_id = .zero := next
  obtain ⟨fragments,made⟩ : ∃ fragments, unacked .literals ⟨2,by decide⟩ s₂.sender.next_message_id [1,2,3] .DISABLED =
      some (.Fragmented fragments) := ⟨_,rfl⟩
  have inside : ¬s₂.sender.next_send_order + 1 ≥ 2 ^ 64 := by omega
  obtain ⟨sender,id,sent⟩ : ∃ sender id,
      s₂.sender.buffer_send .literals ⟨2,by decide⟩ [1,2,3] .DISABLED = some (sender,id) := by
    simp only [buffer_send,made,if_neg inside]
    exact ⟨_,_,rfl⟩
  have stepped : step .literals s₂ (.Send ⟨2,by decide⟩ [1,2,3] .DISABLED) =
      some { s₂ with sender,buffered := s₂.buffered ++ [content (.Fragmented fragments)] } := by
    simp only [step,sent,made]
  obtain ⟨-,-,unackedMessage,made',-,-,looks⟩ := look_buffer_send sent
  cases made.symm.trans made'
  have overwritten := looks .zero
  rw [if_pos isZero.symm] at overwritten
  refine ⟨_,.step _ reached stepped trivial,⟨.inl [1],?_,fun keeps => ?_,fun acknowledged => ?_⟩,?_⟩
  · simp only [buffered,buffered₁,List.cons_append,List.getElem?_cons_zero]
  · obtain ⟨known,looked⟩ := keeps_iff.mp keeps
    have first := congrArg (·.map Prod.fst) (looked.symm.trans overwritten)
    simp [order,order₁] at first
  · rw [Acknowledged,acked,acked₁] at acknowledged
    cases acknowledged
  · obtain ⟨r,member,same⟩ : ∃ r ∈ s₂.recorded, (r.message,r.ack) = (0,⟨.zero,none⟩) :=
      List.mem_map.mp (by rw [recorded,recorded₁]; exact List.mem_singleton_self _)
    refine ⟨r,member,?_⟩
    rw [(Prod.mk.inj same).2]
    obtain ⟨⟨message,send_order⟩,stored,kept⟩ := Option.map_eq_some_iff.mp overwritten
    cases message with
    | Single bytes last_sent => simp [content] at kept
    | Fragmented pending => simp only [receive_ack,stored]

end Lightyear.ReliableRetention
