import Lightyear.Attempts
import Lightyear.Serde

/-!
The senders of the messages crate: `MessageSender` of `send.rs`, `EventSender` of `send_trigger.rs` and
`MultiMessageSender` of `multi.rs`. Each reuses one writer for all the messages that it ever sends.
-/
namespace Lightyear.Messages
open Attempts Codec Message Serde

abbrev NetId := BitVec 16

def NetId.to_bytes (self : NetId) : Written := write_varint self.toNat

inductive MessageError
  | MissingSerializationFns
  | Serialization (error : SerializationError)
deriving DecidableEq

/-- What the registry knows of a message type. The serialization function is given by what it appends
to the writer and how it ends. -/
structure Registration (M SendEntityMap : Type) where
  net_id : NetId
  serialize : SendEntityMap → M → Attempt SerializationError Byte
  map_entities : Bool

section
variable {M SendEntityMap : Type}

/-- The net id is written first, and then the message. -/
def serialize (registration : Registration M SendEntityMap) (message : M) (entity_map : SendEntityMap) :
    Attempt SerializationError Byte :=
  match NetId.to_bytes registration.net_id with
  | .error error => ⟨[],.error error⟩
  | .ok head =>
    ⟨head ++ (registration.serialize entity_map message).bytes,(registration.serialize entity_map message).result⟩

theorem net_id_writes (net_id : NetId) : ∃ first rest, NetId.to_bytes net_id = .ok (first :: rest) := by
  have encodes := varint_encodes (show net_id.toNat < 2 ^ 62 by have := net_id.isLt; omega)
  have positive : 0 < varint_len net_id.toNat := by
    have := net_id.isLt
    rw [varint_len]
    split_ifs <;> omega
  obtain ⟨first,rest,split⟩ := List.exists_cons_of_length_pos (encodes.length.symm ▸ positive)
  exact ⟨first,rest,encodes.ok.trans (congrArg Except.ok split)⟩

theorem serialize_writes (registration : Registration M SendEntityMap) (message : M) (entity_map : SendEntityMap) :
    (serialize registration message entity_map).bytes ≠ [] := by
  obtain ⟨first,rest,isOk⟩ := net_id_writes registration.net_id
  simp [serialize,isOk]

end

structure Pending (M ChannelKind Priority : Type) where
  message : M
  channel_kind : ChannelKind
  priority : Priority

structure MessageSender (M ChannelKind Priority : Type) where
  send : List (Pending M ChannelKind Priority)
  writer : Bytes

section
variable {Kind M ChannelKind Priority SendEntityMap : Type}

namespace MessageSender

def default : MessageSender M ChannelKind Priority := ⟨[],[]⟩

def send_with_priority (self : MessageSender M ChannelKind Priority) (message : M) (channel_kind : ChannelKind)
    (priority : Priority) : MessageSender M ChannelKind Priority :=
  {self with send := self.send ++ [⟨message,channel_kind,priority⟩]}

end MessageSender

/-- A message of the queue, with the entity map of the frame that takes it. -/
abbrev Item (M ChannelKind Priority SendEntityMap : Type) := Pending M ChannelKind Priority × SendEntityMap

def attempt (registration : Registration M SendEntityMap) (item : Item M ChannelKind Priority SendEntityMap) :
    Attempt SerializationError Byte := serialize registration item.1.message item.2

/-- How a sender is emptied: the result, the sender afterwards, and the bytes that the transport is given,
whose unbounded channel takes all of them. -/
abbrev SendTyped (M ChannelKind Priority SendEntityMap : Type) :=
  Registration M SendEntityMap → SendEntityMap → MessageSender M ChannelKind Priority →
    Except MessageError Unit × MessageSender M ChannelKind Priority ×
      List (Item M ChannelKind Priority SendEntityMap × Bytes)

/-- The queue is drained while it is sent, also when a message fails. -/
def send_message_typed : SendTyped M ChannelKind Priority SendEntityMap := fun registration entity_map self =>
  let drained := drain (attempt registration) (self.send.map (·,entity_map)) self.writer
  (drained.1.mapError .Serialization,⟨[],drained.2.1⟩,drained.2.2)

/-- Events are sent as messages are. -/
def send_event_typed : SendTyped M ChannelKind Priority SendEntityMap := send_message_typed

/-- A sender with its history: what was queued, what was taken from the queue and what was given to the
transport. -/
structure Tracked (Kind M ChannelKind Priority SendEntityMap : Type) where
  kind : Kind
  sender : MessageSender M ChannelKind Priority
  sent : List (Pending M ChannelKind Priority)
  taken : List (Item M ChannelKind Priority SendEntityMap)
  handed : List (Item M ChannelKind Priority SendEntityMap × Bytes)

namespace Tracked

def new (kind : Kind) : Tracked Kind M ChannelKind Priority SendEntityMap := ⟨kind,.default,[],[],[]⟩

def send_with_priority (self : Tracked Kind M ChannelKind Priority SendEntityMap) (message : M)
    (channel_kind : ChannelKind)
    (priority : Priority) : Tracked Kind M ChannelKind Priority SendEntityMap :=
  {self with
    sender := self.sender.send_with_priority message channel_kind priority
    sent := self.sent ++ [⟨message,channel_kind,priority⟩]}

def send_typed (send : SendTyped M ChannelKind Priority SendEntityMap) (registration : Registration M SendEntityMap)
    (entity_map : SendEntityMap) (self : Tracked Kind M ChannelKind Priority SendEntityMap) :
    Except MessageError Unit × Tracked Kind M ChannelKind Priority SendEntityMap :=
  let sent := send registration entity_map self.sender
  (sent.1,{self with
    sender := sent.2.1
    taken := self.taken ++ self.sender.send.map (·,entity_map)
    handed := self.handed ++ sent.2.2})

def log (self : Tracked Kind M ChannelKind Priority SendEntityMap) :
    Log (Item M ChannelKind Priority SendEntityMap) Byte :=
  ⟨self.taken,self.handed,self.sender.writer⟩

end Tracked

/-- The senders of one list in turn, up to the first that fails or is not registered. -/
def send_each (send : SendTyped M ChannelKind Priority SendEntityMap)
    (registry : Kind → Option (Registration M SendEntityMap)) (entity_map : SendEntityMap) :
    List (Tracked Kind M ChannelKind Priority SendEntityMap) → List (Tracked Kind M ChannelKind Priority SendEntityMap)
  | [] => []
  | tracked :: rest =>
    match registry tracked.kind with
    | none => tracked :: rest
    | some registration =>
      let sent := tracked.send_typed send registration entity_map
      match sent.1 with
      | .error _ => sent.2 :: rest
      | .ok () => sent.2 :: send_each send registry entity_map rest

/-- The senders that the message manager of a peer knows. -/
structure Peer (Kind M ChannelKind Priority SendEntityMap : Type) where
  send_messages : List (Tracked Kind M ChannelKind Priority SendEntityMap)
  send_triggers : List (Tracked Kind M ChannelKind Priority SendEntityMap)

inductive Event (Kind M ChannelKind Priority SendEntityMap : Type)
  | add_message_sender (kind : Kind)
  | add_event_sender (kind : Kind)
  | send_with_priority (kind : Kind) (message : M) (channel_kind : ChannelKind) (priority : Priority)
  | trigger_with_priority (kind : Kind) (trigger : M) (channel_kind : ChannelKind) (priority : Priority)
  | send (entity_map : SendEntityMap)

variable [DecidableEq Kind]

/-- `on_add_hook` -/
def add (kind : Kind) (senders : List (Tracked Kind M ChannelKind Priority SendEntityMap)) :
    List (Tracked Kind M ChannelKind Priority SendEntityMap) :=
  if senders.any (·.kind = kind) then senders else senders ++ [.new kind]

/-- A message goes to the sender of its kind. -/
def queue (kind : Kind) (message : M) (channel_kind : ChannelKind) (priority : Priority)
    (senders : List (Tracked Kind M ChannelKind Priority SendEntityMap)) :
    List (Tracked Kind M ChannelKind Priority SendEntityMap) :=
  senders.map fun tracked => if tracked.kind = kind then tracked.send_with_priority message channel_kind priority
    else tracked

def Peer.step (registry : Kind → Option (Registration M SendEntityMap))
    (self : Peer Kind M ChannelKind Priority SendEntityMap) :
    Event Kind M ChannelKind Priority SendEntityMap → Peer Kind M ChannelKind Priority SendEntityMap
  | .add_message_sender kind => {self with send_messages := add kind self.send_messages}
  | .add_event_sender kind => {self with send_triggers := add kind self.send_triggers}
  | .send_with_priority kind message channel_kind priority =>
    {self with send_messages := queue kind message channel_kind priority self.send_messages}
  | .trigger_with_priority kind trigger channel_kind priority =>
    {self with send_triggers := queue kind trigger channel_kind priority self.send_triggers}
  | .send entity_map =>
    ⟨send_each send_message_typed registry entity_map self.send_messages,
      send_each send_event_typed registry entity_map self.send_triggers⟩

def Peer.run (registry : Kind → Option (Registration M SendEntityMap))
    (events : List (Event Kind M ChannelKind Priority SendEntityMap)) :
    Peer Kind M ChannelKind Priority SendEntityMap :=
  events.foldl (Peer.step registry) ⟨[],[]⟩

end

/-! ### One message for several peers -/

/-- A message that is written once, for the peers that get the bytes. -/
structure Dispatch (M ChannelKind Priority SendEntityMap Peer : Type) where
  registration : Registration M SendEntityMap
  message : M
  channel_kind : ChannelKind
  priority : Priority
  entity_map : SendEntityMap
  peers : List Peer

/-- `MultiMessageSender`, with its history. -/
structure MultiMessageSender (M ChannelKind Priority SendEntityMap Peer : Type) where
  writer : Bytes
  taken : List (Dispatch M ChannelKind Priority SendEntityMap Peer)
  handed : List (Dispatch M ChannelKind Priority SendEntityMap Peer × Bytes)

/-- A call, with the peers of the query and their entity maps. -/
structure Call (Kind M ChannelKind Priority SendEntityMap Peer : Type) where
  kind : Kind
  message : M
  channel_kind : ChannelKind
  priority : Priority
  senders : List (Peer × SendEntityMap)

namespace MultiMessageSender
variable {Kind M ChannelKind Priority SendEntityMap Peer : Type}

def dispatch (item : Dispatch M ChannelKind Priority SendEntityMap Peer) : Attempt SerializationError Byte :=
  serialize item.registration item.message item.entity_map

/-- A message without entities is written once, with an empty entity map; another one for each peer. -/
def dispatches (default : SendEntityMap) (registration : Registration M SendEntityMap)
    (call : Call Kind M ChannelKind Priority SendEntityMap Peer) :
    List (Dispatch M ChannelKind Priority SendEntityMap Peer) :=
  if registration.map_entities then
    call.senders.map fun sender => ⟨registration,call.message,call.channel_kind,call.priority,sender.2,[sender.1]⟩
  else [⟨registration,call.message,call.channel_kind,call.priority,default,call.senders.map (·.1)⟩]

def log (self : MultiMessageSender M ChannelKind Priority SendEntityMap Peer) :
    Log (Dispatch M ChannelKind Priority SendEntityMap Peer) Byte := ⟨self.taken,self.handed,self.writer⟩

def send_with_priority (registry : Kind → Option (Registration M SendEntityMap)) (default : SendEntityMap)
    (self : MultiMessageSender M ChannelKind Priority SendEntityMap Peer)
    (call : Call Kind M ChannelKind Priority SendEntityMap Peer) :
    Except MessageError Unit × MultiMessageSender M ChannelKind Priority SendEntityMap Peer :=
  match registry call.kind with
  | none => (.error .MissingSerializationFns,self)
  | some registration =>
    let items := dispatches default registration call
    let drained := drain dispatch items self.writer
    (drained.1.mapError .Serialization,⟨drained.2.1,self.taken ++ items,self.handed ++ drained.2.2⟩)

def run (registry : Kind → Option (Registration M SendEntityMap)) (default : SendEntityMap)
    (calls : List (Call Kind M ChannelKind Priority SendEntityMap Peer)) :
    MultiMessageSender M ChannelKind Priority SendEntityMap Peer :=
  calls.foldl (fun self call => (send_with_priority registry default self call).2) ⟨[],[],[]⟩

end MultiMessageSender

section
variable {Kind M ChannelKind Priority SendEntityMap : Type} {registry : Kind → Option (Registration M SendEntityMap)}

/-- Nothing is lost between the queue and the writer, and the history of a registered sender is sound. -/
def Holds (registry : Kind → Option (Registration M SendEntityMap))
    (tracked : Tracked Kind M ChannelKind Priority SendEntityMap) : Prop :=
  tracked.sent = tracked.taken.map (·.1) ++ tracked.sender.send ∧
    ∀ registration, registry tracked.kind = some registration → Sound (attempt registration) tracked.log

theorem Holds.new (kind : Kind) : Holds registry (.new kind : Tracked Kind M ChannelKind Priority SendEntityMap) :=
  ⟨rfl,fun _ _ => .start⟩

theorem Holds.send_with_priority {tracked : Tracked Kind M ChannelKind Priority SendEntityMap}
    (holds : Holds registry tracked)
    (message : M) (channel_kind : ChannelKind) (priority : Priority) :
    Holds registry (tracked.send_with_priority message channel_kind priority) := by
  refine ⟨?_,holds.2⟩
  change tracked.sent ++ _ = tracked.taken.map (·.1) ++ (tracked.sender.send ++ _)
  rw [holds.1,List.append_assoc]

theorem Holds.send_typed {tracked : Tracked Kind M ChannelKind Priority SendEntityMap} (holds : Holds registry tracked)
    {registration : Registration M SendEntityMap} (registered : registry tracked.kind = some registration)
    (entity_map : SendEntityMap) :
    Holds registry (tracked.send_typed send_message_typed registration entity_map).2 := by
  refine ⟨?_,fun other registered' => ?_⟩
  · change tracked.sent = (tracked.taken ++ tracked.sender.send.map (·,entity_map)).map (·.1) ++ []
    rw [holds.1,List.map_append,List.map_map,List.append_nil]
    exact congrArg _ (List.map_id _).symm
  · cases Option.some.inj (registered.symm.trans registered')
    exact (holds.2 registration registered).step (fun item _ => serialize_writes registration item.1.message item.2)
      (tracked.sender.send.map (·,entity_map))

theorem send_each_holds {senders : List (Tracked Kind M ChannelKind Priority SendEntityMap)}
    (holds : ∀ tracked ∈ senders, Holds registry tracked) (entity_map : SendEntityMap) :
    ∀ tracked ∈ send_each send_message_typed registry entity_map senders, Holds registry tracked := by
  induction senders with
  | nil => exact holds
  | cons tracked rest ih =>
    have ih := ih fun other mem => holds other (List.mem_cons_of_mem _ mem)
    rw [List.forall_mem_cons] at holds
    rw [send_each]
    cases registered : registry tracked.kind with
    | none => exact List.forall_mem_cons.mpr holds
    | some registration =>
      have sent := holds.1.send_typed registered entity_map
      dsimp only
      cases (tracked.send_typed send_message_typed registration entity_map).1 with
      | error error => exact List.forall_mem_cons.mpr ⟨sent,holds.2⟩
      | ok => exact List.forall_mem_cons.mpr ⟨sent,ih⟩

variable [DecidableEq Kind]

theorem add_holds {senders : List (Tracked Kind M ChannelKind Priority SendEntityMap)}
    (holds : ∀ tracked ∈ senders, Holds registry tracked) (kind : Kind) :
    ∀ tracked ∈ add kind senders, Holds registry tracked := by
  rw [add]
  split
  · exact holds
  · exact List.forall_mem_append.mpr ⟨holds,by simpa using .new kind⟩

theorem queue_holds {senders : List (Tracked Kind M ChannelKind Priority SendEntityMap)}
    (holds : ∀ tracked ∈ senders, Holds registry tracked) (kind : Kind) (message : M) (channel_kind : ChannelKind)
    (priority : Priority) : ∀ tracked ∈ queue kind message channel_kind priority senders, Holds registry tracked := by
  rw [queue,List.forall_mem_map]
  intro tracked mem
  split
  · exact (holds tracked mem).send_with_priority message channel_kind priority
  · exact holds tracked mem

theorem Peer.run_holds (events : List (Event Kind M ChannelKind Priority SendEntityMap)) :
    (∀ tracked ∈ (Peer.run registry events).send_messages, Holds registry tracked) ∧
      ∀ tracked ∈ (Peer.run registry events).send_triggers, Holds registry tracked := by
  induction events using List.reverseRecOn with
  | nil => exact ⟨by simp [Peer.run],by simp [Peer.run]⟩
  | append_singleton events event ih =>
    obtain ⟨messages,triggers⟩ := ih
    rw [Peer.run,List.foldl_append]
    cases event with
    | add_message_sender kind => exact ⟨add_holds messages kind,triggers⟩
    | add_event_sender kind => exact ⟨messages,add_holds triggers kind⟩
    | send_with_priority kind message channel_kind priority =>
      exact ⟨queue_holds messages kind message channel_kind priority,triggers⟩
    | trigger_with_priority kind trigger channel_kind priority =>
      exact ⟨messages,queue_holds triggers kind trigger channel_kind priority⟩
    | send entity_map => exact ⟨send_each_holds messages entity_map,send_each_holds triggers entity_map⟩

omit [DecidableEq Kind] in
theorem MultiMessageSender.run_sound {Peer : Type} (default : SendEntityMap)
    (calls : List (Call Kind M ChannelKind Priority SendEntityMap Peer)) :
    Sound dispatch (run registry default calls).log := by
  induction calls using List.reverseRecOn with
  | nil => exact .start
  | append_singleton calls call ih =>
    rw [run,List.foldl_append]
    change Sound dispatch (send_with_priority registry default (run registry default calls) call).2.log
    rw [send_with_priority]
    cases registry call.kind with
    | none => exact ih
    | some registration =>
      exact ih.step (fun item _ => serialize_writes item.registration item.message item.entity_map)
        (dispatches default registration call)

end

/-- In every run, of the senders of a peer and of a multi sender, each message that is serialized is given to
the transport once, in order and as its own bytes, if and only if after a message that failed all others failed. -/
theorem failures_isolated {Kind M ChannelKind Priority SendEntityMap P : Type} [DecidableEq Kind]
    (registry : Kind → Option (Registration M SendEntityMap)) (default : SendEntityMap)
    (events : List (Event Kind M ChannelKind Priority SendEntityMap))
    (calls : List (Call Kind M ChannelKind Priority SendEntityMap P)) :
    (∀ tracked ∈ (Peer.run registry events).send_messages ++ (Peer.run registry events).send_triggers,
      tracked.sent = tracked.taken.map (·.1) ++ tracked.sender.send ∧
        ∀ registration, registry tracked.kind = some registration →
          (tracked.handed = handedOver (attempt registration) tracked.taken ↔
            FailsLast (attempt registration) tracked.taken)) ∧
      ((MultiMessageSender.run registry default calls).handed =
          handedOver MultiMessageSender.dispatch (MultiMessageSender.run registry default calls).taken ↔
        FailsLast MultiMessageSender.dispatch (MultiMessageSender.run registry default calls).taken) := by
  obtain ⟨messages,triggers⟩ : (∀ tracked ∈ (Peer.run registry events).send_messages, Holds registry tracked) ∧
    ∀ tracked ∈ (Peer.run registry events).send_triggers, Holds registry tracked := Peer.run_holds events
  refine ⟨fun tracked mem => ?_,(MultiMessageSender.run_sound default calls).exact⟩
  have holds : Holds registry tracked := (List.mem_append.mp mem).elim (messages tracked) (triggers tracked)
  exact ⟨holds.1,fun registration registered => (holds.2 registration registered).exact⟩

/-- A message type whose values are bytes, of which 0 fails after a byte. -/
def faulty : Registration Byte Unit :=
  ⟨5,fun _ message => if message = 0 then ⟨[9],.error .Io⟩ else ⟨[message],.ok ()⟩,false⟩

theorem failures_isolated_last :
    ∃ tracked ∈ (Peer.run (fun _ => some faulty) [.add_message_sender (),.send_with_priority () 1 () (),
        .send_with_priority () 0 () (),.send ()] : Peer Unit Byte Unit Unit Unit).send_messages,
      tracked.handed = [((⟨1,(),()⟩,()),[5,1])] := by
  let events : List (Event Unit Byte Unit Unit Unit) :=
    [.add_message_sender (),.send_with_priority () 1 () (),.send_with_priority () 0 () (),.send ()]
  obtain ⟨tracked,isFirst⟩ : ∃ tracked, (Peer.run (fun _ => some faulty) events).send_messages = [tracked] := ⟨_,rfl⟩
  have mem : tracked ∈ (Peer.run (fun _ => some faulty) events).send_messages := by simp [isFirst]
  have exact := ((failures_isolated (fun _ => some faulty) () events
    ([] : List (Call Unit Byte Unit Unit Unit Unit))).1 tracked
    (List.mem_append_left _ mem)).2 faulty rfl
  cases isFirst
  exact ⟨_,mem,exact.mpr (by unfold FailsLast; decide)⟩

theorem failure_leaks :
    ¬ ∀ events : List (Event Unit Byte Unit Unit Unit),
      ∀ tracked ∈ (Peer.run (fun _ => some faulty) events).send_messages,
      tracked.handed = handedOver (attempt faulty) tracked.taken := by
  intro always
  have leaked := always
    [.add_message_sender (),.send_with_priority () 0 () (),.send (),.send_with_priority () 1 () (),.send ()]
    _ (List.mem_singleton_self _)
  exact absurd (congrArg (List.map Prod.snd) leaked) (by decide)

end Lightyear.Messages
