import Mathlib.Data.Set.Card
import Lightyear.Netcode.Server

/-!
What a server is for, without packets and buffers: sessions that are admitted, accepted and
closed, their entities and replay windows, the callbacks, and the nonces that are used up.
-/
namespace Lightyear.Netcode

structure Session where
  connected : Bool
  client_id : ClientId
  entity : Entity
  send_key : Key
  sequence : UInt64

structure Sessions where
  clients : ClientId → Option Session
  ids : Entity → Option ClientId
  windows : Set ClientId
  callbacks : List Callback
  history : List Sealed
  sequence : UInt64
  max_clients : Nat

namespace Sessions

def new (max_clients : Nat) : Sessions := ⟨fun _ => none,fun _ => none,∅,[],[],0x800000,max_clients⟩

/-- The clients that are connected. -/
def connected (s : Sessions) : Set ClientId := {id | ∃ c, s.clients id = some c ∧ c.connected = true}

/-- The session of an entity, under its key in `clients`. -/
def locate (s : Sessions) (entity : Entity) : Option (ClientId × Session) :=
  (s.ids entity).bind fun id => (s.clients id).map fun c => (id,c)

def put (id : ClientId) (c : Session) (s : Sessions) : Sessions :=
  { s with clients := Function.update s.clients id (some c) }

/-- A packet with a number of the server. -/
def announce (key : Key) (packet : Packet) (s : Sessions) : Sessions :=
  { s with history := s.history ++ [⟨key,s.sequence,packet⟩], sequence := s.sequence + 1 }

/-- The next packet of a session. -/
def send (id : ClientId) (c : Session) (packet : Packet) (s : Sessions) : Sessions :=
  { s.put id { c with sequence := c.sequence + 1 } with
    history := s.history ++ [⟨c.send_key,c.sequence,packet⟩] }

def notify (callback : Callback) (s : Sessions) : Sessions := { s with callbacks := s.callbacks ++ [callback] }

def add (entity : Entity) (id : ClientId) (key : Key) (s : Sessions) : Sessions :=
  match s.locate entity with
  | some (old,c) => s.put old { c with client_id := id, send_key := key }
  | none =>
    { s with
      clients := Function.update s.clients id (some ⟨false,id,entity,key,0x4000000000000000⟩)
      ids := Function.update s.ids entity (some id)
      windows := insert id s.windows }

def remove (id : ClientId) (s : Sessions) : Sessions :=
  match s.clients id with
  | none => s
  | some c =>
    if c.connected then
      { s with
        clients := Function.update s.clients id none
        ids := Function.update s.ids c.entity none
        windows := s.windows \ {id} }
    else s

def restart (s : Sessions) : Sessions :=
  { s with clients := fun _ => none, ids := fun _ => none, windows := ∅, callbacks := [] }

theorem put_self {id : ClientId} {c : Session} {s : Sessions} (known : s.clients id = some c) : s.put id c = s := by
  rw [put,← known,Function.update_eq_self]

theorem clients_put (id : ClientId) (c : Session) (s : Sessions) : (s.put id c).clients id = some c :=
  Function.update_self ..

theorem send_put (id : ClientId) (old c : Session) (packet : Packet) (s : Sessions) :
    (s.put id old).send id c packet = s.send id c packet := by
  simp only [send,put,Function.update_idem]

theorem clients_remove {id other : ClientId} {c : Session} {s : Sessions}
    (known : (s.remove id).clients other = some c) :
    s.clients other = some c := by
  unfold remove at known
  split at known
  · exact known
  · split at known
    · by_cases same : other = id
      · subst same
        cases (Function.update_self ..).symm.trans known
      · exact (Function.update_of_ne same ..).symm.trans known
    · exact known

theorem history_remove (id : ClientId) (s : Sessions) : (s.remove id).history = s.history := by
  unfold remove
  split
  · rfl
  · split <;> rfl

theorem sequence_remove (id : ClientId) (s : Sessions) : (s.remove id).sequence = s.sequence := by
  unfold remove
  split
  · rfl
  · split <;> rfl

theorem mem_connected_put {id other : ClientId} {c : Session} {s : Sessions} :
    other ∈ (s.put id c).connected ↔ if other = id then c.connected = true else other ∈ s.connected := by
  unfold connected put
  by_cases same : other = id
  · simp [same]
  · simp [same]

theorem mem_connected_send {id other : ClientId} {c : Session} {packet : Packet} {s : Sessions} :
    other ∈ (s.send id c packet).connected ↔ if other = id then c.connected = true else other ∈ s.connected :=
  mem_connected_put (c := { c with sequence := c.sequence + 1 })

/-- A packet connects nobody. -/
theorem connected_send {id : ClientId} {c : Session} {packet : Packet} {s : Sessions} (known : s.clients id = some c) :
    (s.send id c packet).connected = s.connected := by
  ext other
  rw [mem_connected_send]
  split
  · next same =>
    subst same
    exact ⟨fun connected => ⟨c,known,connected⟩,fun ⟨d,stored,connected⟩ =>
      by cases known.symm.trans stored; exact connected⟩
  · rfl

/-- A request connects nobody, and disconnects nobody. -/
theorem connected_add {entity : Entity} {id : ClientId} {s : Sessions} (key : Key)
    (entity_free : ∀ id c, s.locate entity = some (id,c) → c.connected = false)
    (id_free : ∀ c, s.clients id = some c → c.connected = false) : (s.add entity id key).connected = s.connected := by
  have unchanged : ∀ {place : ClientId} {c : Session}, c.connected = false → place ∉ s.connected →
      (s.put place c).connected = s.connected := by
    intro place c pending free
    ext other
    rw [mem_connected_put]
    split
    · next same => exact iff_of_false (Bool.eq_false_iff.mp pending) (same ▸ free)
    · rfl
  unfold add
  split
  · next old c located =>
    obtain ⟨found,_,located'⟩ := Option.bind_eq_some_iff.mp located
    obtain ⟨c',known,same⟩ := Option.map_eq_some_iff.mp located'
    cases same
    refine unchanged (c := { c with client_id := id, send_key := key }) (entity_free _ c located) ?_
    rintro ⟨d,stored,connected⟩
    cases known.symm.trans stored
    exact absurd connected (Bool.eq_false_iff.mp (entity_free _ _ located))
  · refine unchanged (c := ⟨false,id,entity,key,0x4000000000000000⟩) rfl ?_
    rintro ⟨d,stored,connected⟩
    exact absurd connected (Bool.eq_false_iff.mp (id_free d stored))

theorem mem_connected_remove {id other : ClientId} {s : Sessions} :
    other ∈ (s.remove id).connected ↔ other ≠ id ∧ other ∈ s.connected := by
  by_cases connected : id ∈ s.connected
  · obtain ⟨c,known,isConnected⟩ := connected
    have removed : s.remove id = { s with
        clients := Function.update s.clients id none
        ids := Function.update s.ids c.entity none
        windows := s.windows \ {id} } := by
      unfold remove
      rw [known]
      exact if_pos isConnected
    rw [removed]
    unfold Sessions.connected
    by_cases same : other = id
    · simp [same]
    · simp [same]
  · have unchanged : s.remove id = s := by
      unfold remove
      cases known : s.clients id with
      | none => rfl
      | some c => exact if_neg fun isConnected => connected ⟨c,known,isConnected⟩
    rw [unchanged]
    exact ⟨fun member => ⟨fun same => connected (same ▸ member),member⟩,And.right⟩

inductive Action where
  /-- A packet for a client that has no session yet. -/
  | Announce (key : Key) (packet : Packet)
  /-- The challenge for a request. -/
  | Admit (entity : Entity) (client_id : ClientId) (key : Key) (packet : Packet)
  /-- A response to the challenge. -/
  | Accept (client_id : ClientId) (entity : Entity) (user_data : UserData)
  | Send (client_id : ClientId) (packet : Packet)
  | Close (client_id : ClientId)
  /-- A disconnect packet of the client of an entity. -/
  | Leave (entity : Entity)
  | Restart

inductive Performs : Action → Sessions → Sessions → Prop
  | announce {s : Sessions} {key : Key} {packet : Packet} (fits : s.sequence.toNat + 1 < 2 ^ 64) :
      Performs (.Announce key packet) s (s.announce key packet)
  | let_in {s : Sessions} {entity : Entity} {client_id : ClientId} {key : Key} {packet : Packet}
      (fits : s.sequence.toNat + 1 < 2 ^ 64)
      (entity_free : ∀ id c, s.locate entity = some (id,c) → c.connected = false)
      (id_free : ∀ c, s.clients client_id = some c → c.connected = false) :
      Performs (.Admit entity client_id key packet) s ((s.announce key packet).add entity client_id key)
  | accept {s : Sessions} {client_id : ClientId} {c : Session} {entity : Entity} {user_data : UserData}
      (known : s.clients client_id = some c) (pending : c.connected = false) (fits : c.sequence.toNat + 1 < 2 ^ 64)
      (room : s.connected.encard < s.max_clients) :
      Performs (.Accept client_id entity user_data) s
        ((s.send client_id { c with connected := true } (.KeepAlive ⟨client_id⟩)).notify
          (.OnConnect client_id entity user_data))
  | send {s : Sessions} {client_id : ClientId} {c : Session} {packet : Packet}
      (known : s.clients client_id = some c) (fits : c.sequence.toNat + 1 < 2 ^ 64) :
      Performs (.Send client_id packet) s (s.send client_id c packet)
  | close {s : Sessions} {client_id : ClientId} {c : Session} (known : s.clients client_id = some c)
      (connected : c.connected = true) :
      Performs (.Close client_id) s ((s.notify (.OnDisconnect client_id c.entity)).remove client_id)
  | leave {s : Sessions} {entity : Entity} {id : ClientId} {c : Session} (known : s.locate entity = some (id,c)) :
      Performs (.Leave entity) s ((s.notify (.OnDisconnect c.client_id entity)).remove c.client_id)
  | restart {s : Sessions} : Performs .Restart s s.restart

/-- One of some actions. -/
def Acts (allowed : Action → Prop) (s s' : Sessions) : Prop := ∃ action, allowed action ∧ Performs action s s'

/-- The actions of the methods that only send and close. -/
def SendsOrCloses : Action → Prop
  | .Send _ _ | .Close _ => True
  | _ => False

/-- Packets that are sent to a client. -/
def Sends (client_id : ClientId) : Sessions → Sessions → Prop :=
  Relation.ReflTransGen (Acts fun action => ∃ packet, action = .Send client_id packet)

theorem Sends.one {s : Sessions} {client_id : ClientId} {c : Session} (packet : Packet)
    (known : s.clients client_id = some c) (fits : c.sequence.toNat + 1 < 2 ^ 64) :
    Sends client_id s (s.send client_id c packet) :=
  Relation.ReflTransGen.single ⟨_,⟨packet,rfl⟩,.send known fits⟩

theorem Sends.acts {s s' : Sessions} {client_id : ClientId} (sends : Sends client_id s s') :
    Relation.ReflTransGen (Acts SendsOrCloses) s s' := by
  refine Relation.ReflTransGen.mono ?_ _ _ sends
  rintro _ _ ⟨_,⟨packet,rfl⟩,performs⟩
  exact ⟨.Send client_id packet,trivial,performs⟩

/-- Sending does not depend on the callbacks. -/
theorem Sends.of_notified {s s' : Sessions} {client_id : ClientId} {callback : Callback}
    (sends : Sends client_id (s.notify callback) s') :
    ∃ other, Sends client_id s other ∧ s' = other.notify callback := by
  induction sends with
  | refl => exact ⟨s,.refl,rfl⟩
  | tail _ acts ih =>
    obtain ⟨other,sends,rfl⟩ := ih
    obtain ⟨_,⟨packet,rfl⟩,performs⟩ := acts
    cases performs with
    | send known fits => exact ⟨_,sends.trans (Sends.one packet known fits),rfl⟩

/-- The client to which packets are sent stays connected. -/
theorem Sends.keeps {s s' : Sessions} {client_id : ClientId} {c : Session} (sends : Sends client_id s s')
    (known : s.clients client_id = some c) :
    ∃ c', s'.clients client_id = some c' ∧ c'.connected = c.connected ∧ c'.entity = c.entity := by
  induction sends with
  | refl => exact ⟨c,known,rfl,rfl⟩
  | tail _ acts ih =>
    obtain ⟨c',known',connected,entity⟩ := ih
    obtain ⟨_,⟨packet,rfl⟩,performs⟩ := acts
    cases performs with
    | send known fits =>
      cases known'.symm.trans known
      exact ⟨_,Function.update_self ..,connected,entity⟩

end Sessions

variable {F : Type}

def Connection.session (conn : Connection F) : Session :=
  ⟨conn.connected,conn.client_id,conn.entity,conn.send_key,conn.sequence⟩

namespace Server

def sessions (s : Server F) : Sessions where
  clients id := (s.conn_cache.clients.lookup id).map Connection.session
  ids := s.conn_cache.client_id_map.lookup
  windows := {id | id ∈ s.conn_cache.replay_protection}
  callbacks := s.callbacks
  history := s.history
  sequence := s.sequence
  max_clients := s.cfg.max_clients

end Server

end Lightyear.Netcode
