import Lightyear.Netcode.ServerSessions

/-!
The tables of the connection cache. There is never a connected client too many. The tables
agree with each other as long as no request makes the server mix up two clients.
-/
namespace Lightyear.Netcode
open Calls Codec Maps Runs

variable {F : Type}

/-- A server for two clients. -/
def local_server : Server Seconds := .with_config 42 (zeros 32) (zeros 32) ⟨2,1,.of 1,fun _ => none,[]⟩

/-- The token of a client, whose keys are made of one byte. -/
def local_client (client_id : ClientId) (key : UInt8) : ConnectTokenPrivate :=
  { Packet.local_token with
    client_id
    client_to_server_key := ⟨List.replicate 32 key,rfl⟩
    server_to_client_key := ⟨List.replicate 32 (key + 1),rfl⟩ }

/-- The bytes that were written, if any. -/
def written (result : Fallible Error Bytes) : Bytes :=
  match result with
  | .ok bytes => bytes
  | .error _ => []

/-- The request of a client. -/
def local_request (token : ConnectTokenPrivate) : Bytes :=
  written do
    let private_data ← token.encrypt .shift 42 1 (zeros 24) (zeros 32)
    (RequestPacket.create 42 1 (zeros 24) private_data).write .shift 0 (zeros 32) 42

/-- The response of a client to a challenge. -/
def local_response (token : ConnectTokenPrivate) (challenge_sequence sequence : UInt64) : Bytes :=
  written do
    let challenge ← (⟨token.client_id,token.user_data⟩ : ChallengeToken).encrypt .shift challenge_sequence (zeros 32)
    (ResponsePacket.create challenge_sequence challenge).write .shift sequence token.client_to_server_key 42

def receive (entity : UInt64) (buf : Bytes) : Event Seconds := .Receive ⟨entity⟩ buf 0 none

/-- The events of a client that connects. -/
def connects (entity : UInt64) (token : ConnectTokenPrivate) (challenge_sequence : UInt64) : List (Event Seconds) :=
  [receive entity (local_request token),receive entity (local_response token challenge_sequence 0)]

namespace Sessions

/-- No more clients are connected than there is room for. -/
def Bounded (max_clients : Nat) (s : Sessions) : Prop :=
  s.max_clients = max_clients ∧ s.connected.encard ≤ max_clients

theorem bounded_new (max_clients : Nat) : (new max_clients).Bounded max_clients := by
  refine ⟨rfl,?_⟩
  have none_connected : (new max_clients).connected = ∅ :=
    Set.eq_empty_of_forall_notMem fun id ⟨c,known,_⟩ => (nomatch known)
  rw [none_connected,Set.encard_empty]
  exact zero_le

theorem Bounded.of_subset {max_clients : Nat} {s s' : Sessions} (bounded : s.Bounded max_clients)
    (same : s'.max_clients = s.max_clients) (fewer : s'.connected ⊆ s.connected) : s'.Bounded max_clients :=
  ⟨same.trans bounded.1,(Set.encard_le_encard fewer).trans bounded.2⟩

theorem max_clients_add (entity : Entity) (id : ClientId) (key : Key) (s : Sessions) :
    (s.add entity id key).max_clients = s.max_clients := by
  unfold add
  split <;> rfl

theorem max_clients_remove (id : ClientId) (s : Sessions) : (s.remove id).max_clients = s.max_clients := by
  unfold remove
  split
  · rfl
  · split <;> rfl

/-- Every action keeps the bound. Only a response connects a client, and it finds room for one. -/
theorem Bounded.performs {max_clients : Nat} {s s' : Sessions} {action : Action} (bounded : s.Bounded max_clients)
    (performs : Performs action s s') : s'.Bounded max_clients := by
  cases performs with
  | announce fits => exact bounded
  | @let_in _ entity id key packet fits entity_free id_free =>
    have unchanged := connected_add (s := s.announce key packet) key entity_free id_free
    exact bounded.of_subset (max_clients_add ..) unchanged.le
  | @accept _ client_id c entity user_data known pending fits room =>
    refine ⟨bounded.1,?_⟩
    have one_more : (s.send client_id { c with connected := true } (.KeepAlive ⟨client_id⟩)).connected ⊆
        insert client_id s.connected := by
      intro other member
      rw [mem_connected_send] at member
      split at member
      · next same => exact .inl same
      · exact .inr member
    rw [bounded.1] at room
    calc _ ≤ (insert client_id s.connected).encard := Set.encard_le_encard one_more
      _ ≤ s.connected.encard + 1 := Set.encard_insert_le _ _
      _ ≤ max_clients := Order.add_one_le_of_lt room
  | @send _ client_id c packet known fits =>
    exact bounded.of_subset rfl (connected_send known).le
  | close known connected =>
    exact bounded.of_subset (max_clients_remove ..) fun _ member => (mem_connected_remove.mp member).2
  | leave located =>
    exact bounded.of_subset (max_clients_remove ..) fun _ member => (mem_connected_remove.mp member).2
  | restart =>
    exact bounded.of_subset rfl fun id ⟨c,known,_⟩ => (nomatch known)

end Sessions

namespace Server

theorem sessions_with_config [F64 F] (protocol_id : UInt64) (private_key challenge_key : Key) (cfg : ServerConfig F) :
    (with_config protocol_id private_key challenge_key cfg).sessions = .new cfg.max_clients := by
  simp only [sessions,with_config,ConnectionCache.new,Sessions.new,Sessions.mk.injEq,and_true]
  exact ⟨rfl,rfl,Set.eq_empty_of_forall_notMem fun id => AList.notMem_empty id⟩

/-- Whatever happens, there are never more connected clients than `max_clients`. -/
theorem connected_clients_bounded [F64 F] (p : Platform) (protocol_id : UInt64) (private_key challenge_key : Key)
    (cfg : ServerConfig F) (s : Server F)
    (reached : Reaches (step p) (fun _ _ _ => True) (with_config protocol_id private_key challenge_key cfg) s) :
    s.num_connected_clients ≤ cfg.max_clients := by
  have bounded : s.sessions.Bounded cfg.max_clients := by
    refine invariant_of_actions (fun _ _ => True) ?_ (fun _ _ _ => trivial) (fun _ _ _ _ _ _ => trivial)
      (fun _ _ _ bounded _ performs => bounded.performs performs) reached
    rw [sessions_with_config]
    exact Sessions.bounded_new _
  rw [← Nat.cast_le (α := ENat),← encard_connected]
  exact bounded.2

/-- Two clients connect, and a third one gets no further. -/
theorem connected_clients_bounded_local :
    ∃ s : Server Seconds, Reaches (step .shift) (fun _ _ _ => True) local_server s ∧
      s.client_errors = [.ServerIsFull 9] ∧ s.num_connected_clients ≤ 2 := by
  obtain ⟨s,reached,full⟩ := reaches_of_check (step .shift) (fun _ _ _ => True) local_server
    (fun s => decide (s.client_errors = [.ServerIsFull 9]))
    (connects 1 (local_client 7 3) 0 ++ connects 2 (local_client 8 5) 1 ++
      [receive 3 (local_request (local_client 9 7))])
    (by decide +kernel)
  exact ⟨s,reached,of_decide_eq_true full,connected_clients_bounded .shift 42 (zeros 32) (zeros 32) _ s reached⟩

end Server

/-! ### Consistency -/

namespace Sessions

/-- The tables agree with each other. -/
structure Consistent (s : Sessions) : Prop where
  client : ∀ id c, s.clients id = some c → c.client_id = id ∧ s.ids c.entity = some id ∧ id ∈ s.windows
  entity : ∀ entity id, s.ids entity = some id → ∃ c, s.clients id = some c ∧ c.entity = entity

theorem consistent_new (max_clients : Nat) : (new max_clients).Consistent :=
  ⟨fun _ _ known => (nomatch known),fun _ _ known => (nomatch known)⟩

section
variable {s : Sessions}

theorem Consistent.located {entity : Entity} {id : ClientId} {c : Session} (consistent : s.Consistent)
    (located : s.locate entity = some (id,c)) : s.ids entity = some id ∧ s.clients id = some c ∧ c.entity = entity := by
  obtain ⟨found,isId,located⟩ := Option.bind_eq_some_iff.mp located
  obtain ⟨c',isClient,same⟩ := Option.map_eq_some_iff.mp located
  cases same
  obtain ⟨c'',known,isEntity⟩ := consistent.entity entity id isId
  cases known.symm.trans isClient
  exact ⟨isId,isClient,isEntity⟩

/-- A session may change in place, but for its id and its entity. -/
theorem Consistent.put {id : ClientId} {c c' : Session} (consistent : s.Consistent) (known : s.clients id = some c)
    (isId : c'.client_id = id) (isEntity : c'.entity = c.entity) : (s.put id c').Consistent := by
  constructor
  · intro other d stored
    by_cases same : other = id
    · subst same
      cases (clients_put other c' s).symm.trans stored
      have before := consistent.client other c known
      exact ⟨isId,isEntity ▸ before.2.1,before.2.2⟩
    · exact consistent.client other d ((Function.update_of_ne same ..).symm.trans stored)
  · intro entity other mapped
    obtain ⟨d,stored,isOwner⟩ := consistent.entity entity other mapped
    by_cases same : other = id
    · subst same
      cases known.symm.trans stored
      exact ⟨c',clients_put other c' s,isEntity.trans isOwner⟩
    · exact ⟨d,(Function.update_of_ne same ..).trans stored,isOwner⟩

theorem Consistent.remove (consistent : s.Consistent) (id : ClientId) : (s.remove id).Consistent := by
  unfold Sessions.remove
  split
  · exact consistent
  · next c known =>
    split
    · next connected =>
      obtain ⟨_,isId,_⟩ := consistent.client id c known
      constructor
      · intro other d stored
        by_cases same : other = id
        · subst same
          cases (Function.update_self ..).symm.trans stored
        · obtain ⟨isKey,mapped,window⟩ := consistent.client other d ((Function.update_of_ne same ..).symm.trans stored)
          have differs : d.entity ≠ c.entity := fun equal => same (Option.some.inj ((equal ▸ mapped).symm.trans isId))
          exact ⟨isKey,(Function.update_of_ne differs ..).trans mapped,window,same⟩
      · intro entity other mapped
        by_cases same : entity = c.entity
        · subst same
          cases (Function.update_self ..).symm.trans mapped
        · obtain ⟨d,stored,isOwner⟩ :=
            consistent.entity entity other ((Function.update_of_ne same ..).symm.trans mapped)
          have differs : other ≠ id := by
            rintro rfl
            cases known.symm.trans stored
            exact same isOwner.symm
          exact ⟨d,(Function.update_of_ne differs ..).trans stored,isOwner⟩
    · exact consistent

/-- A request does not mix up two clients: both its entity and its id are new, or the entity is known by this id. -/
def Pairs (s : Sessions) (entity : Entity) (id : ClientId) : Prop :=
  s.ids entity = some id ∨ s.ids entity = none ∧ s.clients id = none

theorem Consistent.add {entity : Entity} {id : ClientId} (consistent : s.Consistent) (pairs : s.Pairs entity id)
    (key : Key) : (s.add entity id key).Consistent := by
  rcases pairs with mapped | ⟨unmapped,unknown⟩
  · obtain ⟨c,known,isEntity⟩ := consistent.entity entity id mapped
    have located : s.locate entity = some (id,c) := by simp only [locate,mapped,Option.bind_some,known,Option.map_some]
    unfold Sessions.add
    rw [located]
    exact consistent.put known rfl rfl
  · have unlocated : s.locate entity = none := by simp only [locate,unmapped,Option.bind_none]
    unfold Sessions.add
    rw [unlocated]
    constructor
    · intro other d stored
      by_cases same : other = id
      · subst same
        cases (Function.update_self ..).symm.trans stored
        exact ⟨rfl,Function.update_self ..,Set.mem_insert _ _⟩
      · obtain ⟨isKey,mapped,window⟩ := consistent.client other d ((Function.update_of_ne same ..).symm.trans stored)
        have differs : d.entity ≠ entity := by
          rintro rfl
          cases unmapped.symm.trans mapped
        exact ⟨isKey,(Function.update_of_ne differs ..).trans mapped,Set.mem_insert_of_mem _ window⟩
    · intro other owner mapped
      by_cases same : other = entity
      · subst same
        cases (Function.update_self ..).symm.trans mapped
        exact ⟨_,Function.update_self ..,rfl⟩
      · obtain ⟨d,stored,isOwner⟩ := consistent.entity other owner ((Function.update_of_ne same ..).symm.trans mapped)
        have differs : owner ≠ id := by
          rintro rfl
          cases unknown.symm.trans stored
        exact ⟨d,(Function.update_of_ne differs ..).trans stored,isOwner⟩

/-- The requests that do not mix up two clients. -/
def PairsUp (s : Sessions) : Action → Prop
  | .Admit entity id _ _ => s.Pairs entity id
  | _ => True

theorem Consistent.performs {s' : Sessions} {action : Action} (consistent : s.Consistent) (pairs : s.PairsUp action)
    (performs : Performs action s s') : s'.Consistent := by
  cases performs with
  | announce fits => exact ⟨consistent.client,consistent.entity⟩
  | @let_in _ entity id key packet fits entity_free id_free =>
    have announced : (s.announce key packet).Consistent := ⟨consistent.client,consistent.entity⟩
    exact announced.add pairs key
  | @accept _ client_id c entity user_data known pending fits room =>
    have changed := @Consistent.put s client_id c { c with connected := true, sequence := c.sequence + 1 }
      consistent known (consistent.client client_id c known).1 rfl
    exact ⟨changed.client,changed.entity⟩
  | @send _ client_id c packet known fits =>
    have changed := @Consistent.put s client_id c { c with sequence := c.sequence + 1 } consistent known
      (consistent.client client_id c known).1 rfl
    exact ⟨changed.client,changed.entity⟩
  | @close _ client_id c known connected =>
    have notified : (s.notify (.OnDisconnect client_id c.entity)).Consistent := ⟨consistent.client,consistent.entity⟩
    exact notified.remove client_id
  | @leave _ entity id c located =>
    have notified : (s.notify (.OnDisconnect c.client_id entity)).Consistent := ⟨consistent.client,consistent.entity⟩
    exact notified.remove c.client_id
  | restart => exact ⟨fun _ _ known => (nomatch known),fun _ _ known => (nomatch known)⟩

end

end Sessions

/-- The tables of the cache agree with each other: every connection is stored under its id, which its entity is mapped
    to and which has a window, and every entity is mapped to a connection of its own. -/
structure ConnectionCache.Consistent (cache : ConnectionCache F) : Prop where
  client : ∀ id conn, cache.clients.lookup id = some conn → conn.client_id = id ∧
    cache.client_id_map.lookup conn.entity = some id ∧ id ∈ cache.replay_protection
  entity : ∀ entity id, cache.client_id_map.lookup entity = some id →
    ∃ conn, cache.clients.lookup id = some conn ∧ conn.entity = entity

namespace Server

theorem consistent_of_sessions {s : Server F} (consistent : s.sessions.Consistent) : s.conn_cache.Consistent := by
  constructor
  · intro id conn stored
    exact consistent.client id conn.session (by rw [sessions_clients,stored]; rfl)
  · intro entity id mapped
    obtain ⟨c,known,isEntity⟩ := consistent.entity entity id mapped
    obtain ⟨conn,stored,rfl⟩ := Option.map_eq_some_iff.mp known
    exact ⟨conn,stored,isEntity⟩

/-- The entity and the id of a request that is answered with a challenge are both new, or the entity is known by this
    id. -/
def PairsUp (p : Platform) (before : Server F) (event : Event F) (_after : Server F) : Prop :=
  ∀ sender ∈ before.admitted p event,
    before.conn_cache.client_id_map.lookup sender.1 = some sender.2.client_id ∨
      before.conn_cache.client_id_map.lookup sender.1 = none ∧
        before.conn_cache.clients.lookup sender.2.client_id = none

instance (p : Platform) (before : Server F) (event : Event F) (after : Server F) :
    Decidable (PairsUp p before event after) := by
  unfold PairsUp
  infer_instance

theorem PairsUp.sessions {p : Platform} {before after : Server F} {event : Event F}
    (pairs : PairsUp p before event after)
    {action : Sessions.Action} (allowed : before.Allows p event action) : before.sessions.PairsUp action := by
  cases action with
  | Admit entity id key packet =>
    obtain ⟨token,admitted,rfl,_⟩ := allowed
    refine (pairs _ admitted).imp id fun ⟨unmapped,unknown⟩ => ⟨unmapped,?_⟩
    rw [sessions_clients,unknown]
    rfl
  | _ => trivial

/-- The tables agree after any run in which no request mixes up two clients. -/
theorem cache_consistent [F64 F] (p : Platform) (protocol_id : UInt64) (private_key challenge_key : Key)
    (cfg : ServerConfig F)
    (s : Server F) (reached : Reaches (step p) (PairsUp p) (with_config protocol_id private_key challenge_key cfg) s) :
    s.conn_cache.Consistent := by
  refine consistent_of_sessions (invariant_of_actions Sessions.PairsUp ?_ ?_ ?_ ?_ reached)
  · rw [sessions_with_config]
    exact Sessions.consistent_new _
  · rintro a action (sends | rfl)
    · cases action with
      | Admit entity id key packet => exact sends.elim
      | _ => trivial
    · trivial
  · exact fun before event after pairs action allowed => PairsUp.sessions pairs allowed
  · exact fun a action b consistent pairs performs => consistent.performs pairs performs

/-- Two clients connect, and one of them leaves. -/
theorem cache_consistent_local :
    ∃ s : Server Seconds, Reaches (step .shift) (PairsUp .shift) local_server s ∧ s.num_connected_clients = 1 ∧
      s.conn_cache.Consistent := by
  obtain ⟨s,reached,one⟩ := reaches_of_check (step .shift) (PairsUp .shift) local_server
    (fun s => decide (s.num_connected_clients = 1))
    (connects 1 (local_client 7 3) 0 ++ connects 2 (local_client 8 5) 1 ++ [.Disconnect 7]) (by decide +kernel)
  exact ⟨s,reached,of_decide_eq_true one,cache_consistent .shift 42 (zeros 32) (zeros 32) _ s reached⟩

/-- A second request of one entity, for another id, leaves the first id with a connection of the second. -/
theorem cache_inconsistent :
    ∃ s : Server Seconds, Reaches (step .shift) (fun _ _ _ => True) local_server s ∧ ¬s.conn_cache.Consistent := by
  obtain ⟨s,reached,renamed⟩ := reaches_of_check (step .shift) (fun _ _ _ => True) local_server
    (fun s => (s.conn_cache.clients.lookup 7).any fun conn => conn.client_id == 8)
    [receive 1 (local_request (local_client 7 3)),receive 1 (local_request (local_client 8 5))] (by decide +kernel)
  refine ⟨s,reached,fun consistent => ?_⟩
  cases stored : s.conn_cache.clients.lookup 7 with
  | none =>
    rw [stored] at renamed
    cases renamed
  | some conn =>
    rw [stored] at renamed
    have isId : conn.client_id = 8 := eq_of_beq renamed
    have isKey := (consistent.client 7 conn stored).1
    exact absurd (isKey.symm.trans isId) (by decide)

end Server

end Lightyear.Netcode
