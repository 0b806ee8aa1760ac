import Lightyear.Netcode.ServerTables

/-!
The callbacks of a client bracket its connections, as long as disconnect packets come from
clients that are connected. A client that was disconnected is not in the cache any more.
-/
namespace Lightyear.Netcode
open Calls Codec Maps Runs

/-- The calls alternate, starting with one of a kind. -/
def Alternate (first : Bool) : List Bool → Prop
  | [] => True
  | call :: calls => call = first ∧ Alternate (!first) calls

/-- The next call is the other one. -/
theorem Alternate.snoc {first call : Bool} {calls : List Bool} (alternate : Alternate first calls)
    (next : call = (calls.getLast?.map not).getD first) : Alternate first (calls ++ [call]) := by
  induction calls generalizing first with
  | nil => exact ⟨next,trivial⟩
  | cons head calls ih =>
    refine ⟨alternate.1,ih alternate.2 ?_⟩
    cases calls with
    | nil =>
      rw [← alternate.1]
      exact next
    | cons second calls => exact next

/-- The calls for a client: true for `on_connect`, false for `on_disconnect`. -/
def calls_for (id : ClientId) : List Callback → List Bool
  | [] => []
  | .OnConnect client_id _ _ :: callbacks =>
    if client_id = id then true :: calls_for id callbacks else calls_for id callbacks
  | .OnDisconnect client_id _ :: callbacks =>
    if client_id = id then false :: calls_for id callbacks else calls_for id callbacks

@[simp] theorem calls_for_append (id : ClientId) (earlier later : List Callback) :
    calls_for id (earlier ++ later) = calls_for id earlier ++ calls_for id later := by
  induction earlier with
  | nil => rfl
  | cons callback earlier ih =>
    cases callback <;> by_cases same : ‹ClientId› = id <;> simp [calls_for,ih,same]

namespace Sessions

/-- The calls for every client alternate, and the last one of those that are connected was `on_connect`. -/
structure Bracketed (s : Sessions) : Prop where
  alternate : ∀ id, Alternate true (calls_for id s.callbacks)
  last : ∀ id, (calls_for id s.callbacks).getLast? = some true ↔ id ∈ s.connected

theorem bracketed_new (max_clients : Nat) : (new max_clients).Bracketed :=
  ⟨fun _ => trivial,fun _ => iff_of_false (fun last => (nomatch last)) fun ⟨_,known,_⟩ => (nomatch known)⟩

section
variable {s s' : Sessions}

theorem Bracketed.same (bracketed : s.Bracketed) (callbacks : s'.callbacks = s.callbacks)
    (connected : s'.connected = s.connected) : s'.Bracketed := by
  constructor
  · rw [callbacks]
    exact bracketed.alternate
  · rw [callbacks,connected]
    exact bracketed.last

/-- A client is connected, and `on_connect` is called. -/
theorem Bracketed.connect {client_id : ClientId} {entity : Entity} {user_data : UserData} (bracketed : s.Bracketed)
    (pending : client_id ∉ s.connected)
    (callbacks : s'.callbacks = s.callbacks ++ [.OnConnect client_id entity user_data])
    (connected : ∀ other, other ∈ s'.connected ↔ other = client_id ∨ other ∈ s.connected) : s'.Bracketed := by
  constructor
  · intro id
    rw [callbacks,calls_for_append]
    by_cases same : client_id = id
    · subst same
      rw [calls_for,if_pos rfl]
      refine (bracketed.alternate client_id).snoc ?_
      cases isLast : (calls_for client_id s.callbacks).getLast? with
      | none => rfl
      | some call =>
        cases call with
        | true => exact absurd ((bracketed.last client_id).mp isLast) pending
        | false => rfl
    · rw [calls_for,if_neg same,calls_for,List.append_nil]
      exact bracketed.alternate id
  · intro id
    rw [callbacks,calls_for_append,connected]
    by_cases same : client_id = id
    · rw [calls_for,if_pos same]
      simp [calls_for,same]
    · rw [calls_for,if_neg same,calls_for,List.append_nil,bracketed.last]
      exact ⟨.inr,fun member => member.resolve_left (Ne.symm same)⟩

/-- A client that is connected is disconnected, and `on_disconnect` is called. -/
theorem Bracketed.disconnect {client_id : ClientId} {entity : Entity} (bracketed : s.Bracketed)
    (was_connected : client_id ∈ s.connected)
    (callbacks : s'.callbacks = s.callbacks ++ [.OnDisconnect client_id entity])
    (connected : ∀ other, other ∈ s'.connected ↔ other ≠ client_id ∧ other ∈ s.connected) : s'.Bracketed := by
  constructor
  · intro id
    rw [callbacks,calls_for_append]
    by_cases same : client_id = id
    · subst same
      rw [calls_for,if_pos rfl]
      refine (bracketed.alternate client_id).snoc ?_
      rw [(bracketed.last client_id).mpr was_connected]
      rfl
    · rw [calls_for,if_neg same,calls_for,List.append_nil]
      exact bracketed.alternate id
  · intro id
    rw [callbacks,calls_for_append,connected]
    by_cases same : client_id = id
    · rw [calls_for,if_pos same]
      simp [calls_for,same]
    · rw [calls_for,if_neg same,calls_for,List.append_nil,bracketed.last]
      exact ⟨fun member => ⟨Ne.symm same,member⟩,And.right⟩

/-- The disconnect packets of clients that are connected. -/
def LeavesConnected (s : Sessions) : Action → Prop
  | .Leave entity => ∀ id c, s.locate entity = some (id,c) → c.client_id ∈ s.connected
  | _ => True

theorem callbacks_add (entity : Entity) (id : ClientId) (key : Key) (s : Sessions) :
    (s.add entity id key).callbacks = s.callbacks := by
  unfold add
  split <;> rfl

theorem callbacks_remove (id : ClientId) (s : Sessions) : (s.remove id).callbacks = s.callbacks := by
  unfold remove
  split
  · rfl
  · split <;> rfl

theorem Bracketed.performs {action : Action} (bracketed : s.Bracketed) (leaves : s.LeavesConnected action)
    (performs : Performs action s s') : s'.Bracketed := by
  cases performs with
  | announce fits => exact bracketed.same rfl rfl
  | @let_in _ entity id key packet fits entity_free id_free =>
    have unchanged := connected_add (s := s.announce key packet) key entity_free id_free
    exact bracketed.same (callbacks_add ..) unchanged
  | @accept _ client_id c entity user_data known pending fits room =>
    refine bracketed.connect ?_ rfl fun other => ?_
    · rintro ⟨d,stored,connected⟩
      cases known.symm.trans stored
      exact absurd connected (Bool.eq_false_iff.mp pending)
    · change other ∈ (s.send client_id { c with connected := true } (.KeepAlive ⟨client_id⟩)).connected ↔ _
      rw [mem_connected_send]
      by_cases same : other = client_id <;> simp [same]
  | send known fits => exact bracketed.same rfl (connected_send known)
  | @close _ client_id c known connected =>
    exact bracketed.disconnect ⟨c,known,connected⟩ (callbacks_remove ..) fun other => mem_connected_remove
  | @leave _ entity id c located =>
    exact bracketed.disconnect (leaves id c located) (callbacks_remove ..) fun other => mem_connected_remove
  | restart =>
    exact ⟨fun _ => trivial,fun _ => iff_of_false (fun last => (nomatch last)) fun ⟨_,known,_⟩ => (nomatch known)⟩

/-- The clients for which `on_disconnect` was called on the way are gone. -/
def Gone (s s' : Sessions) : Prop :=
  ∃ calls, s'.callbacks = s.callbacks ++ calls ∧ ∀ id entity, .OnDisconnect id entity ∈ calls → s'.clients id = none

theorem Gone.of_same (callbacks : s'.callbacks = s.callbacks) : Gone s s' :=
  ⟨[],callbacks.trans (List.append_nil _).symm,fun _ _ member => (nomatch member)⟩

/-- No client was added either. -/
structure Removes (s s' : Sessions) : Prop where
  gone : Gone s s'
  fewer : ∀ id, s.clients id = none → s'.clients id = none

theorem Removes.refl (s : Sessions) : Removes s s :=
  ⟨.of_same rfl,fun _ unknown => unknown⟩

theorem Removes.trans {s'' : Sessions} (first : Removes s s') (second : Removes s' s'') : Removes s s'' := by
  obtain ⟨earlier,isEarlier,gone⟩ := first.gone
  obtain ⟨later,isLater,gone_later⟩ := second.gone
  refine ⟨⟨earlier ++ later,by rw [isLater,isEarlier,List.append_assoc],?_⟩,
    fun id unknown => second.fewer id (first.fewer id unknown)⟩
  intro id entity member
  rcases List.mem_append.mp member with before | after
  · exact second.fewer id (gone id entity before)
  · exact gone_later id entity after

/-- A connected client is removed. -/
theorem Removes.remove {client_id : ClientId} {entity : Entity} (connected : client_id ∈ s.connected) :
    Removes s ((s.notify (.OnDisconnect client_id entity)).remove client_id) := by
  obtain ⟨c,known,isConnected⟩ := connected
  have clients : ((s.notify (.OnDisconnect client_id entity)).remove client_id).clients =
      Function.update s.clients client_id none := by
    unfold Sessions.remove
    rw [show (s.notify (.OnDisconnect client_id entity)).clients client_id = some c from known]
    dsimp only
    rw [if_pos isConnected]
    rfl
  refine ⟨⟨[.OnDisconnect client_id entity],callbacks_remove ..,?_⟩,fun id unknown => ?_⟩
  · intro id other member
    cases List.mem_singleton.mp member
    rw [clients]
    exact Function.update_self ..
  · rw [clients,Function.update_apply]
    split
    · rfl
    · exact unknown

theorem Removes.of_sends_or_closes {action : Action} (allowed : SendsOrCloses action)
    (performs : Performs action s s') :
    Removes s s' := by
  cases performs with
  | @send _ client_id c packet known fits =>
    refine ⟨.of_same rfl,fun id unknown => ?_⟩
    refine (Function.update_of_ne ?_ ..).trans unknown
    rintro rfl
    cases known.symm.trans unknown
  | @close _ client_id c known connected => exact .remove ⟨c,known,connected⟩
  | _ => exact allowed.elim

theorem Gone.of_performs {action : Action} (leaves : s.LeavesConnected action) (running : action ≠ .Restart)
    (performs : Performs action s s') : Gone s s' := by
  cases performs with
  | announce fits => exact .of_same rfl
  | let_in fits entity_free id_free => exact .of_same (callbacks_add ..)
  | @accept _ client_id c entity user_data known pending fits room =>
    exact ⟨[.OnConnect client_id entity user_data],rfl,fun _ _ member => (nomatch List.mem_singleton.mp member)⟩
  | send known fits => exact .of_same rfl
  | @close _ client_id c known connected => exact (Removes.remove ⟨c,known,connected⟩).gone
  | @leave _ entity id c located => exact (Removes.remove (leaves id c located)).gone
  | restart => exact absurd rfl running

end

end Sessions

/-! ### The server -/

namespace Server

variable {F : Type} {p : Platform} {s s' : Server F} {event : Event F}

/-- A disconnect packet comes from a client that is connected, under the id of its connection. -/
def LeavesConnected (p : Platform) (before : Server F) (event : Event F) (_after : Server F) : Prop :=
  ∀ sender ∈ before.leaving p event, before.id_in_use sender.2.client_id = true

instance (p : Platform) (before : Server F) (event : Event F) (after : Server F) :
    Decidable (LeavesConnected p before event after) := by
  unfold LeavesConnected
  infer_instance

theorem mem_connected {id : ClientId} : id ∈ s.sessions.connected ↔ s.id_in_use id = true := by
  unfold Sessions.connected id_in_use ConnectionCache.find_by_id
  simp only [sessions_clients,Set.mem_ofPred_eq]
  cases s.conn_cache.clients.lookup id with
  | none => simp
  | some conn => exact ⟨fun ⟨c,known,connected⟩ => by cases known; exact connected,fun connected => ⟨_,rfl,connected⟩⟩

theorem leaving_receive {sender : Entity × Connection F} (leaves : s.leaving p event = some sender) :
    s.conn_cache.find_by_entity sender.1 = some sender.2 := by
  unfold leaving at leaves
  split at leaves
  · split at leaves
    · obtain ⟨conn,found,rfl⟩ := Option.map_eq_some_iff.mp leaves
      exact found
    · cases leaves
  · cases leaves

theorem LeavesConnected.sessions (leaves : LeavesConnected p s event s') {action : Sessions.Action}
    (allowed : s.Allows p event action) : s.sessions.LeavesConnected action := by
  cases action with
  | Leave entity =>
    obtain ⟨conn,leaving⟩ := allowed
    intro id c located
    have found := leaving_receive leaving
    rw [locate_sessions,Option.map_eq_some_iff] at located
    obtain ⟨⟨_,other⟩,isLocated,same⟩ := located
    cases same
    rw [find_by_entity_eq,isLocated] at found
    cases found
    exact mem_connected.mpr (leaves _ leaving)
  | _ => trivial

/-- An event after which `on_disconnect` was called for a client leaves it out of the cache. -/
theorem gone_of_step [F64 F] (stepped : s.step p event = some s') (leaves : LeavesConnected p s event s')
    (running : ∀ challenge_key, event ≠ .Reset challenge_key) : Sessions.Gone s.sessions s'.sessions := by
  have not_restart : ∀ {action}, s.Allows p event action → action ≠ .Restart := by
    rintro _ allowed rfl
    obtain ⟨challenge_key,isReset⟩ := allowed
    exact running challenge_key isReset
  by_cases received : ∃ entity buf now server_addr, event = .Receive entity buf now server_addr
  · obtain ⟨entity,buf,now,server_addr,rfl⟩ := received
    rcases receive_once stepped with same | ⟨action,allowed,performs⟩
    · exact .of_same (congrArg Sessions.callbacks same)
    · exact .of_performs (leaves.sessions allowed) (not_restart allowed) performs
  · refine Sessions.Removes.gone ?_
    have path := step_performs stepped
    unfold Often at path
    generalize s'.sessions = last at path ⊢
    induction path with
    | refl => exact .refl _
    | tail _ acts ih =>
      obtain ⟨action,allowed,performs⟩ := acts
      have sends := ((allows_cases allowed).resolve_left received).resolve_right (not_restart allowed)
      exact ih.trans (.of_sends_or_closes sends performs)

/-- In runs in which disconnect packets come from connected clients, the calls of `on_connect` and `on_disconnect` for
    every client alternate, starting with `on_connect`; a client is connected if and only if `on_connect` was the last
    of them; and once `on_disconnect` was called for a client, it is out of the cache. -/
theorem callbacks_bracket [F64 F] (p : Platform) (protocol_id : UInt64) (private_key challenge_key : Key)
    (cfg : ServerConfig F) (s : Server F)
    (reached : Reaches (step p) (LeavesConnected p) (with_config protocol_id private_key challenge_key cfg) s) :
    (∀ id, Alternate true (calls_for id s.callbacks) ∧
      ((calls_for id s.callbacks).getLast? = some true ↔ s.id_in_use id = true)) ∧
    ∀ event s', s.step p event = some s' → LeavesConnected p s event s' → ∀ id entity,
      .OnDisconnect id entity ∈ s'.callbacks.drop s.callbacks.length → s'.conn_cache.clients.lookup id = none := by
  have bracketed : s.sessions.Bracketed := by
    refine invariant_of_actions Sessions.LeavesConnected ?_ ?_ ?_ ?_ reached
    · rw [sessions_with_config]
      exact Sessions.bracketed_new _
    · rintro a action (sends | rfl)
      · cases action with
        | Leave entity => exact sends.elim
        | _ => trivial
      · trivial
    · exact fun before event after leaves action allowed => LeavesConnected.sessions leaves allowed
    · exact fun a action b bracketed leaves performs => bracketed.performs leaves performs
  refine ⟨fun id => ⟨bracketed.alternate id,(bracketed.last id).trans mem_connected⟩,?_⟩
  intro event s' stepped leaves id entity called
  by_cases reset : ∃ challenge_key, event = .Reset challenge_key
  · obtain ⟨challenge_key,rfl⟩ := reset
    cases stepped
    rw [Server.reset,List.drop_nil] at called
    cases called
  · obtain ⟨calls,isAppended,gone⟩ := gone_of_step stepped leaves fun challenge_key isReset => reset ⟨_,isReset⟩
    have isNew : s'.callbacks.drop s.callbacks.length = calls := by
      rw [show s'.callbacks = s.callbacks ++ calls from isAppended,List.drop_left]
    have unknown := gone id entity (isNew ▸ called)
    rw [sessions_clients,Option.map_eq_none_iff] at unknown
    exact unknown

/-- The disconnect packet of a client. -/
def local_disconnect (token : ConnectTokenPrivate) (sequence : UInt64) : Bytes :=
  written (DisconnectPacket.create.write .shift sequence token.client_to_server_key 42)

/-- A client connects, leaves, and connects again. -/
theorem callbacks_bracket_local :
    ∃ s : Server Seconds, Reaches (step .shift) (LeavesConnected .shift) local_server s ∧
      calls_for 7 s.callbacks = [true,false,true] ∧ Alternate true (calls_for 7 s.callbacks) := by
  obtain ⟨s,reached,calls⟩ := reaches_of_check (step .shift) (LeavesConnected .shift) local_server
    (fun s => decide (calls_for 7 s.callbacks = [true,false,true]))
    (connects 1 (local_client 7 3) 0 ++ [receive 1 (local_disconnect (local_client 7 3) 1)] ++
      connects 1 (local_client 7 3) 1) (by decide +kernel)
  exact ⟨s,reached,of_decide_eq_true calls,((callbacks_bracket .shift 42 (zeros 32) (zeros 32) _ s reached).1 7).1⟩

/-- A client that has not responded yet is disconnected twice without ever having been connected, and stays in the
    cache. -/
theorem disconnected_while_pending :
    ∃ s : Server Seconds, Reaches (step .shift) (fun _ _ _ => True) local_server s ∧
      ¬Alternate true (calls_for 7 s.callbacks) ∧ (s.conn_cache.clients.lookup 7).isSome = true := by
  obtain ⟨s,reached,checked⟩ := reaches_of_check (step .shift) (fun _ _ _ => True) local_server
    (fun s => decide (calls_for 7 s.callbacks = [false,false]) &&
      (s.conn_cache.clients.lookup 7).isSome)
    [receive 1 (local_request (local_client 7 3)),receive 1 (local_disconnect (local_client 7 3) 0),
      receive 1 (local_disconnect (local_client 7 3) 1)] (by decide +kernel)
  rw [Bool.and_eq_true,decide_eq_true_eq] at checked
  refine ⟨s,reached,fun alternate => ?_,checked.2⟩
  rw [checked.1] at alternate
  exact absurd alternate.1 (by decide)

end Server

end Lightyear.Netcode
