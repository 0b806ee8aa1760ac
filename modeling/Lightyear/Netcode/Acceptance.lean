import Lightyear.Netcode.Delivery
import Lightyear.Netcode.ServerTables

/-!
A client and the server agree that the client is connected. The server numbers packets of a
connection only while the connection is up, so a client that was told that it is connected
was connected on the server before, under its id and its keys.
-/
namespace Lightyear.Netcode
open Calls Codec Maps Runs

namespace Sessions
variable {s s' : Sessions} {id : ClientId} {c : Session} {packet : Packet}

/-- A packet of a connection is sealed with the key of a session that is connected, and a keep-alive packet names it. -/
def Vouches (s : Sessions) (entry : Sealed) : Prop :=
  Packet.KEEP_ALIVE ≤ entry.packet.kind → ∃ id c,s.clients id = some c ∧ c.connected = true ∧ c.send_key = entry.key ∧
    ∀ keep_alive,entry.packet = .KeepAlive keep_alive → keep_alive.client_id = id

/-- Nobody is let in, and packets are sent to those who are. -/
structure Speaks (s s' : Sessions) : Prop where
  remains : ∀ id c',s'.clients id = some c' → c'.connected = true →
    ∃ c,s.clients id = some c ∧ c.connected = true ∧ c.send_key = c'.send_key
  vouched : ∀ entry ∈ s'.history,entry ∈ s.history ∨ s.Vouches entry

theorem Speaks.vouches {entry : Sealed} (speaks : Speaks s s') (vouches : s'.Vouches entry) : s.Vouches entry := by
  intro late
  obtain ⟨id,c',known,connected,isKey,named⟩ := vouches late
  obtain ⟨c,known,connected,sameKey⟩ := speaks.remains id c' known connected
  exact ⟨id,c,known,connected,sameKey.trans isKey,named⟩

theorem Speaks.refl (s : Sessions) : Speaks s s :=
  ⟨fun _ c known connected => ⟨c,known,connected,rfl⟩,fun _ member => .inl member⟩

theorem Speaks.trans {s'' : Sessions} (first : Speaks s s') (second : Speaks s' s'') : Speaks s s'' where
  remains id c'' known connected := by
    obtain ⟨c',known,connected,sameKey⟩ := second.remains id c'' known connected
    obtain ⟨c,known,connected,same⟩ := first.remains id c' known connected
    exact ⟨c,known,connected,same.trans sameKey⟩
  vouched entry member := by
    rcases second.vouched entry member with old | vouches
    · exact first.vouched entry old
    · exact .inr (first.vouches vouches)

/-- Sessions that are closed, and callbacks. -/
theorem Speaks.fewer (history : s'.history = s.history)
    (fewer : ∀ id c,s'.clients id = some c → s.clients id = some c) :
    Speaks s s' :=
  ⟨fun id c known connected => ⟨c,fewer id c known,connected,rfl⟩,fun _ member => .inl (history ▸ member)⟩

/-- A packet for a client that is connected. -/
theorem Speaks.send (known : s.clients id = some c) (connected : c.connected = true)
    (named : ∀ keep_alive,packet = .KeepAlive keep_alive → keep_alive.client_id = id) :
    Speaks s (s.send id c packet) where
  remains other c' stored isConnected := by
    by_cases same : other = id
    · subst same
      cases (Function.update_self ..).symm.trans stored
      exact ⟨c,known,connected,rfl⟩
    · exact ⟨c',(Function.update_of_ne same ..).symm.trans stored,isConnected,rfl⟩
  vouched entry member := by
    rcases List.mem_append.mp member with old | new
    · exact .inl old
    · cases List.mem_singleton.mp new
      exact .inr fun _ => ⟨id,c,known,connected,rfl,named⟩

/-- A client that is accepted is told so, and is connected by then. -/
theorem Performs.answers {entity : Entity} {user_data : UserData}
    (performs : Performs (.Accept id entity user_data) s s') :
    ∀ entry ∈ s'.history,entry ∈ s.history ∨ s'.Vouches entry := by
  intro entry member
  cases performs with
  | @accept _ _ c _ _ known pending fits room =>
    rcases List.mem_append.mp member with old | new
    · exact .inl old
    · cases List.mem_singleton.mp new
      refine .inr fun _ => ⟨id,_,Function.update_self ..,rfl,rfl,fun keep_alive isPacket => ?_⟩
      cases isPacket
      rfl

end Sessions

namespace Server
variable {F : Type} {p : Platform} {s s' : Server F} {id : ClientId} {entity : Entity} {packet : Packet} {key : Key}

/-- As long as a client is connected, packets are sent to it. -/
def SpeaksTo (id : ClientId) (s s' : Server F) : Prop :=
  id ∈ s.sessions.connected → id ∈ s'.sessions.connected ∧ s.sessions.Speaks s'.sessions

def Speaks (s s' : Server F) : Prop := s.sessions.Speaks s'.sessions

instance : Std.Refl (SpeaksTo (F := F) id) := ⟨fun _ connected => ⟨connected,.refl _⟩⟩

instance : IsTrans (Server F) (SpeaksTo id) where
  trans _ _ _ first second connected :=
    ⟨(second (first connected).1).1,(first connected).2.trans (second (first connected).1).2⟩

instance : Std.Refl (Speaks (F := F)) := ⟨fun _ => .refl _⟩
instance : IsTrans (Server F) Speaks := ⟨fun _ _ _ first second => Sessions.Speaks.trans first second⟩

theorem send_with_speaks {write : UInt64 → Key → UInt64 → Fallible Error Bytes}
    {hand_over : Bytes → Server F → Server F}
    (hands_over : HandsOver hand_over)
    (named : ∀ keep_alive,packet = .KeepAlive keep_alive → keep_alive.client_id = id) :
    Moves (SpeaksTo id) (send_with packet write hand_over id) s := by
  refine .intro (fun _ s' sent connected => ?_) (fun error s' failed => ?_)
  · obtain ⟨c,known,-,sent⟩ := send_with_ok hands_over sent
    obtain ⟨_,stored,isConnected⟩ := connected
    cases known.symm.trans stored
    rw [sent]
    exact ⟨⟨_,Function.update_self ..,isConnected⟩,.send known isConnected named⟩
  · rw [(send_with_error failed).1]
    exact Std.Refl.refl s

theorem send_to_client_keep_alive : Moves (SpeaksTo id) (send_to_client p (KeepAlivePacket.create id) id) s :=
  send_with_speaks push_hands_over fun keep_alive isPacket => by cases isPacket; rfl

theorem mem_connected_of_lookup {conn : Connection F} (stored : s.conn_cache.clients.lookup id = some conn)
    (connected : conn.connected = true) : id ∈ s.sessions.connected :=
  ⟨conn.session,by rw [sessions_clients,stored]; rfl,connected⟩

theorem SpeaksTo.speaks (speaks : SpeaksTo id s s') (connected : id ∈ s.sessions.connected) :
    Speaks s s' := (speaks connected).2

theorem send_keepalives_speaks [F64 F] : Moves Speaks (send_keepalives p id) s := by
  refine .get_bind ?_
  cases stored : s.conn_cache.clients.lookup id with
  | none => exact Moves.throw _ s
  | some client =>
    dsimp only
    by_cases connected : client.connected = true
    · rw [if_neg (by rw [connected]; decide)]
      split
      · exact Moves.pure _ s
      · exact .mono (fun s' speaks => SpeaksTo.speaks speaks (mem_connected_of_lookup stored connected))
          send_to_client_keep_alive
    · rw [if_pos (by rw [Bool.not_eq_true] at connected; rw [connected]; rfl)]
      exact Moves.pure _ s

theorem send_speaks {buf : Bytes} : Moves Speaks (send p buf id) s := by
  refine .lift_bind (.refl _) fun _ _ => .get_bind ?_
  cases stored : s.conn_cache.clients.lookup id with
  | none => exact Moves.throw _ s
  | some conn =>
    refine .lift_bind (.refl _) fun _ passed => ?_
    have connected : id ∈ s.sessions.connected := mem_connected_of_lookup stored (require_ok passed)
    refine .mono (fun s' speaks => SpeaksTo.speaks speaks connected)
      (Moves.bind (T := SpeaksTo id) ?_ fun _ middle _ => ?_)
    · unfold confirm_connection
      split
      · exact Moves.pure _ s
      · exact send_to_client_keep_alive
    · exact send_with_speaks push_hands_over fun keep_alive isPacket => by cases isPacket

theorem send_all_speaks {buf : Bytes} {client_ids : List ClientId} : Moves Speaks (send_all p buf client_ids) s := by
  refine Moves.forM (fun id _ s => ?_) s
  have moves : Moves Speaks (send p buf id) s := send_speaks
  unfold send_or_skip Moves
  dsimp only
  cases returned : send p buf id s with
  | ok _ s' => exact moves.ok returned
  | error failure s' =>
    cases failure with
    | Err error =>
      dsimp only
      split <;> exact moves.err returned
    | Panic panic => trivial

theorem speaks_remove (id : ClientId) (s : Server F) : Speaks s (s.remove id) := by
  unfold Speaks
  rw [sessions_remove]
  exact .fewer (Sessions.history_remove ..) fun _ _ known => Sessions.clients_remove known

theorem speaks_on_disconnect (id : ClientId) (entity : Entity) (s : Server F) : Speaks s (s.on_disconnect id entity) :=
  .fewer rfl fun _ _ known => known

/-- The disconnect packets are sent while the client is still connected. -/
theorem disconnect_speaks : Moves Speaks (disconnect p id) s := by
  refine .get_bind ?_
  cases stored : s.conn_cache.clients.lookup id with
  | none => exact Moves.pure _ s
  | some conn =>
    dsimp only
    split
    · next isConnected =>
      have connected : id ∈ (s.on_disconnect id conn.entity).sessions.connected :=
        mem_connected_of_lookup stored isConnected
      refine .step Speaks rfl (fun s' speaks => (speaks_on_disconnect id conn.entity s).trans speaks) ?_
      refine .seq (SpeaksTo id) Speaks (fun s' speaks => (speaks connected).2)
        (fun middle s' first second => (first connected).2.trans second) ?_ fun _ middle _ => ?_
      · refine Moves.forM (fun _ _ s => Moves.ignore ?_) _
        exact send_with_speaks push_hands_over fun keep_alive isPacket => by cases isPacket
      · refine .bind (.modify (speaks_remove id middle)) fun _ removed _ => .modify ?_
        exact .fewer rfl fun _ _ known => known
    · exact Moves.pure _ s

theorem disconnect_by_entity_speaks : Moves Speaks (disconnect_by_entity p entity) s := by
  refine .get_bind ?_
  cases s.conn_cache.client_id_map.lookup entity with
  | none => exact Moves.throw _ s
  | some id => exact disconnect_speaks

theorem check_for_timeout_speaks [F64 F] (id : ClientId) (s : Server F) : Speaks s (s.check_for_timeout id) := by
  unfold check_for_timeout
  split
  · exact Std.Refl.refl s
  · next client _ =>
    split
    · exact IsTrans.trans _ _ _ (speaks_on_disconnect id client.entity s) (speaks_remove id _)
    · exact Std.Refl.refl s

theorem check_for_timeouts_speaks [F64 F] (client_ids : List ClientId) :
    Speaks s (s.check_for_timeouts client_ids) := by
  induction client_ids generalizing s with
  | nil => exact Std.Refl.refl s
  | cons id client_ids ih => exact IsTrans.trans _ _ _ (check_for_timeout_speaks id s) ih

/-! ### What a datagram does -/

/-- Nothing is sealed but packets that belong to no connection. -/
def Introduces (s s' : Server F) :
    Prop := ∀ entry ∈ s'.history,entry ∈ s.history ∨ entry.packet.kind < Packet.KEEP_ALIVE

/-- What is sealed is vouched for afterwards. -/
def Answers (s s' : Server F) : Prop := ∀ entry ∈ s'.history,entry ∈ s.history ∨ s'.sessions.Vouches entry

instance : Std.Refl (Introduces (F := F)) := ⟨fun _ _ member => .inl member⟩

instance : IsTrans (Server F) Introduces :=
  ⟨fun _ _ _ first second entry member => (second entry member).elim (first entry) .inr⟩

instance : Std.Refl (Answers (F := F)) := ⟨fun _ _ member => .inl member⟩

theorem Introduces.of_same (history : s'.history = s.history) :
    Introduces s s' := fun _ member => .inl (history ▸ member)

theorem Introduces.answers (introduces : Introduces s s') : Answers s s' := fun entry member =>
  (introduces entry member).imp_right fun early late => absurd late (UInt8.not_le.mpr early)

theorem send_netcode_packet_introduces (early : packet.kind < Packet.KEEP_ALIVE) :
    Moves Introduces (send_netcode_packet p packet key entity) s := by
  refine .intro (fun _ s' sent entry member => ?_) (fun error s' failed => ?_)
  · have history : s'.history = s.history ++ [⟨key,s.sequence,packet⟩] :=
      congrArg Sessions.history (send_netcode_packet_ok sent).2.1
    rw [history] at member
    rcases List.mem_append.mp member with old | new
    · exact .inl old
    · cases List.mem_singleton.mp new
      exact .inr early
  · rw [send_netcode_packet_error failed]
    exact Std.Refl.refl s

theorem deny_introduces {reason : DeniedReason} {error : Error} : Moves Introduces (deny p reason key entity error) s :=
  (send_netcode_packet_introduces (by exact (by decide : Packet.DENIED < Packet.KEEP_ALIVE))).bind fun _ s' _ =>
    Moves.throw _ s'

theorem process_connection_request_introduces [F64 F] {request : RequestPacket} {server_addr : Option SocketAddr} :
    Moves Introduces (process_connection_request p request entity server_addr) s := by
  refine .lift_bind (Std.Refl.refl s) fun token _ => .get_bind ?_
  split
  · refine .get_bind (.lift_bind (Std.Refl.refl s) fun _ _ => .lift_bind (Std.Refl.refl s) fun _ _ => ?_)
    refine .step Introduces rfl (fun _ introduces => introduces) (.lift_bind (Std.Refl.refl _) fun _ _ => ?_)
    split
    · exact deny_introduces
    · refine .get_bind (.lift_bind (Std.Refl.refl _) fun encrypted _ => ?_)
      refine (send_netcode_packet_introduces
        (by exact (by decide : Packet.CHALLENGE < Packet.KEEP_ALIVE))).bind fun _ sent _ => ?_
      refine .bind (.modify (.of_same rfl)) fun _ added _ => ?_
      exact .lift_bind (Std.Refl.refl added) fun _ _ => .modify (.of_same rfl)
  · exact Moves.pure _ s

theorem accept_client_answers {client : Connection F} (stored : s.conn_cache.clients.lookup id = some client)
    (pending : client.connected = false) (room : s.num_connected_clients < s.cfg.max_clients) :
    Moves Answers (accept_client p id client entity) s := by
  have moves : Moves (Once fun action => ∃ user_data,action = .Accept id entity user_data)
      (accept_client p id client entity) s :=
    accept_client_moves stored pending room fun user_data => ⟨user_data,rfl⟩
  refine .mono (fun s' once => ?_) moves
  rcases once with same | ⟨_,⟨user_data,rfl⟩,performs⟩
  · have history : s'.history = s.history := congrArg Sessions.history same
    exact (Introduces.of_same history).answers
  · exact performs.answers

theorem process_connection_response_answers {response : ResponsePacket} :
    Moves Answers (process_connection_response p response entity) s := by
  refine .get_bind (.lift_bind (Std.Refl.refl s) fun token _ => ?_)
  cases stored : s.conn_cache.clients.lookup token.client_id with
  | none => exact Moves.throw _ s
  | some client =>
    dsimp only
    by_cases connected : client.connected = true
    · rw [if_pos connected]
      exact Moves.pure _ s
    rw [if_neg connected]
    by_cases full : s.num_connected_clients ≥ s.cfg.max_clients
    · rw [if_pos full]
      exact .mono (fun _ => Introduces.answers) deny_introduces
    · rw [if_neg full]
      exact accept_client_answers stored (Bool.not_eq_true _ ▸ connected) (Nat.lt_of_not_le full)

theorem process_packet_answers [F64 F] {server_addr : Option SocketAddr} :
    Moves Answers (process_packet p packet entity server_addr) s := by
  have same : ∀ {s' : Server F},s'.history = s.history → Answers s s' :=
    fun history => (Introduces.of_same history).answers
  refine .get_bind ?_
  cases packet with
  | Request request =>
    exact (Moves.mono (fun _ => Introduces.answers) process_connection_request_introduces).then_pure _
  | Response response => exact process_connection_response_answers.then_pure _
  | KeepAlive keep_alive =>
    dsimp only
    split
    · exact same (congrArg Sessions.history (sessions_touch_client ..))
    · exact Moves.pure _ s
  | Payload payload =>
    dsimp only
    split
    · exact same (congrArg Sessions.history (sessions_touch_client ..))
    · exact Moves.pure _ s
  | Disconnect disconnect =>
    dsimp only
    split
    · next conn _ =>
      have removed := congrArg Sessions.history
        (sessions_remove (s := s.on_disconnect conn.client_id entity) conn.client_id)
      exact same (removed.trans (Sessions.history_remove ..))
    · exact Moves.pure _ s
  | Denied denied => trivial
  | Challenge challenge => trivial

theorem recv_turn_answers [F64 F] {buf : Bytes} {now : UInt64} {server_addr : Option SocketAddr} :
    Moves Answers (recv_turn p buf now entity server_addr) s := by
  have moves : Moves Answers (recv_packet p buf now entity server_addr) s := by
    refine .seq WindowMoved Answers ?_ ?_ read_packet_moves fun packet middle _ => ?_
    · rintro _ ⟨id,window,rfl⟩
      exact (Introduces.of_same (congrArg Sessions.history (sessions_put_window ..))).answers
    · rintro _ s' ⟨id,window,rfl⟩ answers entry member
      have history : (s.put_window id window).history = s.history :=
        congrArg Sessions.history (sessions_put_window s id window)
      exact (answers entry member).imp_left fun old => history ▸ old
    · cases packet with
      | none => exact Moves.pure _ middle
      | some packet => exact process_packet_answers
  unfold recv_turn Moves
  dsimp only
  cases returned : recv_packet p buf now entity server_addr s with
  | ok _ s' => exact moves.ok returned
  | error failure s' =>
    cases failure with
    | Err error =>
      have answers : Answers s s' := moves.err returned
      exact answers
    | Panic panic => trivial

/-! ### Runs -/

/-- Every packet of a connection that is sealed in a step is vouched for before the step or after it. -/
theorem step_vouched [F64 F] {event : Event F} (stepped : s.step p event = some s') :
    ∀ entry ∈ s'.history,entry ∈ s.history ∨ s.sessions.Vouches entry ∨ s'.sessions.Vouches entry := by
  have speaks : Speaks s s' → ∀ entry ∈ s'.history,
      entry ∈ s.history ∨ s.sessions.Vouches entry ∨ s'.sessions.Vouches entry :=
    fun speaks entry member => (speaks.vouched entry member).imp_right .inl
  have same : s'.history = s.history → ∀ entry ∈ s'.history,
      entry ∈ s.history ∨ s.sessions.Vouches entry ∨ s'.sessions.Vouches entry :=
    fun history entry member => .inl (history ▸ member)
  cases event with
  | Receive entity buf now server_addr =>
    exact fun entry member => (recv_turn_answers.after stepped entry member).imp_right .inr
  | UpdateState delta_ms client_ids =>
    rw [step] at stepped
    split at stepped
    · cases stepped
      exact speaks (check_for_timeouts_speaks (s := { s with
        time := F64.add s.time delta_ms
        conn_cache := { s.conn_cache with time := F64.add s.conn_cache.time delta_ms } }) client_ids)
    · cases stepped
  | Send buf client_id => exact speaks (send_speaks.after stepped)
  | SendAll buf client_ids =>
    rw [step] at stepped
    split at stepped
    · exact speaks (send_all_speaks.after stepped)
    · cases stepped
  | SendKeepalives client_id => exact speaks (send_keepalives_speaks.after stepped)
  | SendNetcodePackets entity =>
    cases stepped
    refine same ?_
    unfold send_netcode_packets
    split <;> rfl
  | Disconnect client_id => exact speaks (disconnect_speaks.after stepped)
  | DisconnectByEntity entity => exact speaks (disconnect_by_entity_speaks.after stepped)
  | DisconnectAll client_ids =>
    rw [step] at stepped
    split at stepped
    · exact speaks ((Moves.forM (fun _ _ _ => disconnect_speaks) s).after stepped)
    · cases stepped
  | TakeErrors => cases stepped; exact same rfl
  | SetConnectionRequestHandler handler => cases stepped; exact same rfl
  | Reset challenge_key => cases stepped; exact same rfl

/-- A client is connected on the server, with this key for what it is sent. -/
def Serves (s : Server F) (id : ClientId) (key : Key) : Prop :=
  ∃ conn,s.conn_cache.clients.lookup id = some conn ∧ conn.connected = true ∧ conn.send_key = key

/-- Whatever belongs to a connection was sealed while the connection was up. -/
theorem sealed_while_connected [F64 F] {start : Server F} {meets : Server F → Event F → Server F → Prop}
    (nothing : start.history = []) (reached : Reaches (step p) meets start s) {entry : Sealed}
    (member : entry ∈ s.history)
    (late : Packet.KEEP_ALIVE ≤ entry.packet.kind) :
    ∃ t id,Reaches (step p) meets start t ∧ Reaches (step p) meets t s ∧ t.Serves id entry.key ∧
      ∀ keep_alive,entry.packet = .KeepAlive keep_alive → keep_alive.client_id = id := by
  have serves : ∀ {t : Server F},t.sessions.Vouches entry → ∃ id,t.Serves id entry.key ∧
      ∀ keep_alive,entry.packet = .KeepAlive keep_alive → keep_alive.client_id = id := by
    intro t vouches
    obtain ⟨id,c,known,connected,isKey,named⟩ := vouches late
    obtain ⟨conn,stored,rfl⟩ := Option.map_eq_some_iff.mp known
    exact ⟨id,⟨conn,stored,connected,isKey⟩,named⟩
  induction reached with
  | start =>
    rw [nothing] at member
    cases member
  | @step before after event reached stepped met ih =>
    have last : Reaches (step p) meets before after := .step event .start stepped met
    rcases step_vouched stepped entry member with old | vouches | vouches
    · obtain ⟨t,id,first,second,serves,named⟩ := ih old
      exact ⟨t,id,first,.step event second stepped met,serves,named⟩
    · obtain ⟨id,serves,named⟩ := serves vouches
      exact ⟨before,id,reached,last,serves,named⟩
    · obtain ⟨id,serves,named⟩ := serves vouches
      exact ⟨after,id,.step event reached stepped met,.start,serves,named⟩

end Server

/-- A client that is connected was connected on the server before, under its id and the keys of its token. -/
theorem connected_was_accepted {F : Type} [F64 F] (p : Platform) (protocol_id : UInt64)
    (private_key challenge_key : Key)
    (server_cfg : ServerConfig F) (server : Server F)
    (served : Reaches (Server.step p) (fun _ _ _ => True)
      (.with_config protocol_id private_key challenge_key server_cfg) server)
    (token : ConnectToken) (cfg : ClientConfig F)
    (rejects : p.chacha20poly1305.Rejects token.server_to_client_key
      (SealedIn server.history token.protocol_id token.server_to_client_key))
    (client : Client F) (reached : Reaches (Client.step p) (fun _ _ _ => True) (.of_token token cfg) client)
    (connected : client.state = .Connected) :
    ∃ t,Reaches (Server.step p) (fun _ _ _ => True) (.with_config protocol_id private_key challenge_key server_cfg) t ∧
      Reaches (Server.step p) (fun _ _ _ => True) t server ∧ t.Serves client.id token.server_to_client_key := by
  obtain ⟨rfl,taken,tracks⟩ := Client.tracks_of_reached rejects reached
  obtain ⟨entry,member,isKey,isPacket⟩ := tracks.told connected
  have late : Packet.KEEP_ALIVE ≤ entry.packet.kind := by
    rw [isPacket]
    exact UInt8.le_refl _
  obtain ⟨t,id,first,second,serves,named⟩ := Server.sealed_while_connected rfl served member late
  cases named _ isPacket
  exact ⟨t,first,second,isKey ▸ serves⟩

/-- What the local server has sealed once its client is connected. -/
def accepted_history : List Sealed :=
  ((run (Server.step .shift) (fun _ _ _ => True) local_server (connects 1 (local_client 7 3) 0)).map
    Server.history).getD []

def local_guarded : Platform := .guarded 42 (local_client 7 3).server_to_client_key accepted_history

/-- The datagrams of a history. -/
def datagrams (history : List Sealed) : List Bytes :=
  history.map fun entry => written (entry.packet.write .shift entry.sequence entry.key 42)

theorem connected_was_accepted_local :
    ∃ (server : Server Seconds)
      (client : Client Seconds),Reaches (Server.step local_guarded) (fun _ _ _ => True) local_server server ∧
      Reaches (Client.step local_guarded) (fun _ _ _ => True) Client.local_start client ∧ client.state = .Connected ∧
      ∃ t,Reaches (Server.step local_guarded) (fun _ _ _ => True) local_server t ∧
        Reaches (Server.step local_guarded) (fun _ _ _ => True) t server ∧
        t.Serves client.id (local_client 7 3).server_to_client_key := by
  obtain ⟨server,served,isHistory⟩ := reaches_of_check (Server.step local_guarded) (fun _ _ _ => True) local_server
    (fun s => decide (s.history = accepted_history)) (connects 1 (local_client 7 3) 0) (by decide +kernel)
  obtain ⟨client,reached,connected⟩ :=
    reaches_of_check (Client.step local_guarded) (fun _ _ _ => True) Client.local_start
    (fun s => decide (s.state = .Connected)) [.Connect,.Update (.of 1) (datagrams accepted_history) (some 0)]
      (by decide +kernel)
  have isConnected := of_decide_eq_true connected
  refine ⟨server,client,served,reached,isConnected,
    connected_was_accepted local_guarded 42 (zeros 32) (zeros 32) _ server served
    (Client.connect_token (local_client 7 3)) _ ?_ client reached isConnected⟩
  rw [of_decide_eq_true isHistory]
  exact Platform.guarded_rejects 42 _ accepted_history

end Lightyear.Netcode
