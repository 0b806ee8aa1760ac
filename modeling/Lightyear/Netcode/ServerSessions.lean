import Lightyear.Netcode.PacketRoundTrip
import Lightyear.Netcode.Sessions
import Lightyear.Runs

/-!
The server does what its sessions do: a datagram makes it perform one action at most, and the
other methods send and close. Everything else that it does leaves its sessions alone.
-/
namespace Lightyear.Netcode
open Calls Codec Maps Runs

variable {F : Type}

namespace Server

section
variable (s : Server F)

theorem sessions_clients (id : ClientId) :
    s.sessions.clients id = (s.conn_cache.clients.lookup id).map Connection.session := rfl

@[simp] theorem sessions_put_client (id : ClientId) (conn : Connection F) :
    (s.put_client id conn).sessions = s.sessions.put id conn.session := by
  simp only [sessions,put_client,Sessions.put,Sessions.mk.injEq,and_true]
  funext other
  rw [lookup_insert_ite,Function.update_apply]
  split <;> rfl

/-- A connection that only changed its times is the same session. -/
theorem sessions_put_same {id : ClientId} {conn : Connection F} {c : Session} (known : s.sessions.clients id = some c)
    (same : conn.session = c) : (s.put_client id conn).sessions = s.sessions := by
  rw [sessions_put_client,same,Sessions.put_self known]

@[simp] theorem sessions_touch_client (id : ClientId) : (s.touch_client id).sessions = s.sessions := by
  unfold touch_client
  split
  · next conn stored =>
    refine s.sessions_put_same (c := conn.session) ?_ rfl
    rw [sessions_clients,stored]
    rfl
  · rfl

@[simp] theorem sessions_put_window (id : Option ClientId) (window : Option ReplayProtection) :
    (s.put_window id window).sessions = s.sessions := by
  unfold put_window
  split
  · next id window =>
    split
    · next known =>
      simp only [sessions,Sessions.mk.injEq,true_and,and_true]
      ext other
      simp only [Set.mem_ofPred_eq,AList.mem_insert,or_iff_right_iff_imp]
      exact fun same => same ▸ known
    · rfl
  · rfl

theorem locate_sessions (entity : Entity) :
    s.sessions.locate entity = (s.conn_cache.mut_by_entity entity).map fun (id,conn) => (id,conn.session) := by
  unfold Sessions.locate ConnectionCache.mut_by_entity sessions
  dsimp only
  cases s.conn_cache.client_id_map.lookup entity with
  | none => rfl
  | some id => cases stored : s.conn_cache.clients.lookup id <;> simp [stored]

theorem find_by_entity_eq (entity : Entity) :
    s.conn_cache.find_by_entity entity = (s.conn_cache.mut_by_entity entity).map Prod.snd := by
  unfold ConnectionCache.mut_by_entity ConnectionCache.find_by_entity
  cases s.conn_cache.client_id_map.lookup entity with
  | none => rfl
  | some id => cases stored : s.conn_cache.clients.lookup id <;> simp [stored]

@[simp] theorem sessions_remove (id : ClientId) : (s.remove id).sessions = s.sessions.remove id := by
  unfold Server.remove ConnectionCache.remove Sessions.remove
  cases stored : s.conn_cache.clients.lookup id with
  | none =>
    have absent : s.sessions.clients id = none := by rw [sessions_clients,stored]; rfl
    simp only [absent]
  | some conn =>
    have present : s.sessions.clients id = some conn.session := by rw [sessions_clients,stored]; rfl
    simp only [present]
    by_cases connected : conn.connected = true
    · rw [if_pos connected,if_pos (show conn.session.connected = true from connected)]
      simp only [sessions,Sessions.mk.injEq,and_true]
      refine ⟨?_,?_,?_⟩
      · funext other
        rw [lookup_erase_ite,Function.update_apply]
        split <;> rfl
      · funext other
        rw [lookup_erase_ite,Function.update_apply]
        rfl
      · ext other
        simp [AList.mem_erase,and_comm]
    · rw [if_neg connected,if_neg (show ¬conn.session.connected = true from connected)]

@[simp] theorem sessions_add [F64 F] (token : ConnectTokenPrivate) (entity : Entity) :
    (s.add token entity).sessions = s.sessions.add entity token.client_id token.server_to_client_key := by
  unfold Server.add ConnectionCache.add Sessions.add
  rw [locate_sessions]
  cases s.conn_cache.mut_by_entity entity with
  | some located =>
    simp only [Option.map_some,sessions,Sessions.put,Sessions.mk.injEq,and_true]
    funext other
    rw [lookup_insert_ite,Function.update_apply]
    split <;> rfl
  | none =>
    simp only [Option.map_none,sessions,Sessions.mk.injEq,and_true]
    refine ⟨?_,?_,?_⟩
    · funext other
      rw [lookup_insert_ite,Function.update_apply]
      split <;> rfl
    · funext other
      rw [lookup_insert_ite,Function.update_apply]
    · ext other
      simp [AList.mem_insert]

@[simp] theorem sessions_on_connect (id : ClientId) (entity : Entity) (user_data : UserData) :
    (s.on_connect id entity user_data).sessions = s.sessions.notify (.OnConnect id entity user_data) := rfl

@[simp] theorem sessions_on_disconnect (id : ClientId) (entity : Entity) :
    (s.on_disconnect id entity).sessions = s.sessions.notify (.OnDisconnect id entity) := rfl

theorem sessions_reset (challenge_key : Key) : (s.reset challenge_key).sessions = s.sessions.restart := by
  simp only [sessions,reset,ConnectionCache.clear,Sessions.restart,Sessions.mk.injEq,and_true]
  exact ⟨rfl,rfl,Set.eq_empty_of_forall_notMem fun id => AList.notMem_empty id⟩

/-- The number of connected clients is that of the connected sessions. -/
theorem encard_connected : s.sessions.connected.encard = s.num_connected_clients := by
  rw [num_connected_clients,← encard_satisfying (fun conn : Connection F => conn.connected)]
  congr 1
  ext id
  simp only [Sessions.connected,sessions,Set.mem_ofPred_eq,Option.map_eq_some_iff]
  constructor
  · rintro ⟨_,⟨conn,stored,rfl⟩,connected⟩
    exact ⟨conn,stored,connected⟩
  · rintro ⟨conn,stored,connected⟩
    exact ⟨conn.session,⟨conn,stored,rfl⟩,connected⟩

end

/-! ### Sending -/

variable {p : Platform} {s s' : Server F} {id : ClientId} {entity : Entity} {packet : Packet} {key : Key}

theorem encrypts_ok {sequence : UInt64} {written : Fallible Error Bytes} {bytes : Bytes} :
    encrypts packet sequence key written s = .ok bytes s' ↔
      written = .ok bytes ∧ s' = { s with history := s.history ++ [⟨key,sequence,packet⟩] } := by
  cases written with
  | ok written =>
    constructor
    · intro ok
      cases ok
      exact ⟨rfl,rfl⟩
    · rintro ⟨same,rfl⟩
      cases same
      rfl
  | error failure => exact ⟨fun ok => (nomatch ok),fun ⟨ok,_⟩ => (nomatch ok)⟩

theorem encrypts_error {sequence : UInt64} {written : Fallible Error Bytes} {failure : Failure Error}
    (failed : encrypts packet sequence key written s = .error failure s') : s' = s := by
  cases written with
  | ok written => cases failed
  | error failure => cases failed; rfl

theorem send_netcode_packet_ok {result : PUnit}
    (sent : send_netcode_packet p packet key entity s = .ok result s') :
    s.sequence.toNat + 1 < 2 ^ 64 ∧ s'.sessions = s.sessions.announce key packet ∧ s'.conn_cache = s.conn_cache := by
  obtain ⟨self,start,got,sent⟩ := bind_ok.mp sent
  cases got
  obtain ⟨bytes,sealing,encrypted,sent⟩ := bind_ok.mp sent
  obtain ⟨_,rfl⟩ := encrypts_ok.mp encrypted
  obtain ⟨_,queued,modified,sent⟩ := bind_ok.mp sent
  cases modified
  obtain ⟨sequence,_,counted,sent⟩ := bind_ok.mp sent
  obtain ⟨isNext,rfl⟩ := lift_eq_ok.mp counted
  obtain ⟨fits,rfl⟩ := checked_add_eq_ok.mp isNext
  cases sent
  exact ⟨fits,rfl,rfl⟩

theorem send_netcode_packet_error {error : Error}
    (failed : send_netcode_packet p packet key entity s = .error (.Err error) s') : s' = s := by
  rcases bind_error.mp failed with failed | ⟨self,start,got,failed⟩
  · cases failed
  cases got
  rcases bind_error.mp failed with failed | ⟨bytes,sealing,_,failed⟩
  · exact encrypts_error failed
  rcases bind_error.mp failed with failed | ⟨_,queued,modified,failed⟩
  · cases failed
  cases modified
  rcases bind_error.mp failed with failed | ⟨sequence,_,_,failed⟩
  · exact absurd (lift_eq_error.mp failed).1 checked_add_ne_err
  · cases failed

section
variable {write : UInt64 → Key → UInt64 → Fallible Error Bytes} {hand_over : Bytes → Server F → Server F}

/-- Handing bytes over does not touch the sessions. -/
def HandsOver (hand_over : Bytes → Server F → Server F) : Prop :=
  ∀ bytes s, (hand_over bytes s).sessions = s.sessions

theorem push_hands_over : HandsOver (push : Bytes → Server F → Server F) := fun _ _ => rfl

theorem enqueue_hands_over (entity : Entity) :
    HandsOver (enqueue entity : Bytes → Server F → Server F) := fun _ _ => rfl

theorem send_with_ok {result : PUnit} (hands_over : HandsOver hand_over)
    (sent : send_with packet write hand_over id s = .ok result s') :
    ∃ c, s.sessions.clients id = some c ∧ c.sequence.toNat + 1 < 2 ^ 64 ∧
      s'.sessions = s.sessions.send id c packet := by
  obtain ⟨self,start,got,sent⟩ := bind_ok.mp sent
  cases got
  cases stored : s.conn_cache.clients.lookup id with
  | none =>
    rw [stored] at sent
    cases sent
  | some conn =>
    rw [stored] at sent
    obtain ⟨bytes,sealing,encrypted,sent⟩ := bind_ok.mp sent
    obtain ⟨_,rfl⟩ := encrypts_ok.mp encrypted
    obtain ⟨_,handed,modified,sent⟩ := bind_ok.mp sent
    cases modified
    obtain ⟨sequence,_,counted,sent⟩ := bind_ok.mp sent
    obtain ⟨isNext,rfl⟩ := lift_eq_ok.mp counted
    obtain ⟨fits,rfl⟩ := checked_add_eq_ok.mp isNext
    cases sent
    refine ⟨conn.session,by rw [sessions_clients,stored]; rfl,fits,?_⟩
    rw [sessions_put_client,hands_over]
    rfl

theorem send_with_error {error : Error}
    (failed : send_with packet write hand_over id s = .error (.Err error) s') :
    s' = s ∧ ∀ conn, s.conn_cache.clients.lookup id = some conn →
      write conn.sequence conn.send_key s.protocol_id = .error (.Err error) := by
  rcases bind_error.mp failed with failed | ⟨self,start,got,failed⟩
  · cases failed
  cases got
  cases stored : s.conn_cache.clients.lookup id with
  | none =>
    rw [stored] at failed
    cases failed
    exact ⟨rfl,fun conn known => (nomatch known)⟩
  | some conn =>
    rw [stored] at failed
    rcases bind_error.mp failed with failed | ⟨bytes,sealing,_,failed⟩
    · refine ⟨encrypts_error failed,?_⟩
      rintro _ ⟨⟩
      rcases bind_error.mp failed with failed | ⟨_,_,_,failed⟩
      · exact (lift_eq_error.mp failed).1
      · cases failed
    rcases bind_error.mp failed with failed | ⟨_,handed,modified,failed⟩
    · cases failed
    cases modified
    rcases bind_error.mp failed with failed | ⟨sequence,_,_,failed⟩
    · exact absurd (lift_eq_error.mp failed).1 checked_add_ne_err
    · cases failed

end

/-! ### What a datagram does -/

/-- Nothing but one of some actions. -/
def Once (allowed : Sessions.Action → Prop) (s s' : Server F) : Prop :=
  s'.sessions = s.sessions ∨ Sessions.Acts allowed s.sessions s'.sessions

section
variable {allowed : Sessions.Action → Prop}

theorem deny_moves {reason : DeniedReason} {error : Error} (announces : ∀ key packet, allowed (.Announce key packet)) :
    Moves (Once allowed) (deny p reason key entity error) s := by
  refine .intro (fun a s' returned => ?_) (fun _ s' failed => ?_)
  · obtain ⟨_,_,_,thrown⟩ := bind_ok.mp returned
    cases thrown
  · rcases bind_error.mp failed with failed | ⟨_,_,sent,thrown⟩
    · exact .inl (congrArg sessions (send_netcode_packet_error failed))
    · cases thrown
      obtain ⟨fits,announced,_⟩ := send_netcode_packet_ok sent
      refine .inr ⟨_,announces key (DeniedPacket.create reason),?_⟩
      rw [announced]
      exact .announce fits

theorem entity_free {s : Server F} (free : (!s.entity_in_use entity) = true) (id : ClientId) (c : Session)
    (located : s.sessions.locate entity = some (id,c)) : c.connected = false := by
  rw [locate_sessions,Option.map_eq_some_iff] at located
  obtain ⟨⟨_,conn⟩,found,same⟩ := located
  cases same
  rw [Bool.not_eq_true',entity_in_use,find_by_entity_eq,found] at free
  exact free

theorem id_free {s : Server F} (free : (!s.id_in_use id) = true) (c : Session)
    (known : s.sessions.clients id = some c) :
    c.connected = false := by
  rw [sessions_clients,Option.map_eq_some_iff] at known
  obtain ⟨conn,stored,rfl⟩ := known
  rw [Bool.not_eq_true',id_in_use,ConnectionCache.find_by_id,stored] at free
  exact free

/-- A keep-alive packet is always written. -/
theorem keep_alive_written (sequence protocol_id : UInt64) {error : Error} :
    (KeepAlivePacket.create id).write p sequence key protocol_id ≠ .error (.Err error) := by
  have size : (KeepAlivePacket.write_to ⟨id⟩).length = 8 := length_write_u64 _
  have written : (Packet.KeepAlive ⟨id⟩).write p sequence key protocol_id =
      .ok (Packet.wire p (.KeepAlive ⟨id⟩) sequence key protocol_id (KeepAlivePacket.write_to ⟨id⟩)) :=
    Packet.write_ok (by decide : Packet.KEEP_ALIVE ≠ Packet.REQUEST) rfl (by rw [size]; decide)
  intro failed
  cases written.symm.trans failed

theorem accept_client_moves {client : Connection F} (stored : s.conn_cache.clients.lookup id = some client)
    (pending : client.connected = false) (room : s.num_connected_clients < s.cfg.max_clients)
    (accepts : ∀ user_data, allowed (.Accept id entity user_data)) :
    Moves (Once allowed) (accept_client p id client entity) s := by
  refine .intro (fun _ s' returned => ?_) (fun error s' failed => ?_)
  · obtain ⟨_,marked,modified,returned⟩ := bind_ok.mp returned
    cases modified
    obtain ⟨_,answered,sent,returned⟩ := bind_ok.mp returned
    cases returned
    obtain ⟨c,known,fits,sent⟩ := send_with_ok (enqueue_hands_over entity) sent
    rw [sessions_put_client,Sessions.clients_put] at known
    cases known
    rw [sessions_put_client,Sessions.send_put] at sent
    refine .inr ⟨_,accepts client.user_data,?_⟩
    rw [sessions_on_connect,sent]
    refine .accept (c := client.session) (by rw [sessions_clients,stored]; rfl) pending fits ?_
    rw [encard_connected]
    exact Nat.cast_lt.mpr room
  · rcases bind_error.mp failed with failed | ⟨_,marked,modified,failed⟩
    · cases failed
    cases modified
    rcases bind_error.mp failed with failed | ⟨_,_,_,failed⟩
    · have known : (s.put_client id { client with
          connected := true, last_send_time := s.time, last_receive_time := s.time }).conn_cache.clients.lookup id =
          some _ := (lookup_insert_ite ..).trans (if_pos rfl)
      exact absurd ((send_with_error failed).2 _ known) (keep_alive_written _ _)
    · cases failed

theorem process_connection_response_moves {packet : ResponsePacket}
    (announces : ∀ key packet, allowed (.Announce key packet))
    (accepts : ∀ id user_data, allowed (.Accept id entity user_data)) :
    Moves (Once allowed) (process_connection_response p packet entity) s := by
  refine .get_bind (.lift_bind (.inl rfl) fun token _ => ?_)
  cases stored : s.conn_cache.clients.lookup token.client_id with
  | none => exact .inl rfl
  | some client =>
    by_cases connected : client.connected = true
    · simp only [connected,↓reduceIte]
      exact .inl rfl
    · simp only [connected,↓reduceIte,Bool.false_eq_true]
      by_cases full : s.num_connected_clients ≥ s.cfg.max_clients
      · rw [if_pos full]
        exact deny_moves announces
      · rw [if_neg full]
        exact accept_client_moves stored (Bool.not_eq_true _ ▸ connected) (Nat.lt_of_not_le full) (accepts _)

theorem send_challenge_moves [F64 F] {token : ConnectTokenPrivate}
    (admits : ∀ packet, allowed (.Admit entity token.client_id token.server_to_client_key packet))
    (entity_free : (!s.entity_in_use entity) = true) (id_free : (!s.id_in_use token.client_id) = true) :
    Moves (Once allowed) (send_challenge p token entity) s := by
  refine .get_bind (.lift_bind (.inl rfl) fun encrypted _ => ?_)
  refine .intro (fun _ s' returned => ?_) (fun error s' failed => ?_)
  · obtain ⟨_,challenged,sent,returned⟩ := bind_ok.mp returned
    obtain ⟨fits,announced,_⟩ := send_netcode_packet_ok sent
    obtain ⟨_,added,modified,returned⟩ := bind_ok.mp returned
    cases modified
    obtain ⟨_,_,counted,returned⟩ := bind_ok.mp returned
    obtain ⟨_,rfl⟩ := lift_eq_ok.mp counted
    cases returned
    refine .inr ⟨_,admits (ChallengePacket.create s.challenge_sequence encrypted),?_⟩
    change Sessions.Performs _ _ (challenged.add token entity).sessions
    rw [sessions_add,announced]
    exact .let_in fits (Server.entity_free entity_free) (Server.id_free id_free)
  · rcases bind_error.mp failed with failed | ⟨_,challenged,_,failed⟩
    · exact .inl (congrArg sessions (send_netcode_packet_error failed))
    rcases bind_error.mp failed with failed | ⟨_,added,modified,failed⟩
    · cases failed
    cases modified
    rcases bind_error.mp failed with failed | ⟨_,_,_,failed⟩
    · exact absurd (lift_eq_error.mp failed).1 checked_add_ne_err
    · cases failed

/-- The token of a request that is answered with a challenge. -/
def admits (s : Server F) (packet : RequestPacket) (entity : Entity) (server_addr : Option SocketAddr) :
    Option ConnectTokenPrivate :=
  match parse ConnectTokenPrivate.read_from packet.token_data.val with
  | .ok token =>
    if s.expects server_addr token && !s.entity_in_use entity && !s.id_in_use token.client_id &&
      (s.refusal token.client_id).isNone then some token else none
  | .error _ => none

theorem process_connection_request_moves [F64 F] {packet : RequestPacket} {server_addr : Option SocketAddr}
    (announces : ∀ key packet, allowed (.Announce key packet))
    (admitted : ∀ token, s.admits packet entity server_addr = some token →
      ∀ challenge, allowed (.Admit entity token.client_id token.server_to_client_key challenge)) :
    Moves (Once allowed) (process_connection_request p packet entity server_addr) s := by
  refine .lift_bind (.inl rfl) fun token parsed => .get_bind ?_
  have isToken := returned_eq_ok.mp (from_error_eq_ok.mp parsed)
  by_cases expected : s.expects server_addr token = true
  · rw [if_pos expected]
    refine .get_bind (.lift_bind (.inl rfl) fun _ entity_passed => .lift_bind (.inl rfl) fun _ id_passed => ?_)
    have entity_free := require_ok entity_passed
    have id_free := require_ok id_passed
    refine .step (Once allowed) rfl (fun _ moved => moved) (.lift_bind (.inl rfl) fun _ _ => ?_)
    cases refused : s.refusal token.client_id with
    | some refusal => exact deny_moves announces
    | none =>
      refine send_challenge_moves (admitted token ?_) entity_free id_free
      simp only [admits,isToken,expected,entity_free,id_free,refused,Option.isNone_none,Bool.and_self,↓reduceIte]
  · rw [if_neg expected]
    exact .inl rfl

theorem process_packet_moves [F64 F] {server_addr : Option SocketAddr}
    (announces : ∀ key packet, allowed (.Announce key packet))
    (accepts : ∀ id user_data, allowed (.Accept id entity user_data))
    (admitted : ∀ request token, packet = .Request request → s.admits request entity server_addr = some token →
      ∀ challenge, allowed (.Admit entity token.client_id token.server_to_client_key challenge))
    (leaves : ∀ disconnect conn, packet = .Disconnect disconnect → s.conn_cache.find_by_entity entity = some conn →
      allowed (.Leave entity)) :
    Moves (Once allowed) (process_packet p packet entity server_addr) s := by
  refine .get_bind ?_
  cases packet with
  | Request request =>
    exact (process_connection_request_moves announces fun token => admitted request token rfl).then_pure _
  | Response response => exact (process_connection_response_moves announces accepts).then_pure _
  | KeepAlive keep_alive =>
    dsimp only
    split
    · exact .inl (sessions_touch_client ..)
    · exact .inl rfl
  | Payload payload =>
    dsimp only
    split
    · exact .inl (sessions_touch_client ..)
    · exact .inl rfl
  | Disconnect disconnect =>
    dsimp only
    split
    · next conn found =>
      have allowed_leave := leaves disconnect conn rfl found
      rw [find_by_entity_eq,Option.map_eq_some_iff] at found
      obtain ⟨⟨id,found⟩,located,rfl⟩ := found
      refine .inr ⟨_,allowed_leave,?_⟩
      rw [sessions_remove,sessions_on_disconnect]
      exact .leave (c := found.session) (by rw [locate_sessions,located]; rfl)
    · exact .inl rfl
  | Denied denied => trivial
  | Challenge challenge => trivial

end

/-- Reading a datagram advances a window at most. -/
def WindowMoved (s s' : Server F) : Prop := ∃ id window, s' = s.put_window id window

theorem read_packet_moves {buf : Bytes} {now : UInt64} : Moves WindowMoved (read_packet p buf now entity) s := by
  unfold read_packet
  split
  · refine .get_bind (.lift_bind ⟨none,none,rfl⟩ fun _ _ => Moves.then_pure ?_ _)
    unfold read_with Moves
    dsimp only
    split
    · exact ⟨_,_,rfl⟩
    · next failure _ _ =>
      cases failure with
      | Err error => exact ⟨_,_,rfl⟩
      | Panic panic => trivial
  · exact ⟨none,none,rfl⟩

theorem find_put_window (id : Option ClientId) (window : Option ReplayProtection) :
    (s.put_window id window).conn_cache.find_by_entity entity = s.conn_cache.find_by_entity entity := by
  unfold put_window
  split
  · split <;> rfl
  · rfl

theorem admits_put_window (id : Option ClientId) (window : Option ReplayProtection) (request : RequestPacket)
    (server_addr : Option SocketAddr) :
    (s.put_window id window).admits request entity server_addr = s.admits request entity server_addr := by
  unfold put_window
  split
  · split <;> rfl
  · rfl

/-- The packet that is read from a datagram. -/
def packet_in (p : Platform) (s : Server F) (buf : Bytes) (now : UInt64) (entity : Entity) : Option Packet :=
  match read_packet p buf now entity s with
  | .ok packet _ => packet
  | .error _ _ => none

/-- The sender and the token of a request that is answered with a challenge. -/
def admitted (p : Platform) (s : Server F) : Event F → Option (Entity × ConnectTokenPrivate)
  | .Receive entity buf now server_addr =>
    match s.packet_in p buf now entity with
    | some (.Request packet) => (s.admits packet entity server_addr).map fun token => (entity,token)
    | _ => none
  | _ => none

/-- The sender of a disconnect packet, and the connection it is known by. -/
def leaving (p : Platform) (s : Server F) : Event F → Option (Entity × Connection F)
  | .Receive entity buf now _ =>
    match s.packet_in p buf now entity with
    | some (.Disconnect _) => (s.conn_cache.find_by_entity entity).map fun conn => (entity,conn)
    | _ => none
  | _ => none

/-- What an event makes the server do. -/
def Allows (p : Platform) (s : Server F) (event : Event F) : Sessions.Action → Prop
  | .Announce _ _ | .Accept _ _ _ => ∃ entity buf now server_addr, event = .Receive entity buf now server_addr
  | .Admit entity id key _ => ∃ token, s.admitted p event = some (entity,token) ∧ token.client_id = id ∧
      token.server_to_client_key = key
  | .Leave entity => ∃ conn, s.leaving p event = some (entity,conn)
  | .Send _ _ | .Close _ => True
  | .Restart => ∃ challenge_key, event = .Reset challenge_key

theorem recv_packet_moves [F64 F] {buf : Bytes} {now : UInt64} {server_addr : Option SocketAddr} :
    Moves (Once (Allows p s (.Receive entity buf now server_addr))) (recv_packet p buf now entity server_addr) s := by
  refine .seq WindowMoved (Once (Allows p s (.Receive entity buf now server_addr))) ?_ ?_ read_packet_moves ?_
  · rintro _ ⟨id,window,rfl⟩
    exact .inl (sessions_put_window ..)
  · rintro _ s' ⟨id,window,rfl⟩ moved
    unfold Once at *
    rwa [sessions_put_window] at moved
  · intro packet moved returned
    obtain ⟨id,window,rfl⟩ := read_packet_moves.ok returned
    have isPacket : s.packet_in p buf now entity = packet := by rw [packet_in,returned]
    cases packet with
    | none => exact .inl rfl
    | some packet =>
      refine process_packet_moves (fun _ _ => ⟨_,_,_,_,rfl⟩) (fun _ _ => ⟨_,_,_,_,rfl⟩) ?_ ?_
      · rintro request token rfl admits challenge
        rw [admits_put_window] at admits
        exact ⟨token,by simp only [admitted,isPacket,admits,Option.map_some],rfl,rfl⟩
      · rintro disconnect conn rfl found
        rw [find_put_window] at found
        exact ⟨conn,by simp only [leaving,isPacket,found,Option.map_some]⟩

/-- A datagram makes the server do one thing at most. -/
theorem receive_once [F64 F] {buf : Bytes} {now : UInt64} {server_addr : Option SocketAddr}
    (stepped : s.step p (.Receive entity buf now server_addr) = some s') :
    Once (Allows p s (.Receive entity buf now server_addr)) s s' := by
  refine Moves.after ?_ (show after (recv_turn p buf now entity server_addr) s = some s' from stepped)
  have moves : Moves (Once (Allows p s (.Receive entity buf now server_addr)))
      (recv_packet p buf now entity server_addr) s := recv_packet_moves
  unfold recv_turn Moves
  dsimp only
  match returned : recv_packet p buf now entity server_addr s with
  | .ok _ s' => exact moves.ok returned
  | .error (.Err error) s' =>
    have moved : Once _ s s' := moves.err returned
    exact moved
  | .error (.Panic _) s' => trivial

/-! ### The other methods -/

/-- A packet was sent to a client, if it was not an error. -/
def Sent (id : ClientId) (s s' : Server F) : Prop := Sessions.Sends id s.sessions s'.sessions

instance : Std.Refl (Sent (F := F) id) := ⟨fun _ => .refl⟩
instance : IsTrans (Server F) (Sent id) := ⟨fun _ _ _ first second => first.trans second⟩

theorem send_with_moves {write : UInt64 → Key → UInt64 → Fallible Error Bytes}
    {hand_over : Bytes → Server F → Server F} (hands_over : HandsOver hand_over) :
    Moves (Sent id) (send_with packet write hand_over id) s := by
  refine .intro (fun _ s' sent => ?_) (fun error s' failed => ?_)
  · obtain ⟨c,known,fits,sent⟩ := send_with_ok hands_over sent
    unfold Sent
    rw [sent]
    exact Sessions.Sends.one packet known fits
  · rw [(send_with_error failed).1]
    exact .refl

def Often (allowed : Sessions.Action → Prop) (s s' : Server F) : Prop :=
  Relation.ReflTransGen (Sessions.Acts allowed) s.sessions s'.sessions

instance (allowed : Sessions.Action → Prop) : Std.Refl (Often (F := F) allowed) := ⟨fun _ => .refl⟩
instance (allowed : Sessions.Action → Prop) : IsTrans (Server F) (Often allowed) :=
  ⟨fun _ _ _ first second => first.trans second⟩

theorem send_with_often {write : UInt64 → Key → UInt64 → Fallible Error Bytes}
    {hand_over : Bytes → Server F → Server F} (hands_over : HandsOver hand_over) :
    Moves (Often Sessions.SendsOrCloses) (send_with packet write hand_over id) s :=
  (send_with_moves hands_over).mono fun _ => Sessions.Sends.acts

theorem send_keepalives_moves [F64 F] : Moves (Often Sessions.SendsOrCloses) (send_keepalives p id) s := by
  refine .get_bind ?_
  cases s.conn_cache.clients.lookup id with
  | none => exact .refl
  | some client =>
    dsimp only
    split
    · exact .refl
    · split
      · exact .refl
      · exact send_with_often push_hands_over

theorem send_moves {buf : Bytes} : Moves (Often Sessions.SendsOrCloses) (send p buf id) s := by
  refine .lift_bind .refl fun _ _ => .get_bind ?_
  cases s.conn_cache.clients.lookup id with
  | none => exact .refl
  | some conn =>
    refine .lift_bind .refl fun _ _ => .bind ?_ fun _ _ _ => send_with_often push_hands_over
    unfold confirm_connection
    split
    · exact .refl
    · exact send_with_often push_hands_over

theorem send_all_moves {buf : Bytes} {client_ids : List ClientId} :
    Moves (Often Sessions.SendsOrCloses) (send_all p buf client_ids) s := by
  refine Moves.forM (fun id _ s => ?_) s
  have moves : Moves (Often Sessions.SendsOrCloses) (send p buf id) s := send_moves
  unfold send_or_skip Moves
  dsimp only
  match returned : send p buf id s with
  | .ok _ s' => exact moves.ok returned
  | .error (.Err error) s' =>
    dsimp only
    split <;> exact moves.err returned
  | .error (.Panic _) s' => trivial

/-- A client that is told to go is notified about, sent packets, and removed. -/
theorem disconnect_moves : Moves (Often Sessions.SendsOrCloses) (disconnect p id) s := by
  refine .get_bind ?_
  cases stored : s.conn_cache.clients.lookup id with
  | none => exact .refl
  | some conn =>
    dsimp only
    split
    · next connected =>
      refine .intro (fun _ s' returned => ?_) (fun error s' failed => ?_)
      · obtain ⟨_,notified,modified,returned⟩ := bind_ok.mp returned
        cases modified
        obtain ⟨_,sent,looped,returned⟩ := bind_ok.mp returned
        obtain ⟨_,removed,modified,returned⟩ := bind_ok.mp returned
        cases modified
        cases returned
        have sends : Sessions.Sends id (s.sessions.notify (.OnDisconnect id conn.entity)) sent.sessions :=
          (Moves.forM (fun _ _ _ => (send_with_moves push_hands_over).ignore) _).ok looped
        obtain ⟨last,sends,isLast⟩ := sends.of_notified
        obtain ⟨c,known,isConnected,isEntity⟩ := sends.keeps (c := conn.session) (by rw [sessions_clients,stored]; rfl)
        have closes : Sessions.Performs (.Close id) last (sent.remove id).sessions := by
          rw [sessions_remove,isLast,show conn.entity = c.entity from isEntity.symm]
          exact .close known (isConnected.trans connected)
        exact sends.acts.tail ⟨.Close id,trivial,closes⟩
      · rcases bind_error.mp failed with failed | ⟨_,notified,modified,failed⟩
        · cases failed
        rcases bind_error.mp failed with failed | ⟨_,sent,_,failed⟩
        · exact absurd failed (forM_ne_err (fun _ _ _ _ => ignore_ne_err) _ _ _)
        rcases bind_error.mp failed with failed | ⟨_,removed,_,failed⟩
        · cases failed
        · cases failed
    · exact .refl

theorem disconnect_by_entity_moves : Moves (Often Sessions.SendsOrCloses) (disconnect_by_entity p entity) s := by
  refine .get_bind ?_
  cases s.conn_cache.client_id_map.lookup entity with
  | none => exact .refl
  | some id => exact disconnect_moves

theorem disconnect_all_moves {client_ids : List ClientId} :
    Moves (Often Sessions.SendsOrCloses) (disconnect_all p client_ids) s :=
  Moves.forM (fun _ _ _ => disconnect_moves) s

theorem check_for_timeout_closes [F64 F] (id : ClientId) : Often Sessions.SendsOrCloses s (s.check_for_timeout id) := by
  unfold check_for_timeout
  cases stored : s.conn_cache.clients.lookup id with
  | none => exact .refl
  | some client =>
    dsimp only
    split
    · next timed_out =>
      have connected : client.connected = true := by
        rw [Bool.and_eq_true,Bool.and_eq_true] at timed_out
        exact timed_out.1.1
      refine .single ⟨.Close id,trivial,?_⟩
      rw [sessions_remove,sessions_on_disconnect]
      exact .close (c := client.session) (by rw [sessions_clients,stored]; rfl) connected
    · exact .refl

theorem check_for_timeouts_closes [F64 F] (client_ids : List ClientId) :
    Often Sessions.SendsOrCloses s (s.check_for_timeouts client_ids) := by
  induction client_ids generalizing s with
  | nil => exact .refl
  | cons id client_ids ih => exact (check_for_timeout_closes id).trans ih

/-- Every event makes the server do what it allows, and nothing else. -/
theorem step_performs [F64 F] {event : Event F} (stepped : s.step p event = some s') :
    Often (Allows p s event) s s' := by
  have closing : Often Sessions.SendsOrCloses s s' → Often (Allows p s event) s s' := by
    refine Relation.ReflTransGen.mono ?_ _ _
    rintro _ _ ⟨action,sends,performs⟩
    cases action with
    | Send id packet => exact ⟨.Send id packet,trivial,performs⟩
    | Close id => exact ⟨.Close id,trivial,performs⟩
    | _ => exact sends.elim
  cases event with
  | Receive entity buf now server_addr =>
    rcases receive_once stepped with same | acts
    · rw [Often,same]
    · exact .single acts
  | TakeErrors => cases stepped; exact .refl
  | UpdateState delta_ms client_ids =>
    rw [step] at stepped
    split at stepped
    · cases stepped
      exact closing (check_for_timeouts_closes (s := { s with
        time := F64.add s.time delta_ms
        conn_cache := { s.conn_cache with time := F64.add s.conn_cache.time delta_ms } }) client_ids)
    · cases stepped
  | Send buf client_id => exact closing (send_moves.after stepped)
  | SendAll buf client_ids =>
    rw [step] at stepped
    split at stepped
    · exact closing (send_all_moves.after stepped)
    · cases stepped
  | SendKeepalives client_id => exact closing (send_keepalives_moves.after stepped)
  | SendNetcodePackets entity =>
    cases stepped
    unfold send_netcode_packets
    split <;> exact .refl
  | Disconnect client_id => exact closing (disconnect_moves.after stepped)
  | DisconnectByEntity entity => exact closing (disconnect_by_entity_moves.after stepped)
  | DisconnectAll client_ids =>
    rw [step] at stepped
    split at stepped
    · exact closing (disconnect_all_moves.after stepped)
    · cases stepped
  | SetConnectionRequestHandler handler => cases stepped; exact .refl
  | Reset challenge_key =>
    cases stepped
    refine .single ⟨.Restart,⟨_,rfl⟩,?_⟩
    rw [sessions_reset]
    exact .restart

/-! ### Runs -/

theorem allows_cases {event : Event F} {action : Sessions.Action} (allowed : s.Allows p event action) :
    (∃ entity buf now server_addr, event = .Receive entity buf now server_addr) ∨ Sessions.SendsOrCloses action ∨
      action = .Restart := by
  cases event with
  | Receive entity buf now server_addr => exact .inl ⟨_,_,_,_,rfl⟩
  | _ =>
    cases action with
    | Announce key packet => exact .inl allowed
    | Accept id entity user_data => exact .inl allowed
    | Admit entity id key packet =>
      obtain ⟨_,admitted,_⟩ := allowed
      cases admitted
    | Leave entity =>
      obtain ⟨_,leaving⟩ := allowed
      cases leaving
    | Send id packet => exact .inr (.inl trivial)
    | Close id => exact .inr (.inl trivial)
    | Restart => exact .inr (.inr rfl)

/-- What the actions keep is kept by runs whose events allow only actions that meet a condition. Packets and the end
    of a session always meet it. -/
theorem invariant_of_actions [F64 F] {start : Server F} {holds : Sessions → Prop}
    (condition : Sessions → Sessions.Action → Prop) {meets : Server F → Event F → Server F → Prop}
    (initially : holds start.sessions)
    (free : ∀ a action, Sessions.SendsOrCloses action ∨ action = .Restart → condition a action)
    (implies : ∀ before event after, meets before event after → ∀ action, before.Allows p event action →
      condition before.sessions action)
    (kept : ∀ a action b, holds a → condition a action → Sessions.Performs action a b → holds b)
    (reached : Reaches (step p) meets start s) : holds s.sessions := by
  refine reached.invariant (fun s => holds s.sessions) initially ?_
  intro before event after held stepped met
  by_cases received : ∃ entity buf now server_addr, event = .Receive entity buf now server_addr
  · obtain ⟨entity,buf,now,server_addr,rfl⟩ := received
    rcases receive_once stepped with same | ⟨action,allowed,performs⟩
    · rwa [same]
    · exact kept _ action _ held (implies _ _ _ met action allowed) performs
  · have path := step_performs stepped
    unfold Often at path
    generalize after.sessions = last at path ⊢
    induction path with
    | refl => exact held
    | tail _ acts ih =>
      obtain ⟨action,allowed,performs⟩ := acts
      exact kept _ action _ ih (free _ action ((allows_cases allowed).resolve_left received)) performs

end Server

end Lightyear.Netcode
