import Lightyear.Maps
import Lightyear.Netcode.Nonces
import Lightyear.Netcode.Time

/-!
`server.rs`: the server answers requests with challenges, connects the clients that respond
to them, and disconnects clients that leave, time out or are told to go. The packets of a
connection are numbered by the connection, all others by the server.
-/
namespace Lightyear.Netcode
open Calls Codec Maps

variable {F : Type} [F64 F]

structure TokenEntry (F : Type) where
  time : F
  mac : Tag
  entity : Entity
deriving DecidableEq

namespace TokenEntries

/-- What the linear search has found so far. -/
structure Search (F : Type) where
  oldest : Option Nat
  matching : Option Nat
  oldest_time : F

def search (inner : List (TokenEntry F)) (entry : TokenEntry F) : Search F :=
  inner.zipIdx.foldl (fun found (saved_entry,idx) =>
    let found := if F64.lt entry.time found.oldest_time then
      { found with oldest_time := saved_entry.time, oldest := some idx } else found
    if entry.mac = saved_entry.mac then { found with matching := some idx } else found) ⟨none,none,F64.infinity⟩

/-- Always true: a token may be used again. -/
def find_or_insert (inner : List (TokenEntry F)) (entry : TokenEntry F) : Bool × List (TokenEntry F) :=
  let found := search inner entry
  match found.oldest, found.matching with
  | none, _ => (true,inner ++ [entry])
  | some _, some _ => (true,inner)
  | some oldest, none => (true,inner.set oldest entry)

end TokenEntries

structure Connection (F : Type) where
  confirmed : Bool
  connected : Bool
  client_id : ClientId
  entity : Entity
  timeout : Int32
  last_access_time : F
  last_send_time : F
  last_receive_time : F
  send_key : Key
  receive_key : Key
  sequence : UInt64
  user_data : UserData
deriving DecidableEq

structure ConnectionCache (F : Type) where
  clients : Map ClientId (Connection F)
  client_id_map : Map Entity ClientId
  replay_protection : Map ClientId ReplayProtection
  time : F

namespace ConnectionCache

def new (server_time : F) : ConnectionCache F := ⟨∅,∅,∅,server_time⟩

/-- The key in `clients` of the connection of an entity, and the connection. -/
def mut_by_entity (self : ConnectionCache F) (entity : Entity) : Option (ClientId × Connection F) :=
  (self.client_id_map.lookup entity).bind fun id => (self.clients.lookup id).map fun conn => (id,conn)

def find_by_entity (self : ConnectionCache F) (entity : Entity) : Option (Connection F) :=
  (self.client_id_map.lookup entity).bind self.clients.lookup

def find_by_id (self : ConnectionCache F) (client_id : ClientId) :
    Option (Connection F) := self.clients.lookup client_id

/-- A new connection starts to count at `1 << 62`. -/
def connection (self : ConnectionCache F) (client_id : ClientId) (entity : Entity) (timeout : Int32)
    (send_key receive_key : Key) (user_data : UserData) : Connection F :=
  { confirmed := false, connected := false, client_id, entity, timeout, last_access_time := self.time,
    last_send_time := F64.neg_infinity, last_receive_time := F64.neg_infinity, send_key, receive_key,
    sequence := 0x4000000000000000, user_data }

/-- The connection of a known entity keeps its place in `clients`, whatever its new id. -/
def add (self : ConnectionCache F) (client_id : ClientId) (entity : Entity) (timeout : Int32)
    (send_key receive_key : Key) (user_data : UserData) : ConnectionCache F :=
  match self.mut_by_entity entity with
  | some (id,existing) =>
    { self with
      clients := self.clients.insert id
        { existing with client_id, timeout, send_key, receive_key, last_access_time := self.time, user_data } }
  | none =>
    { self with
      clients := self.clients.insert client_id
        (self.connection client_id entity timeout send_key receive_key user_data)
      replay_protection := self.replay_protection.insert client_id ReplayProtection.new
      client_id_map := self.client_id_map.insert entity client_id }

/-- Only a connected client is removed. -/
def remove (self : ConnectionCache F) (client_id : ClientId) : ConnectionCache F :=
  match self.clients.lookup client_id with
  | none => self
  | some conn =>
    if conn.connected then
      { self with
        client_id_map := self.client_id_map.erase conn.entity
        replay_protection := self.replay_protection.erase client_id
        clients := self.clients.erase client_id }
    else self

def clear (self : ConnectionCache F) : ConnectionCache F :=
  { self with clients := ∅, client_id_map := ∅, replay_protection := ∅ }

end ConnectionCache

def SocketAddr.port : SocketAddr → UInt16
  | .V4 _ port => port
  | .V6 _ port _ _ => port

def SocketAddr.is_ipv4 : SocketAddr → Bool
  | .V4 _ _ => true
  | .V6 _ _ _ _ => false

/-- The octets of the address, four or sixteen of them. -/
def SocketAddr.ip : SocketAddr → Bytes
  | .V4 ip _ => ip.val
  | .V6 ip _ _ _ => ip.val

def SocketAddr.is_unspecified (self : SocketAddr) : Bool := self.ip.all (· == 0)

/-- `127.0.0.0/8` and `::1` -/
def SocketAddr.is_loopback : SocketAddr → Bool
  | .V4 ip _ => ip.val.head? == some 127
  | .V6 ip _ _ _ => ip.val == List.replicate 15 0 ++ [1]

def server_addr_matches (local_addr token_addr : SocketAddr) : Bool :=
  if local_addr.port ≠ token_addr.port ∨ local_addr.is_ipv4 ≠ token_addr.is_ipv4 then false
  else local_addr.ip == token_addr.ip || (local_addr.is_unspecified && token_addr.is_loopback) ||
    (local_addr.is_loopback && token_addr.is_unspecified)

/-! ### The server -/

/-- `None` accepts the connection. -/
abbrev ConnectionRequestHandler := ClientId → Option DeniedReason

structure ServerConfig (F : Type) where
  max_clients : Nat
  num_disconnect_packets : Nat
  keep_alive_send_rate : F
  connection_request_handler : ConnectionRequestHandler
  additional_expected_addresses : List SocketAddr

/-- A call of `cfg.on_connect` or `cfg.on_disconnect`. -/
inductive Callback where
  | OnConnect (client_id : ClientId) (entity : Entity) (user_data : UserData)
  | OnDisconnect (client_id : ClientId) (entity : Entity)
deriving DecidableEq

/-- The server, with what its callbacks were called with, what was pushed to link senders, and all that it has
    encrypted. -/
structure Server (F : Type) where
  time : F
  private_key : Key
  sequence : UInt64
  challenge_sequence : UInt64
  challenge_key : Key
  protocol_id : UInt64
  conn_cache : ConnectionCache F
  token_entries : List (TokenEntry F)
  cfg : ServerConfig F
  send_queue : Map Entity (List Bytes)
  client_errors : List Error
  callbacks : List Callback
  pushed : List Bytes
  history : List Sealed

namespace Server

/-- The challenge key is random. -/
def with_config (protocol_id : UInt64) (private_key challenge_key : Key) (cfg : ServerConfig F) : Server F :=
  { time := F64.zero, private_key, sequence := 0x800000, challenge_sequence := 0, challenge_key, protocol_id,
    conn_cache := ConnectionCache.new F64.zero, token_entries := [], cfg, send_queue := ∅, client_errors := [],
    callbacks := [], pushed := [], history := [] }

/-- The method of `NetcodeServer`, which also forgets what the callbacks were called with. -/
def reset (challenge_key : Key) (self : Server F) : Server F :=
  { self with
    challenge_key
    conn_cache := self.conn_cache.clear
    token_entries := []
    send_queue := ∅
    client_errors := []
    callbacks := [] }

/-- `REQUEST`, `RESPONSE`, `KEEP_ALIVE`, `PAYLOAD` and `DISCONNECT`. -/
def ALLOWED_PACKETS : UInt8 :=
  1 <<< Packet.REQUEST ||| 1 <<< Packet.RESPONSE ||| 1 <<< Packet.KEEP_ALIVE ||| 1 <<< Packet.PAYLOAD |||
    1 <<< Packet.DISCONNECT

def num_connected_clients (self : Server F) : Nat :=
  (self.conn_cache.clients.entries.filter (fun entry => entry.2.connected)).length

def put_client (id : ClientId) (conn : Connection F) (self : Server F) : Server F :=
  { self with conn_cache := { self.conn_cache with clients := self.conn_cache.clients.insert id conn } }

def remove (client_id : ClientId) (self : Server F) : Server F :=
  { self with conn_cache := self.conn_cache.remove client_id }

/-- `sender.push` -/
def push (bytes : Bytes) (self : Server F) : Server F := { self with pushed := self.pushed ++ [bytes] }

/-- `send_queue.entry(entity).or_default().push(..)` -/
def enqueue (entity : Entity) (bytes : Bytes) (self : Server F) : Server F :=
  { self with send_queue := self.send_queue.insert entity ((self.send_queue.lookup entity).getD [] ++ [bytes]) }

def on_connect (client_id : ClientId) (entity : Entity) (user_data : UserData) (self : Server F) : Server F :=
  { self with callbacks := self.callbacks ++ [.OnConnect client_id entity user_data] }

def on_disconnect (client_id : ClientId) (entity : Entity) (self : Server F) : Server F :=
  { self with callbacks := self.callbacks ++ [.OnDisconnect client_id entity] }

def handle_client_error (error : Error) (self : Server F) : Server F :=
  { self with client_errors := self.client_errors ++ [error] }

def touch_client (client_id : ClientId) (self : Server F) : Server F :=
  match self.conn_cache.clients.lookup client_id with
  | some conn => self.put_client client_id { conn with last_receive_time := self.time, confirmed := true }
  | none => self

section
variable (p : Platform)

/-- Remembers a packet once its bytes are written. -/
def encrypts (packet : Packet) (sequence : UInt64) (key : Key) (written : Fallible Error Bytes) :
    Call Error (Server F) Bytes := do
  let bytes ← lift written
  modify fun self => { self with history := self.history ++ [⟨key,sequence,packet⟩] }
  pure bytes

/-- A packet that does not belong to a connection. -/
def send_netcode_packet (packet : Packet) (key : Key) (entity : Entity) : Call Error (Server F) PUnit := do
  let self ← get
  let bytes ← encrypts packet self.sequence key (packet.write p self.sequence key self.protocol_id)
  modify (enqueue entity bytes)
  let sequence ← lift (checked_add self.sequence 1)
  modify fun self => { self with sequence }

/-- The next packet of a connection, which is then handed over. -/
def send_with (packet : Packet) (write : UInt64 → Key → UInt64 → Fallible Error Bytes)
    (hand_over : Bytes → Server F → Server F) (id : ClientId) : Call Error (Server F) PUnit := do
  let self ← get
  match self.conn_cache.clients.lookup id with
  | none => throw (.Err (.ClientNotFound id))
  | some conn => do
    let bytes ← encrypts packet conn.sequence conn.send_key (write conn.sequence conn.send_key self.protocol_id)
    modify (hand_over bytes)
    let sequence ← lift (checked_add conn.sequence 1)
    modify (put_client id { conn with last_access_time := self.time, last_send_time := self.time, sequence })

def send_to_client (packet : Packet) (id : ClientId) : Call Error (Server F) PUnit :=
  send_with packet (packet.write p) push id

def send_payload_to_client (payload : Bytes) (id : ClientId) : Call Error (Server F) PUnit :=
  send_with (.Payload ⟨payload⟩) (Packet.write_payload p payload) push id

def send_netcode_to_client (packet : Packet) (id : ClientId) (entity : Entity) : Call Error (Server F) PUnit :=
  send_with packet (packet.write p) (enqueue entity) id

/-! ### Receiving -/

/-- Whether the token is for this server. `None` disables the check. -/
def expects (self : Server F) (server_addr : Option SocketAddr) (token : ConnectTokenPrivate) : Bool :=
  match server_addr with
  | none => true
  | some server_addr => token.server_addresses.addrs.any fun token_addr =>
      server_addr_matches server_addr token_addr ||
        self.cfg.additional_expected_addresses.any fun expected_addr => server_addr_matches expected_addr token_addr

def entity_in_use (self : Server F) (entity : Entity) : Bool :=
  (self.conn_cache.find_by_entity entity).any (·.connected)

def id_in_use (self : Server F) (client_id : ClientId) :
    Bool := (self.conn_cache.find_by_id client_id).any (·.connected)

/-- Why a client is denied, and the error that is returned. -/
def refusal (self : Server F) (client_id : ClientId) : Option (DeniedReason × Error) :=
  if self.num_connected_clients ≥ self.cfg.max_clients then some (.ServerFull,.ServerIsFull client_id)
  else (self.cfg.connection_request_handler client_id).map fun denied_reason => (denied_reason,.Denied client_id)

def deny (reason : DeniedReason) (key : Key) (entity : Entity) (error : Error) : Call Error (Server F) PUnit := do
  send_netcode_packet p (DeniedPacket.create reason) key entity
  throw (.Err error)

/-- The entry of a request's token. -/
def find_or_insert (entity : Entity) (packet : RequestPacket) : Call Error (Server F) Bool := fun self =>
  let entry := ⟨self.time,⟨packet.token_data.val.drop (ConnectTokenPrivate.SIZE - MAC_BYTES),by
    rw [List.length_drop,packet.token_data.property]; rfl⟩,entity⟩
  let (inserted,inner) := TokenEntries.find_or_insert self.token_entries entry
  .ok inserted { self with token_entries := inner }

def add (token : ConnectTokenPrivate) (entity : Entity) (self : Server F) : Server F :=
  { self with
    conn_cache := self.conn_cache.add token.client_id entity token.timeout_seconds token.server_to_client_key
      token.client_to_server_key token.user_data }

/-- The challenge, and the connection that awaits the response. -/
def send_challenge (token : ConnectTokenPrivate) (entity : Entity) : Call Error (Server F) PUnit := do
  let self ← get
  let challenge_token_encrypted ← lift (from_error (fun _ => .ConnectTokenEncryptionFailure token.client_id)
    ((⟨token.client_id,token.user_data⟩ : ChallengeToken).encrypt p self.challenge_sequence self.challenge_key))
  send_netcode_packet p (ChallengePacket.create self.challenge_sequence challenge_token_encrypted)
    token.server_to_client_key entity
  modify (add token entity)
  let challenge_sequence ← lift (checked_add self.challenge_sequence 1)
  modify fun self => { self with challenge_sequence }

/-- A request whose token is for this server. -/
def process_expected_request (packet : RequestPacket) (token : ConnectTokenPrivate) (entity : Entity) :
    Call Error (Server F) PUnit := do
  let self ← get
  lift (require (!self.entity_in_use entity) (.ClientEntityInUse entity))
  lift (require (!self.id_in_use token.client_id) (.ClientIdInUse token.client_id))
  let inserted ← find_or_insert entity packet
  lift (require inserted (.ConnectTokenInUse token.client_id))
  match self.refusal token.client_id with
  | some (reason,error) => deny p reason token.server_to_client_key entity error
  | none => send_challenge p token entity

def process_connection_request (packet : RequestPacket) (entity : Entity) (server_addr : Option SocketAddr) :
    Call Error (Server F) PUnit := do
  let token ← lift (from_error .Io (returned (parse ConnectTokenPrivate.read_from packet.token_data.val)))
  let self ← get
  if self.expects server_addr token then process_expected_request p packet token entity
  else pure () -- info!("server ignored connection request. ..")

def accept_client (id : ClientId) (client : Connection F) (entity : Entity) : Call Error (Server F) PUnit := do
  modify fun self =>
    self.put_client id { client with connected := true, last_send_time := self.time, last_receive_time := self.time }
  send_netcode_to_client p (KeepAlivePacket.create id) id entity
  modify (on_connect id entity client.user_data)

def process_connection_response (packet : ResponsePacket) (entity : Entity) : Call Error (Server F) PUnit := do
  let self ← get
  let challenge_token ← lift (from_error (fun _ => .ConnectTokenDecryptionFailure)
    (ChallengeToken.decrypt p packet.token packet.sequence self.challenge_key))
  match self.conn_cache.clients.lookup challenge_token.client_id with
  | none => throw (.Err (.UnknownClient challenge_token.client_id))
  | some client =>
    if client.connected then pure ()
    else if self.num_connected_clients ≥ self.cfg.max_clients then
      deny p .ServerFull client.send_key entity (.ServerIsFull challenge_token.client_id)
    else accept_client p challenge_token.client_id client entity

/-- What is returned is put back into the link. -/
def process_packet (packet : Packet) (entity : Entity) (server_addr : Option SocketAddr) :
    Call Error (Server F) (Option Bytes) := do
  let self ← get
  match packet with
  | .Request packet => do
    process_connection_request p packet entity server_addr
    pure none
  | .Response packet => do
    process_connection_response p packet entity
    pure none
  | .KeepAlive _ =>
    match self.conn_cache.find_by_entity entity with
    | some conn => do
      modify (touch_client conn.client_id)
      pure none
    | none => pure none
  | .Payload packet =>
    match self.conn_cache.find_by_entity entity with
    | some conn => do
      modify (touch_client conn.client_id)
      pure (some packet.buf)
    | none => pure none
  | .Disconnect _ =>
    match self.conn_cache.find_by_entity entity with
    | some conn => do
      modify (on_disconnect conn.client_id entity)
      modify (remove conn.client_id)
      pure none
    | none => pure none
  | _ => throw (.Panic .Unreachable) -- "packet should have been filtered out by `ALLOWED_PACKETS`"

/-- The key to read a datagram with, and whose replay protection applies. -/
def reading_key (self : Server F) (first_byte : UInt8) (entity : Entity) : Fallible Error (Key × Option ClientId) :=
  if first_byte = Packet.REQUEST then .ok (self.private_key,none)
  else
    match self.conn_cache.find_by_entity entity with
    | some c =>
      match self.conn_cache.clients.lookup c.client_id with
      | some client => .ok (client.receive_key,some c.client_id)
      | none => .error (.Err (.ClientNotFound c.client_id))
    | none => .error (.Err (.Ignored entity))

/-- The window of a client, advanced in place. -/
def put_window (client_id : Option ClientId) (window : Option ReplayProtection) (self : Server F) : Server F :=
  match client_id, window with
  | some id, some window =>
    if id ∈ self.conn_cache.replay_protection then
      { self with
        conn_cache := { self.conn_cache with
          replay_protection := self.conn_cache.replay_protection.insert id window } }
    else self
  | _, _ => self

/-- `Packet::read` on the window of a client. -/
def read_with (buf : Bytes) (now : UInt64) (key : Key) (client_id : Option ClientId) : Call Error (Server F) Packet :=
  fun self =>
    match Packet.read p buf self.protocol_id now key ALLOWED_PACKETS
        (client_id.bind self.conn_cache.replay_protection.lookup) with
    | .ok packet window => .ok packet (self.put_window client_id window)
    | .error failure window => .error failure (self.put_window client_id window)

/-- The packet in a datagram, if it is not too small to be one. -/
def read_packet (buf : Bytes) (now : UInt64) (entity : Entity) : Call Error (Server F) (Option Packet) := do
  match buf with
  | first_byte :: _ :: _ => do
    let self ← get
    let (key,client_id) ← lift (self.reading_key first_byte entity)
    let packet ← read_with p buf now key client_id
    pure (some packet)
  | _ => pure none

def recv_packet (buf : Bytes) (now : UInt64) (entity : Entity) (server_addr : Option SocketAddr) :
    Call Error (Server F) (Option Bytes) := do
  match ← read_packet p buf now entity with
  | none => pure none
  | some packet => process_packet p packet entity server_addr

/-- One turn of the loop of `recv_packets`: errors are kept for later. -/
def recv_turn (buf : Bytes) (now : UInt64) (entity : Entity) (server_addr : Option SocketAddr) :
    Call Error (Server F) (Option Bytes) := fun self =>
  match recv_packet p buf now entity server_addr self with
  | .error (.Err error) self => .ok none (self.handle_client_error error)
  | result => result

/-! ### The other methods -/

/-- The turn of `check_for_timeouts` for one client. -/
def check_for_timeout (id : ClientId) (self : Server F) : Server F :=
  match self.conn_cache.clients.lookup id with
  | none => self
  | some client =>
    if client.connected && decide (client.timeout > 0) &&
        F64.lt (F64.add client.last_receive_time (F64.of_i32 client.timeout)) self.time then
      (self.on_disconnect id client.entity).remove id
    else self

/-- The ids are those of the clients, in the order of the hash map. -/
def check_for_timeouts (client_ids : List ClientId) (self : Server F) : Server F :=
  client_ids.foldl (fun self id => self.check_for_timeout id) self

def update_state (delta_ms : F) (client_ids : List ClientId) (self : Server F) : Server F :=
  { self with
    time := F64.add self.time delta_ms
    conn_cache := { self.conn_cache with time := F64.add self.conn_cache.time delta_ms } }.check_for_timeouts client_ids

def send_keepalives (id : ClientId) : Call Error (Server F) PUnit := do
  let self ← get
  match self.conn_cache.clients.lookup id with
  | none => throw (.Err (.ClientNotFound id))
  | some client =>
    if !client.connected then pure ()
    else if F64.le self.time (F64.add client.last_send_time self.cfg.keep_alive_send_rate) then pure ()
    else send_to_client p (KeepAlivePacket.create id) id

def send_netcode_packets (entity : Entity) (self : Server F) : Server F :=
  match self.send_queue.lookup entity with
  | some queue => { self with pushed := self.pushed ++ queue, send_queue := self.send_queue.insert entity [] }
  | none => self

def confirm_connection (client_id : ClientId) (conn : Connection F) : Call Error (Server F) PUnit :=
  if conn.confirmed then pure () else send_to_client p (KeepAlivePacket.create client_id) client_id

def send (buf : Bytes) (client_id : ClientId) : Call Error (Server F) PUnit := do
  lift (require (decide (buf.length ≤ MAX_PACKET_SIZE)) (.SizeMismatch MAX_PACKET_SIZE buf.length))
  let self ← get
  match self.conn_cache.clients.lookup client_id with
  | none => throw (.Err (.ClientNotFound client_id))
  | some conn => do
    lift (require conn.connected (.ClientNotConnected client_id))
    confirm_connection p client_id conn
    send_payload_to_client p buf client_id

/-- The errors that `send_all` passes over. -/
def skips : Error → Bool
  | .ClientNotConnected _ | .ClientNotFound _ => true
  | _ => false

/-- The turn of `send_all` for one client. -/
def send_or_skip (buf : Bytes) (id : ClientId) : Call Error (Server F) PUnit := fun self =>
  match send p buf id self with
  | .error (.Err error) self => if skips error then .ok ⟨⟩ self else .error (.Err error) self
  | result => result

def send_all (buf : Bytes) (client_ids : List ClientId) : Call Error (Server F) PUnit :=
  client_ids.forM (send_or_skip p buf)

def disconnect (client_id : ClientId) : Call Error (Server F) PUnit := do
  let self ← get
  match self.conn_cache.clients.lookup client_id with
  | none => pure ()
  | some conn =>
    if conn.connected then do
      modify (on_disconnect client_id conn.entity)
      (List.range self.cfg.num_disconnect_packets).forM fun _ =>
        ignore (send_to_client p DisconnectPacket.create client_id)
      modify (remove client_id)
      modify fun self => { self with send_queue := self.send_queue.erase conn.entity }
    else pure ()

def disconnect_by_entity (entity : Entity) : Call Error (Server F) PUnit := do
  let self ← get
  match self.conn_cache.client_id_map.lookup entity with
  | none => throw (.Err (.EntityNotFound entity))
  | some client_id => disconnect p client_id

/-- `disconnect` does nothing for a client that is not connected, as the loop of `disconnect_all` does. -/
def disconnect_all (client_ids : List ClientId) : Call Error (Server F) PUnit :=
  client_ids.forM (disconnect p)

end

end Server

/-- A call of a method of the server. The ids are the keys of `clients`, in any order. -/
inductive Event (F : Type) where
  | Receive (entity : Entity) (buf : Bytes) (now : UInt64) (server_addr : Option SocketAddr)
  | TakeErrors
  | UpdateState (delta_ms : F) (client_ids : List ClientId)
  | Send (buf : Bytes) (client_id : ClientId)
  | SendAll (buf : Bytes) (client_ids : List ClientId)
  | SendKeepalives (client_id : ClientId)
  | SendNetcodePackets (entity : Entity)
  | Disconnect (client_id : ClientId)
  | DisconnectByEntity (entity : Entity)
  | DisconnectAll (client_ids : List ClientId)
  | SetConnectionRequestHandler (handler : ConnectionRequestHandler)
  | Reset (challenge_key : Key)

namespace Server

/-- `take_client_ids` in some order. -/
def client_ids_are (self : Server F) (client_ids : List ClientId) : Bool :=
  decide (client_ids.Perm self.conn_cache.clients.keys)

/-- The server after an event. There is none after a panic. -/
def step (p : Platform) (self : Server F) : Event F → Option (Server F)
  | .Receive entity buf now server_addr => after (recv_turn p buf now entity server_addr) self
  | .TakeErrors => some { self with client_errors := [] }
  | .UpdateState delta_ms client_ids =>
    if self.client_ids_are client_ids then some (self.update_state delta_ms client_ids) else none
  | .Send buf client_id => after (send p buf client_id) self
  | .SendAll buf client_ids => if self.client_ids_are client_ids then after (send_all p buf client_ids) self else none
  | .SendKeepalives client_id => after (send_keepalives p client_id) self
  | .SendNetcodePackets entity => some (self.send_netcode_packets entity)
  | .Disconnect client_id => after (disconnect p client_id) self
  | .DisconnectByEntity entity => after (disconnect_by_entity p entity) self
  | .DisconnectAll client_ids =>
    if self.client_ids_are client_ids then after (disconnect_all p client_ids) self else none
  | .SetConnectionRequestHandler handler =>
    some { self with cfg := { self.cfg with connection_request_handler := handler } }
  | .Reset challenge_key => some (self.reset challenge_key)

end Server

end Lightyear.Netcode
