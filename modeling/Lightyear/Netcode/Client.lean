import Lightyear.Netcode.Nonces
import Lightyear.Netcode.Time

/-!
`client.rs`: the client asks one server after the other until it is connected. All of its
packets are numbered by one counter, which every reset sets back.
-/
namespace Lightyear.Netcode
open Calls Codec

structure ClientConfig (F : Type) where
  num_disconnect_packets : Nat
  packet_send_rate : F

inductive ClientState where
  | ConnectTokenExpired
  | ConnectionTimedOut
  | ConnectionRequestTimedOut
  | ChallengeResponseTimedOut
  | ConnectionDenied
  | Disconnected
  | SendingConnectionRequest
  | SendingChallengeResponse
  | Connected
deriving DecidableEq, Repr

/-- The client, with what was pushed to link senders, and all that it has encrypted. -/
structure Client (F : Type) where
  id : ClientId
  state : ClientState
  time : F
  start_time : F
  last_send_time : F
  last_receive_time : F
  server_addr_idx : Nat
  sequence : UInt64
  challenge_token_sequence : UInt64
  challenge_token_data : Octets ChallengeToken.SIZE
  token : ConnectToken
  replay_protection : ReplayProtection
  should_disconnect : Bool
  should_disconnect_state : ClientState
  send_queue : List Bytes
  cfg : ClientConfig F
  pushed : List Bytes
  history : List Sealed

namespace Client

variable {F : Type}

section
variable [F64 F]

/-- The client of a token that was read. -/
def of_token (token : ConnectToken) (cfg : ClientConfig F) : Client F :=
  { id := 0, state := .Disconnected, time := F64.zero, start_time := F64.zero, last_send_time := F64.neg_infinity,
    last_receive_time := F64.neg_infinity, server_addr_idx := 0, sequence := 0, challenge_token_sequence := 0,
    challenge_token_data := zeros ChallengeToken.SIZE, token, replay_protection := ReplayProtection.new,
    should_disconnect := false, should_disconnect_state := .Disconnected, send_queue := [], cfg, pushed := [],
    history := [] }

def from_token (token_bytes : Bytes) (cfg : ClientConfig F) : Except Error (Client F) :=
  if token_bytes.length ≠ ConnectToken.SIZE then .error (.SizeMismatch ConnectToken.SIZE token_bytes.length)
  else
    match parse ConnectToken.read_from token_bytes with
    | .ok token => .ok (of_token token cfg)
    | .error error => .error (.InvalidToken error)

end

/-- `DENIED`, `CHALLENGE`, `KEEP_ALIVE`, `PAYLOAD` and `DISCONNECT`. -/
def ALLOWED_PACKETS : UInt8 :=
  1 <<< Packet.DENIED ||| 1 <<< Packet.CHALLENGE ||| 1 <<< Packet.KEEP_ALIVE ||| 1 <<< Packet.PAYLOAD |||
    1 <<< Packet.DISCONNECT

def set_state (state : ClientState) (self : Client F) : Client F := { self with state }

/-- `last_send_time` is set back, to force a packet to be sent immediately. -/
def reset_connection [F64 F] (self : Client F) : Client F :=
  { self with
    start_time := self.time
    last_send_time := F64.sub self.time F64.one
    last_receive_time := self.time
    should_disconnect := false
    should_disconnect_state := .Disconnected
    challenge_token_sequence := 0
    replay_protection := ReplayProtection.new }

def reset [F64 F] (new_state : ClientState) (self : Client F) : Client F :=
  ({ self with sequence := 0, start_time := F64.zero, server_addr_idx := 0 }.set_state new_state).reset_connection

/-- Prepares the client to connect to the server. -/
def connect [F64 F] (self : Client F) : Client F := self.reset_connection.set_state .SendingConnectionRequest

section
variable (p : Platform)

/-- Remembers a packet once its bytes are written. A request is not encrypted. -/
def encrypts (packet : Packet) (written : Fallible Error Bytes) : Call Error (Client F) Bytes := do
  let bytes ← lift written
  modify fun self =>
    if packet.kind = Packet.REQUEST then self
    else { self with history := self.history ++ [⟨self.token.client_to_server_key,self.sequence,packet⟩] }
  pure bytes

/-- The next packet of the client, which is then handed over. -/
def send_with (packet : Packet) (write : UInt64 → Key → UInt64 → Fallible Error Bytes)
    (hand_over : Bytes → Client F → Client F) : Call Error (Client F) PUnit := do
  let self ← get
  let bytes ← encrypts packet (write self.sequence self.token.client_to_server_key self.token.protocol_id)
  modify (hand_over bytes)
  let sequence ← lift (checked_add self.sequence 1)
  modify fun self => { self with last_send_time := self.time, sequence }

/-- `sender.push` -/
def push (bytes : Bytes) (self : Client F) : Client F := { self with pushed := self.pushed ++ [bytes] }

def enqueue (bytes : Bytes) (self : Client F) : Client F := { self with send_queue := self.send_queue ++ [bytes] }

def send_payload_packet (payload : Bytes) : Call Error (Client F) PUnit :=
  send_with (.Payload ⟨payload⟩) (Packet.write_payload p payload) push

def send_netcode_packet (packet : Packet) : Call Error (Client F) PUnit := send_with packet (packet.write p) enqueue

/-- The packet that is sent from time to time. -/
def periodic_packet (self : Client F) : Option Packet :=
  match self.state with
  | .SendingConnectionRequest => some (RequestPacket.create self.token.protocol_id self.token.expire_timestamp
      self.token.nonce self.token.private_data)
  | .SendingChallengeResponse => some (ResponsePacket.create self.challenge_token_sequence self.challenge_token_data)
  | .Connected => some (KeepAlivePacket.create 0)
  | _ => none

def send_packets [F64 F] : Call Error (Client F) PUnit := do
  let self ← get
  if F64.le self.time (F64.add self.last_send_time self.cfg.packet_send_rate) then pure ()
  else
    match self.periodic_packet with
    | some packet => send_netcode_packet p packet
    | none => pure ()

def send (buf : Bytes) : Call Error (Client F) PUnit := do
  let self ← get
  if self.state ≠ .Connected then pure () -- trace!("tried to send but not connected. ..")
  else do
    lift (require (decide (buf.length ≤ MAX_PACKET_SIZE)) (.SizeMismatch MAX_PACKET_SIZE buf.length))
    send_payload_packet p buf

def drain_send_netcode_packets (self : Client F) : Client F :=
  { self with pushed := self.pushed ++ self.send_queue, send_queue := [] }

/-- Also marks when the last packet was received, unless the packet is of no use in this state. -/
def process_packet (packet : Packet) : Call Error (Client F) (Option Bytes) := fun self =>
  match packet, self.state with
  | .Denied _, .SendingConnectionRequest | .Denied _, .SendingChallengeResponse =>
    .ok none { self with
      should_disconnect := true, should_disconnect_state := .ConnectionDenied, last_receive_time := self.time }
  | .Challenge pkt, .SendingConnectionRequest =>
    .ok none ({ self with
      challenge_token_sequence := pkt.sequence, challenge_token_data := pkt.token,
      last_receive_time := self.time }.set_state .SendingChallengeResponse)
  | .KeepAlive _, .Connected => .ok none { self with last_receive_time := self.time }
  | .KeepAlive pkt, .SendingChallengeResponse =>
    .ok none ({ self with id := pkt.client_id, last_receive_time := self.time }.set_state .Connected)
  | .Payload pkt, .Connected => .ok (some pkt.buf) { self with last_receive_time := self.time }
  | .Disconnect _, .Connected =>
    .ok none { self with
      should_disconnect := true, should_disconnect_state := .Disconnected, last_receive_time := self.time }
  | _, _ => .ok none self

/-- The packet in a datagram. Errors are ignored. -/
def read_packet (buf : Bytes) (now : UInt64) : Call Error (Client F) (Option Packet) := fun self =>
  if buf.length ≤ 1 then .ok none self
  else
    match Packet.read p buf self.token.protocol_id now self.token.server_to_client_key ALLOWED_PACKETS
        (if self.state = .Connected then some self.replay_protection else none) with
    | .ok packet window => .ok (some packet) { self with replay_protection := window.getD self.replay_protection }
    | .error (.Err _) window => .ok none { self with replay_protection := window.getD self.replay_protection }
    | .error (.Panic panic) window =>
      .error (.Panic panic) { self with replay_protection := window.getD self.replay_protection }

def recv_packet (buf : Bytes) (now : UInt64) : Call Error (Client F) (Option Bytes) := do
  match ← read_packet p buf now with
  | none => pure none
  | some packet => process_packet packet

/-- The payloads are put back into the link. -/
def recv_packets (bufs : List Bytes) (now : Option UInt64) : Call Error (Client F) PUnit := do
  match now with
  | none => throw (.Err .SystemTime)
  | some now => bufs.forM fun buf => do
    let _payload ← recv_packet p buf now

/-- `Ok` means that the client connects to another server. -/
def connect_to_next_server [F64 F] (self : Client F) : Option (Client F) :=
  if self.server_addr_idx + 1 ≥ self.token.server_addresses.len then none
  else some { self with server_addr_idx := self.server_addr_idx + 1 }.connect

def is_token_expired [F64 F] (self : Client F) : Bool :=
  F64.le (F64.sub (F64.of_u64 self.token.expire_timestamp) (F64.of_u64 self.token.create_timestamp))
    (F64.sub self.time self.start_time)

def is_connection_timed_out [F64 F] (self : Client F) : Bool :=
  decide (self.token.timeout_seconds > 0) &&
    F64.lt (F64.add self.last_receive_time (F64.of_i32 self.token.timeout_seconds)) self.time

/-- Connects to the next server, or gives up in a state. -/
def next_server_or [F64 F] (new_state : ClientState) (self : Client F) : Client F :=
  match self.connect_to_next_server with
  | some self => self
  | none => self.reset new_state

def is_pending (self : Client F) : Bool :=
  self.state == .SendingConnectionRequest || self.state == .SendingChallengeResponse

def update_state [F64 F] (self : Client F) : Client F :=
  if self.is_pending && self.is_token_expired then self.reset .ConnectTokenExpired
  else if self.should_disconnect then self.next_server_or self.should_disconnect_state
  else
    match self.state, self.is_connection_timed_out with
    | .SendingConnectionRequest, true => self.next_server_or .ConnectionRequestTimedOut
    | .SendingChallengeResponse, true => self.next_server_or .ChallengeResponseTimedOut
    | .Connected, true => self.reset .ConnectionTimedOut
    | _, _ => self

def try_update [F64 F] (delta_ms : F) (bufs : List Bytes) (now : Option UInt64) :
    Call Error (Client F) ClientState := do
  modify fun self => { self with time := F64.add self.time delta_ms }
  recv_packets p bufs now
  send_packets p
  modify update_state
  let self ← get
  pure self.state

def disconnect [F64 F] : Call Error (Client F) PUnit := do
  let self ← get
  (List.range self.cfg.num_disconnect_packets).forM fun _ => send_netcode_packet p DisconnectPacket.create
  modify (reset .Disconnected)

end

/-- A call of a method of the client. The datagrams are those in its link. -/
inductive Event (F : Type) where
  | Connect
  | Update (delta_ms : F) (bufs : List Bytes) (now : Option UInt64)
  | Send (buf : Bytes)
  | DrainSendNetcodePackets
  | Disconnect

/-- The client after an event. There is none after a panic. -/
def step [F64 F] (p : Platform) (self : Client F) : Event F → Option (Client F)
  | .Connect => some self.connect
  | .Update delta_ms bufs now => after (try_update p delta_ms bufs now) self
  | .Send buf => after (send p buf) self
  | .DrainSendNetcodePackets => some self.drain_send_netcode_packets
  | .Disconnect => after (disconnect p) self

end Client

end Lightyear.Netcode
