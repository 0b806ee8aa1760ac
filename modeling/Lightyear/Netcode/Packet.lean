import Lightyear.Netcode.Replay
import Lightyear.Netcode.Token

/-!
`packet.rs`: the packets of the protocol, how they are written and how datagrams are read.
A datagram starts with a byte that holds the number of sequence bytes and the kind. The
mask of allowed kinds is only looked at for a log message.
-/
namespace Lightyear.Netcode
open Calls Codec

structure RequestPacket where
  version_info : Octets 13
  protocol_id : UInt64
  expire_timestamp : UInt64
  token_nonce : XNonce
  token_data : Octets ConnectTokenPrivate.SIZE
deriving DecidableEq, Repr

/-- `DeniedReason` of the connection crate. -/
inductive DeniedReason where
  | ServerFull
  | Banned
  | InternalError
  | AlreadyConnected
  | TokenAlreadyUsed
  | InvalidToken
  | Custom (reason : String)
deriving DecidableEq, Repr

structure DeniedPacket where
  reason : DeniedReason
deriving DecidableEq, Repr

structure ChallengePacket where
  sequence : UInt64
  token : Octets ChallengeToken.SIZE
deriving DecidableEq, Repr

structure ResponsePacket where
  sequence : UInt64
  token : Octets ChallengeToken.SIZE
deriving DecidableEq, Repr

structure KeepAlivePacket where
  client_id : ClientId
deriving DecidableEq, Repr

structure PayloadPacket where
  buf : Bytes
deriving DecidableEq, Repr

structure DisconnectPacket where
deriving DecidableEq, Repr

inductive Packet where
  | Request (packet : RequestPacket)
  | Denied (packet : DeniedPacket)
  | Challenge (packet : ChallengePacket)
  | Response (packet : ResponsePacket)
  | KeepAlive (packet : KeepAlivePacket)
  | Payload (packet : PayloadPacket)
  | Disconnect (packet : DisconnectPacket)
deriving DecidableEq, Repr

abbrev PacketKind := UInt8

namespace Packet

abbrev REQUEST : PacketKind := 0
abbrev DENIED : PacketKind := 1
abbrev CHALLENGE : PacketKind := 2
abbrev RESPONSE : PacketKind := 3
abbrev KEEP_ALIVE : PacketKind := 4
abbrev PAYLOAD : PacketKind := 5
abbrev DISCONNECT : PacketKind := 6

def kind : Packet → PacketKind
  | .Request _ => REQUEST
  | .Denied _ => DENIED
  | .Challenge _ => CHALLENGE
  | .Response _ => RESPONSE
  | .KeepAlive _ => KEEP_ALIVE
  | .Payload _ => PAYLOAD
  | .Disconnect _ => DISCONNECT

end Packet

namespace RequestPacket

def create (protocol_id expire_timestamp : UInt64) (token_nonce : XNonce)
    (token_data : Octets ConnectTokenPrivate.SIZE) : Packet :=
  .Request ⟨NETCODE_VERSION,protocol_id,expire_timestamp,token_nonce,token_data⟩

def validate (self : RequestPacket) (protocol_id current_timestamp : UInt64) : Except PacketError Unit :=
  if self.version_info ≠ NETCODE_VERSION then .error .BadVersion
  else if self.protocol_id ≠ protocol_id then .error (.BadProtocolId protocol_id self.protocol_id)
  else if self.expire_timestamp ≤ current_timestamp then .error .TokenExpired
  else .ok ()

/-- The private data are opened in place, and written back over themselves. -/
def decrypt_token_data (p : Platform) (self : RequestPacket) (private_key : Key) : Fallible Error RequestPacket := do
  let (decrypted,token_data) ← ConnectTokenPrivate.decrypt p self.token_data self.protocol_id self.expire_timestamp
    self.token_nonce private_key
  let token_data ← from_error .Io (returned (overwrite .WriteZero token_data decrypted.write_to))
  pure { self with token_data := token_data }

def write_to (self : RequestPacket) : Bytes :=
  List.flatten [self.version_info.val,write_u64 self.protocol_id,write_u64 self.expire_timestamp,self.token_nonce.val,
    self.token_data.val]

def read_from : Reader RequestPacket := do
  let version_info ← read_exact 13
  let protocol_id ← read_u64
  let expire_timestamp ← read_u64
  let token_nonce ← read_exact 24
  let token_data ← read_exact ConnectTokenPrivate.SIZE
  pure ⟨version_info,protocol_id,expire_timestamp,token_nonce,token_data⟩

end RequestPacket

/-! ### The bodies of the other packets -/

/-- The bytes of a `String`. -/
def as_bytes (reason : String) : Bytes := reason.toByteArray.data.toList

/-- `String::from_utf8` -/
def from_utf8 (bytes : Bytes) : Option String := String.fromUTF8? ⟨bytes.toArray⟩

theorem from_utf8_as_bytes (reason : String) : from_utf8 (as_bytes reason) = some reason := by
  unfold from_utf8 as_bytes String.fromUTF8?
  rw [Array.toArray_toList]
  exact dif_pos reason.isValidUTF8

namespace DeniedReason

def write_to : DeniedReason → Except IoError Bytes
  | .ServerFull => .ok (write_u8 0)
  | .Banned => .ok (write_u8 1)
  | .InternalError => .ok (write_u8 2)
  | .AlreadyConnected => .ok (write_u8 3)
  | .TokenAlreadyUsed => .ok (write_u8 4)
  | .InvalidToken => .ok (write_u8 5)
  | .Custom reason =>
    if (as_bytes reason).length > 255 then .error .InvalidData
    else .ok (List.flatten [write_u8 6,write_u8 (UInt8.ofNat (as_bytes reason).length),as_bytes reason])

/-- The text of a custom reason. -/
def read_custom : Reader DeniedReason := do
  let len ← read_u8
  let string_buf ← take .UnexpectedEof len.toNat
  match from_utf8 string_buf with
  | some reason => pure (.Custom reason)
  | none => throw .InvalidData

def read_from : Reader DeniedReason := do
  let variant ← read_u8
  if variant = 0 then pure .ServerFull
  else if variant = 1 then pure .Banned
  else if variant = 2 then pure .InternalError
  else if variant = 3 then pure .AlreadyConnected
  else if variant = 4 then pure .TokenAlreadyUsed
  else if variant = 5 then pure .InvalidToken
  else if variant = 6 then read_custom
  else throw .InvalidData

end DeniedReason

def DeniedPacket.create (reason : DeniedReason) : Packet := .Denied ⟨reason⟩

def DeniedPacket.write_to (self : DeniedPacket) : Except IoError Bytes := self.reason.write_to

def DeniedPacket.read_from : Reader DeniedPacket := do
  let reason ← DeniedReason.read_from
  pure ⟨reason⟩

def ChallengePacket.create (sequence : UInt64) (token : Octets ChallengeToken.SIZE) :
    Packet := .Challenge ⟨sequence,token⟩

def ChallengePacket.write_to (self : ChallengePacket) : Bytes := List.flatten [write_u64 self.sequence,self.token.val]

def ChallengePacket.read_from : Reader ChallengePacket := do
  let sequence ← read_u64
  let token ← read_exact ChallengeToken.SIZE
  pure ⟨sequence,token⟩

def ResponsePacket.create (sequence : UInt64) (token : Octets ChallengeToken.SIZE) :
    Packet := .Response ⟨sequence,token⟩

def ResponsePacket.write_to (self : ResponsePacket) : Bytes := List.flatten [write_u64 self.sequence,self.token.val]

def ResponsePacket.read_from : Reader ResponsePacket := do
  let sequence ← read_u64
  let token ← read_exact ChallengeToken.SIZE
  pure ⟨sequence,token⟩

def KeepAlivePacket.create (client_id : ClientId) : Packet := .KeepAlive ⟨client_id⟩

def KeepAlivePacket.write_to (self : KeepAlivePacket) : Bytes := write_u64 self.client_id

def KeepAlivePacket.read_from : Reader KeepAlivePacket := do
  let client_id ← read_u64
  pure ⟨client_id⟩

def DisconnectPacket.create : Packet := .Disconnect ⟨⟩

def DisconnectPacket.write_to (_self : DisconnectPacket) : Bytes := []

def DisconnectPacket.read_from : Reader DisconnectPacket := pure ⟨⟩

/-- `u64::leading_zeros` -/
def leading_zeros (n : UInt64) : Nat := if n = 0 then 64 else 63 - Nat.log2 n.toNat

def sequence_len (sequence : UInt64) : Nat := max (8 - leading_zeros sequence / 8) 1

def write_sequence (sequence : UInt64) : Bytes :=
  (List.range (sequence_len sequence)).map
    (fun shift => ((sequence >>> UInt64.ofNat (shift * 8)) &&& 0xFF).toUInt8)

/-- The slice `..sequence_len` of eight zero bytes is read; there is none past the eighth. -/
def read_sequence (bytes : Bytes) (sequence_len : Nat) : Fallible Error UInt64 :=
  if sequence_len > 8 then .error (.Panic .Index)
  else if bytes.length < sequence_len then .error (.Err (.Io .UnexpectedEof))
  else .ok (UInt64.ofNat (ofLE (bytes.take sequence_len)))

namespace Packet

/-- `Packet::prefix` -/
def prefix_byte (kind : PacketKind) (sequence : UInt64) : UInt8 := UInt8.ofNat (sequence_len sequence) <<< 4 ||| kind

def aead (protocol_id : UInt64) (prefix_byte : UInt8) : Bytes :=
  List.flatten [NETCODE_VERSION.val,write_u64 protocol_id,write_u8 prefix_byte]

def get_prefix (prefix_byte : UInt8) : Nat × PacketKind := ((prefix_byte >>> 4).toNat,prefix_byte &&& 0xF)

/-- Every caller writes to `[0u8; MAX_PKT_BUF_SIZE]`. What is written is returned. -/
def write_encrypted (p : Platform) (kind : PacketKind) (sequence : UInt64) (packet_key : Key) (protocol_id : UInt64)
    (write_body : Except IoError Bytes) : Fallible Error Bytes := do
  let body ← from_error .Io (returned write_body)
  let head := write_u8 (prefix_byte kind sequence) ++ write_sequence sequence
  if head.length + body.length > MAX_PKT_BUF_SIZE then throw (.Err (.Io .WriteZero))
  else if head.length + body.length > MAX_PKT_BUF_SIZE - MAC_BYTES then throw (.Err (.Packet .TooLarge))
  else do
    let encrypted ← from_error .Crypto (returned (chacha_encrypt p
      (⟨body ++ (zeros MAC_BYTES).val,rfl⟩ : Octets (body ++ (zeros MAC_BYTES).val).length)
      (aead protocol_id (prefix_byte kind sequence)) sequence packet_key))
    pure (head ++ encrypted.val)

/-- What `write` hands to `write_encrypted`; a request never gets there. -/
def write_body : Packet → Except IoError Bytes
  | .Denied pkt => pkt.write_to
  | .Challenge pkt => .ok pkt.write_to
  | .Response pkt => .ok pkt.write_to
  | .KeepAlive pkt => .ok pkt.write_to
  | .Disconnect pkt => .ok pkt.write_to
  | .Payload pkt => .ok pkt.buf
  | .Request pkt => .ok pkt.write_to

def write (p : Platform) (self : Packet) (sequence : UInt64) (packet_key : Key) (protocol_id : UInt64) :
    Fallible Error Bytes :=
  match self with
  | .Request pkt =>
    if (write_u8 REQUEST ++ pkt.write_to).length > MAX_PKT_BUF_SIZE then .error (.Err (.Io .WriteZero))
    else .ok (write_u8 REQUEST ++ pkt.write_to)
  | packet => write_encrypted p packet.kind sequence packet_key protocol_id packet.write_body

def write_payload (p : Platform) (payload : Bytes) (sequence : UInt64) (packet_key : Key) (protocol_id : UInt64) :
    Fallible Error Bytes :=
  write_encrypted p PAYLOAD sequence packet_key protocol_id (.ok payload)

/-! ### Reading -/

/-- The check of the mask, which only logs. -/
def check_allowed (allowed_packets : UInt8) (pkt_kind : PacketKind) : Fallible Error Unit := do
  let bit ← shift_left 1 pkt_kind
  if allowed_packets &&& bit = 0 then pure () -- debug!("ignoring packet of type {}, not allowed", pkt_kind)
  else pure ()

/-- The connection request behind a first byte of 0. -/
def read_request (p : Platform) (body : Bytes) (protocol_id timestamp : UInt64) (key : Key) :
    Fallible Error Packet := do
  let packet ← from_error .Io (returned (parse RequestPacket.read_from body))
  from_error .Packet (returned (packet.validate protocol_id timestamp))
  let packet ← packet.decrypt_token_data p key
  pure (.Request packet)

/-- Whether replay protection applies and knows the sequence number. -/
def already_received (replay_protection : Option ReplayProtection) (pkt_kind : PacketKind) (sequence : UInt64) :
    Fallible Error Bool :=
  match replay_protection with
  | some replay_protection =>
    if pkt_kind ≥ KEEP_ALIVE then replay_protection.is_already_received sequence else .ok false
  | none => .ok false

/-- The sequence number and the decrypted suffix, tag included, behind the first byte. -/
def decrypt_suffix (p : Platform) (prefix_byte : UInt8) (rest : Bytes) (protocol_id : UInt64) (key : Key)
    (replay_protection : Option ReplayProtection) : Fallible Error (UInt64 × Bytes) :=
  let (sequence_len,pkt_kind) := get_prefix prefix_byte
  if 1 + rest.length < 1 + sequence_len + MAC_BYTES then throw (.Err (.Packet .TooSmall))
  else do
    let sequence ← read_sequence rest sequence_len
    let received ← already_received replay_protection pkt_kind sequence
    if received then throw (.Err (.Packet (.AlreadyReceived sequence)))
    else do
      let suffix ← from_error .Crypto (chacha_decrypt p
        (⟨rest.drop sequence_len,rfl⟩ : Octets (rest.drop sequence_len).length)
          (aead protocol_id prefix_byte) sequence key)
      pure (sequence,suffix.val)

/-- The packet in a decrypted suffix. A payload ends where its tag starts. -/
def read_body (pkt_kind : PacketKind) (suffix : Bytes) : Fallible Error Packet :=
  if pkt_kind = REQUEST then (from_error .Io (returned (parse RequestPacket.read_from suffix))).map .Request
  else if pkt_kind = DENIED then (from_error .Io (returned (parse DeniedPacket.read_from suffix))).map .Denied
  else if pkt_kind = CHALLENGE then (from_error .Io (returned (parse ChallengePacket.read_from suffix))).map .Challenge
  else if pkt_kind = RESPONSE then (from_error .Io (returned (parse ResponsePacket.read_from suffix))).map .Response
  else if pkt_kind = KEEP_ALIVE then (from_error .Io (returned (parse KeepAlivePacket.read_from suffix))).map .KeepAlive
  else if pkt_kind = DISCONNECT then
    (from_error .Io (returned (parse DisconnectPacket.read_from suffix))).map .Disconnect
  else if pkt_kind = PAYLOAD then .ok (.Payload ⟨suffix.take (suffix.length - MAC_BYTES)⟩)
  else .error (.Err (.Packet (.InvalidType pkt_kind)))

/-- The window after an accepted sequence number. -/
def advance (pkt_kind : PacketKind) (sequence : UInt64) (replay_protection : Option ReplayProtection) :
    Option ReplayProtection :=
  if pkt_kind ≥ KEEP_ALIVE then replay_protection.map (·.advance_sequence sequence) else replay_protection

/-- An encrypted packet. The window is advanced even if the body turns out to be invalid. -/
def read_encrypted (p : Platform) (prefix_byte : UInt8) (rest : Bytes) (protocol_id : UInt64) (key : Key) :
    Call Error (Option ReplayProtection) Packet := do
  let replay_protection ← get
  let (sequence,suffix) ← lift (decrypt_suffix p prefix_byte rest protocol_id key replay_protection)
  modify (advance ( get_prefix prefix_byte).2 sequence)
  lift (read_body ( get_prefix prefix_byte).2 suffix)

def read (p : Platform) (buf : Bytes) (protocol_id timestamp : UInt64) (key : Key) (allowed_packets : UInt8) :
    Call Error (Option ReplayProtection) Packet :=
  match buf with
  | [] => throw (.Err (.Packet .TooSmall))
  | prefix_byte :: rest =>
    if 1 + rest.length > MAX_PKT_BUF_SIZE then throw (.Err (.Packet .TooLarge))
    else do
      lift (check_allowed allowed_packets ( get_prefix prefix_byte).2)
      if prefix_byte = REQUEST then lift (read_request p rest protocol_id timestamp key)
      else read_encrypted p prefix_byte rest protocol_id key

end Packet

end Lightyear.Netcode
