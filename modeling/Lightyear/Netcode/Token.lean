import Lightyear.Netcode.Integers

/-!
`token.rs`: connect tokens with their public and private half, and challenge tokens.
-/
namespace Lightyear.Netcode
open Calls Codec

abbrev MAX_SERVERS_PER_CONNECT : Nat := 32
abbrev CONNECTION_TIMEOUT_SEC : Int32 := 15
abbrev TOKEN_EXPIRE_SEC : Int32 := 30

/-- `SocketAddr` -/
inductive SocketAddr where
  | V4 (ip : Octets 4) (port : UInt16)
  | V6 (ip : Octets 16) (port : UInt16) (flowinfo scope_id : UInt32)
deriving DecidableEq, Repr

/-- A free list from which nothing is removed. -/
structure AddressList where
  addrs : List SocketAddr
  bounded : addrs.length ≤ MAX_SERVERS_PER_CONNECT
deriving DecidableEq, Repr

def IPV4 : UInt8 := 1
def IPV6 : UInt8 := 2

/-- The address without what has no place in the format. -/
def SocketAddr.unscoped : SocketAddr → SocketAddr
  | .V4 ip port => .V4 ip port
  | .V6 ip port _ _ => .V6 ip port 0 0

def SocketAddr.write_to : SocketAddr → Bytes
  | .V4 ip port => List.flatten [write_u8 IPV4,ip.val,write_u16 port]
  | .V6 ip port _ _ => List.flatten [write_u8 IPV6,ip.val,write_u16 port]

def SocketAddr.read_from : Parser InvalidTokenError SocketAddr := do
  let addr_type ← mapErr .Io read_u8
  if addr_type = IPV4 then do
    let octets ← mapErr .Io (read_exact 4)
    let port ← mapErr .Io read_u16
    pure (.V4 octets port)
  else if addr_type = IPV6 then do
    let octets ← mapErr .Io (read_exact 16)
    let port ← mapErr .Io read_u16
    pure (.V6 octets port 0 0)
  else throw (.InvalidIpAddressType addr_type)

namespace AddressList

/-- The resolved addresses, up to the longest list. -/
def new (addrs : List SocketAddr) : AddressList :=
  ⟨addrs.take MAX_SERVERS_PER_CONNECT,by rw [List.length_take]; exact Nat.min_le_left _ _⟩

def len (self : AddressList) : Nat := self.addrs.length

def unscoped (self : AddressList) : AddressList :=
  ⟨self.addrs.map SocketAddr.unscoped,by rw [List.length_map]; exact self.bounded⟩

def write_to (self : AddressList) : Bytes :=
  List.flatten [write_u32 (UInt32.ofNat self.len),self.addrs.flatMap SocketAddr.write_to]

/-- The loop of `read_from`. -/
def read_addrs : (count : Nat) → Parser InvalidTokenError { addrs : List SocketAddr // addrs.length = count }
  | 0 => pure ⟨[],rfl⟩
  | count + 1 => do
    let addr ← SocketAddr.read_from
    let rest ← read_addrs count
    pure ⟨addr :: rest.val,congrArg (· + 1) rest.property⟩

def read_from : Parser InvalidTokenError AddressList := do
  let len ← mapErr .Io read_u32
  if inside : 1 ≤ len.toNat ∧ len.toNat ≤ MAX_SERVERS_PER_CONNECT then do
    let addrs ← read_addrs len.toNat
    pure ⟨addrs.val,by rw [addrs.property]; exact inside.2⟩
  else throw (.AddressListLength len.toNat)

end AddressList

structure ConnectTokenPrivate where
  client_id : UInt64
  timeout_seconds : Int32
  server_addresses : AddressList
  client_to_server_key : Key
  server_to_client_key : Key
  user_data : UserData
deriving DecidableEq, Repr

namespace ConnectTokenPrivate

abbrev SIZE : Nat := 1024

def aead (protocol_id expire_timestamp : UInt64) : Bytes :=
  List.flatten [NETCODE_VERSION.val,write_u64 protocol_id,write_u64 expire_timestamp]

def write_to (self : ConnectTokenPrivate) : Bytes :=
  List.flatten [write_u64 self.client_id,write_i32 self.timeout_seconds,self.server_addresses.write_to,
    self.client_to_server_key.val,self.server_to_client_key.val,self.user_data.val]

def read_from : Reader ConnectTokenPrivate := do
  let client_id ← read_u64
  let timeout_seconds ← read_i32
  let server_addresses ← mapErr (fun _ => .Other) AddressList.read_from
  let client_to_server_key ← read_exact PRIVATE_KEY_BYTES
  let server_to_client_key ← read_exact PRIVATE_KEY_BYTES
  let user_data ← read_exact USER_DATA_BYTES
  pure ⟨client_id,timeout_seconds,server_addresses,client_to_server_key,server_to_client_key,user_data⟩

def encrypt (p : Platform) (self : ConnectTokenPrivate) (protocol_id expire_timestamp : UInt64) (nonce : XNonce)
    (private_key : Key) : Fallible Error (Octets SIZE) := do
  let buf ← from_error .Io (returned (fill .WriteZero SIZE self.write_to))
  from_error .Crypto (returned (xchacha_encrypt p buf (aead protocol_id expire_timestamp) nonce private_key))

/-- Also returns the buffer, which was decrypted in place. -/
def decrypt (p : Platform) (encrypted : Octets SIZE) (protocol_id expire_timestamp : UInt64) (nonce : XNonce)
    (private_key : Key) : Fallible Error (ConnectTokenPrivate × Octets SIZE) := do
  let decrypted ← from_error .Crypto
    (xchacha_decrypt p encrypted (aead protocol_id expire_timestamp) nonce private_key)
  let token ← from_error .Io (returned (parse read_from decrypted.val))
  pure (token,decrypted)

end ConnectTokenPrivate

structure ChallengeToken where
  client_id : UInt64
  user_data : UserData
deriving DecidableEq, Repr

namespace ChallengeToken

abbrev SIZE : Nat := 300

def write_to (self : ChallengeToken) : Bytes := List.flatten [write_u64 self.client_id,self.user_data.val]

def read_from : Reader ChallengeToken := do
  let client_id ← read_u64
  let user_data ← read_exact USER_DATA_BYTES
  pure ⟨client_id,user_data⟩

def encrypt (p : Platform) (self : ChallengeToken) (sequence : UInt64) (private_key : Key) :
    Fallible Error (Octets SIZE) := do
  let buf ← from_error .Io (returned (fill .WriteZero SIZE self.write_to))
  from_error .Crypto (returned (chacha_encrypt p buf [] sequence private_key))

def decrypt (p : Platform) (encrypted : Octets SIZE) (sequence : UInt64) (private_key : Key) :
    Fallible Error ChallengeToken := do
  let decrypted ← from_error .Crypto (chacha_decrypt p encrypted [] sequence private_key)
  from_error .Io (returned (parse read_from decrypted.val))

end ChallengeToken

/-! ### Connect tokens -/

structure ConnectToken where
  version_info : Octets 13
  protocol_id : UInt64
  create_timestamp : UInt64
  expire_timestamp : UInt64
  nonce : XNonce
  private_data : Octets ConnectTokenPrivate.SIZE
  timeout_seconds : Int32
  server_addresses : AddressList
  client_to_server_key : Key
  server_to_client_key : Key
deriving DecidableEq, Repr

namespace ConnectToken

abbrev SIZE : Nat := 2048

def write_to (self : ConnectToken) : Bytes :=
  List.flatten [self.version_info.val,write_u64 self.protocol_id,write_u64 self.create_timestamp,
    write_u64 self.expire_timestamp,self.nonce.val,self.private_data.val,write_i32 self.timeout_seconds,
    self.server_addresses.write_to,self.client_to_server_key.val,self.server_to_client_key.val]

def read_from : Parser InvalidTokenError ConnectToken := do
  let version_info ← mapErr .Io (read_exact 13)
  if version_info ≠ NETCODE_VERSION then throw .InvalidVersion
  else do
    let protocol_id ← mapErr .Io read_u64
    let create_timestamp ← mapErr .Io read_u64
    let expire_timestamp ← mapErr .Io read_u64
    if create_timestamp > expire_timestamp then throw .InvalidTimestamp
    else do
      let nonce ← mapErr .Io (read_exact 24)
      let private_data ← mapErr .Io (read_exact ConnectTokenPrivate.SIZE)
      let timeout_seconds ← mapErr .Io read_i32
      let server_addresses ← AddressList.read_from
      let client_to_server_key ← mapErr .Io (read_exact PRIVATE_KEY_BYTES)
      let server_to_client_key ← mapErr .Io (read_exact PRIVATE_KEY_BYTES)
      pure ⟨version_info,protocol_id,create_timestamp,expire_timestamp,nonce,private_data,timeout_seconds,
        server_addresses,client_to_server_key,server_to_client_key⟩

def try_into_bytes (self : ConnectToken) : Except IoError (Octets CONNECT_TOKEN_BYTES) :=
  fill .Other CONNECT_TOKEN_BYTES self.write_to

def try_from_bytes (bytes : Bytes) : Except InvalidTokenError ConnectToken := parse read_from bytes

end ConnectToken

/-- The public addresses are given resolved. -/
structure ConnectTokenBuilder where
  protocol_id : UInt64
  client_id : UInt64
  expire_seconds : Int32
  private_key : Key
  timeout_seconds : Int32
  public_server_addresses : List SocketAddr
  internal_server_addresses : Option AddressList
  user_data : UserData
deriving DecidableEq, Repr

/-- When a token generated now expires. -/
def ConnectTokenBuilder.expire_timestamp (self : ConnectTokenBuilder) (now : UInt64) : Fallible Error UInt64 :=
  if self.expire_seconds < 0 then .ok 0xFFFFFFFFFFFFFFFF
  else checked_add now (UInt64.ofNat self.expire_seconds.toInt.toNat)

/-- The clock and the random numbers are given. -/
def ConnectTokenBuilder.generate (p : Platform) (self : ConnectTokenBuilder) (now : UInt64)
    (client_to_server_key server_to_client_key : Key) (nonce : XNonce) : Fallible Error ConnectToken := do
  let expire_timestamp ← self.expire_timestamp now
  let public_server_addresses := AddressList.new self.public_server_addresses
  let internal_server_addresses := self.internal_server_addresses.getD public_server_addresses
  let private_data ← ConnectTokenPrivate.encrypt p
    ⟨self.client_id,self.timeout_seconds,internal_server_addresses,client_to_server_key,server_to_client_key,
      self.user_data⟩ self.protocol_id expire_timestamp nonce self.private_key
  pure ⟨NETCODE_VERSION,self.protocol_id,now,expire_timestamp,nonce,private_data,self.timeout_seconds,
    public_server_addresses,client_to_server_key,server_to_client_key⟩

end Lightyear.Netcode
