import Lightyear.Calls
import Lightyear.Codec
import Mathlib.Data.UInt

/-!
`crypto.rs`, and the constants and errors of the netcode crate. The ciphers of the
chacha20poly1305 crate are not part of the repository: they are parameters, with what is
relied on as named properties. So is the `std` feature, without which a datagram that does
not authenticate is a panic.
-/
namespace Lightyear.Netcode
open Calls Codec

abbrev Bytes := List UInt8
abbrev ClientId := UInt64

abbrev MAC_BYTES : Nat := 16
abbrev MAX_PKT_BUF_SIZE : Nat := 1300
abbrev PRIVATE_KEY_BYTES : Nat := 32
abbrev USER_DATA_BYTES : Nat := 256
abbrev CONNECT_TOKEN_BYTES : Nat := 2048
abbrev MAX_PACKET_SIZE : Nat := 1200

/-- `b"NETCODE 1.02\0"` -/
def NETCODE_VERSION : Octets 13 := ⟨[78,69,84,67,79,68,69,32,49,46,48,50,0],rfl⟩

abbrev Key := Octets PRIVATE_KEY_BYTES
abbrev XNonce := Octets 24
abbrev UserData := Octets USER_DATA_BYTES
abbrev Tag := Octets MAC_BYTES

/-- `io::Error`, by its kind. -/
inductive IoError where
  | UnexpectedEof
  | WriteZero
  | InvalidData
  | Other
deriving DecidableEq, Repr

inductive CryptoError where
  | Io (error : IoError)
  | BufferSizeMismatch
  | Failed
  | GenerateKey
deriving DecidableEq, Repr

inductive InvalidTokenError where
  | AddressListLength (len : Nat)
  | InvalidIpAddressType (addr_type : UInt8)
  | InvalidTimestamp
  | InvalidVersion
  | Io (error : IoError)
deriving DecidableEq, Repr

inductive PacketError where
  | InvalidType (kind : UInt8)
  | InvalidSequenceBytes (bytes : UInt8)
  | TooSmall
  | TooLarge
  | LengthMismatch (expected actual : Nat)
  | BadVersion
  | BadProtocolId (expected actual : UInt64)
  | TokenExpired
  | AlreadyReceived (sequence : UInt64)
  | InvalidPayload
deriving DecidableEq, Repr

/-- An entity of the ECS. -/
structure Entity where
  bits : UInt64
deriving DecidableEq, Repr

/-- `Error` of the crate. Clients are named by `PeerId::Netcode(id)`. -/
inductive Error where
  | SizeMismatch (expected actual : Nat)
  | ClientNotFound (id : ClientId)
  | EntityNotFound (entity : Entity)
  | ClientNotConnected (id : ClientId)
  | InvalidConnectToken
  | ConnectTokenInUse (id : ClientId)
  | ConnectTokenEncryptionFailure (id : ClientId)
  | ConnectTokenDecryptionFailure
  | UnindexableConnectToken
  | AddressParseError
  | ClientEntityInUse (entity : Entity)
  | ClientIdInUse (id : ClientId)
  | UnknownClient (id : ClientId)
  | ServerIsFull (id : ClientId)
  | Denied (id : ClientId)
  | Ignored (entity : Entity)
  | SystemTime
  | InvalidToken (error : InvalidTokenError)
  | Crypto (error : CryptoError)
  | Packet (error : PacketError)
  | Io (error : IoError)
  | Connection
deriving DecidableEq, Repr

/-- A cipher with associated data, which works in place and so keeps the length of its buffer.
    It never fails to encrypt buffers as short as the ones here. -/
structure Cipher (nonce_bytes : Nat) where
  encrypt_in_place_detached : Key → Octets nonce_bytes → Bytes → Bytes → Bytes × Tag
  decrypt_in_place_detached : Key → Octets nonce_bytes → Bytes → Bytes → Tag → Option Bytes
  length_encrypt : ∀ key nonce associated_data buffer,
    (encrypt_in_place_detached key nonce associated_data buffer).1.length = buffer.length
  length_decrypt : ∀ key nonce associated_data buffer tag plain,
    decrypt_in_place_detached key nonce associated_data buffer tag = some plain → plain.length = buffer.length

section
variable {n : Nat}

/-- Decryption inverts encryption under the same key, nonce and associated data. -/
def Cipher.Inverts (cipher : Cipher n) : Prop :=
  ∀ key nonce associated_data plain,
    cipher.decrypt_in_place_detached key nonce associated_data
      (cipher.encrypt_in_place_detached key nonce associated_data plain).1
      (cipher.encrypt_in_place_detached key nonce associated_data plain).2 = some plain

/-- With one key, only what was sealed under a nonce and associated data is accepted there. -/
def Cipher.Rejects (cipher : Cipher n) (key : Key) (was_sealed : Octets n → Bytes → Bytes → Prop) : Prop :=
  ∀ nonce associated_data buffer tag plain,
    cipher.decrypt_in_place_detached key nonce associated_data buffer tag = some plain →
      was_sealed nonce associated_data plain

/-- The tag of a plaintext. -/
def mac_of (cipher : Cipher n) (plain associated_data : Bytes) (nonce : Octets n) (key : Key) : Tag :=
  (cipher.encrypt_in_place_detached key nonce associated_data plain).2

/-- The ciphertext of a plaintext with its tag. -/
def sealed (cipher : Cipher n) (plain associated_data : Bytes) (nonce : Octets n) (key : Key) : Bytes :=
  (cipher.encrypt_in_place_detached key nonce associated_data plain).1 ++
    (mac_of cipher plain associated_data nonce key).val

@[simp] theorem length_sealed (cipher : Cipher n) (plain associated_data : Bytes) (nonce : Octets n) (key : Key) :
    (sealed cipher plain associated_data nonce key).length = plain.length + MAC_BYTES := by
  rw [sealed,List.length_append,cipher.length_encrypt,(mac_of cipher plain associated_data nonce key).property]

/-- The last `MAC_BYTES` of the buffer are room for the tag. -/
def encrypt (cipher : Cipher n) {size : Nat} (buf : Octets size) (associated_data : Bytes) (nonce : Octets n)
    (key : Key) : Except CryptoError (Octets size) :=
  if short : size < MAC_BYTES then .error .BufferSizeMismatch
  else .ok ⟨sealed cipher (buf.val.take (size - MAC_BYTES)) associated_data nonce key,by
    rw [length_sealed,List.length_take,buf.property]; omega⟩

/-- A buffer that does not authenticate: `res?`, or `res.expect(..)` without `std`. -/
def rejected (std : Bool) : Failure CryptoError := if std then .Err .Failed else .Panic .Expect

/-- The tag stays behind what was decrypted. -/
def decrypt (std : Bool) (cipher : Cipher n) {size : Nat} (buf : Octets size) (associated_data : Bytes)
    (nonce : Octets n) (key : Key) : Fallible CryptoError (Octets size) :=
  if short : size < MAC_BYTES then .error (.Err .BufferSizeMismatch)
  else
    match accepted : cipher.decrypt_in_place_detached key nonce associated_data (buf.val.take (size - MAC_BYTES))
        ⟨buf.val.drop (size - MAC_BYTES),by rw [List.length_drop,buf.property]; omega⟩ with
    | some plain => .ok ⟨plain ++ buf.val.drop (size - MAC_BYTES),by
        rw [List.length_append,cipher.length_decrypt _ _ _ _ _ _ accepted,← List.length_append,List.take_append_drop,
          buf.property]⟩
    | none => .error (rejected std)

/-! ### What is sealed can be opened -/

section
variable {cipher : Cipher n} {size : Nat} {buf opened : Octets size} {associated_data plain : Bytes} {nonce : Octets n}
  {key : Key} {std : Bool}

theorem encrypt_ok (cipher : Cipher n) (associated_data : Bytes) (nonce : Octets n) (key : Key) {room : Bytes}
    (enough : room.length = MAC_BYTES) (isBuf : buf.val = plain ++ room) :
    ∃ out, encrypt cipher buf associated_data nonce key = .ok out ∧
      out.val = sealed cipher plain associated_data nonce key := by
  have total : size = plain.length + MAC_BYTES := by rw [← buf.property,isBuf,List.length_append,enough]
  refine ⟨_,dif_neg (by omega),?_⟩
  have front : buf.val.take (size - MAC_BYTES) = plain := by
    rw [show size - MAC_BYTES = plain.length by omega,isBuf,List.take_left]
  dsimp only
  rw [front]

theorem decrypt_ok (ok : decrypt std cipher buf associated_data nonce key = .ok opened) :
    ∃ (front plain : Bytes) (mac : Tag), buf.val = front ++ mac.val ∧ opened.val = plain ++ mac.val ∧
      cipher.decrypt_in_place_detached key nonce associated_data front mac = some plain := by
  unfold decrypt at ok
  split at ok
  · cases ok
  · split at ok
    · next plain accepted =>
      cases ok
      exact ⟨_,plain,_,(List.take_append_drop _ buf.val).symm,rfl,accepted⟩
    · cases ok

theorem decrypt_of_accepted {front : Bytes} {mac : Tag} (isBuf : buf.val = front ++ mac.val)
    (accepted : cipher.decrypt_in_place_detached key nonce associated_data front mac = some plain) :
    ∃ opened, decrypt std cipher buf associated_data nonce key = .ok opened ∧ opened.val = plain ++ mac.val := by
  have total : size = front.length + MAC_BYTES := by rw [← buf.property,isBuf,List.length_append,mac.property]
  have room : size - MAC_BYTES = front.length := by omega
  have atFront : buf.val.take (size - MAC_BYTES) = front := by rw [room,isBuf,List.take_left]
  have behind : buf.val.drop (size - MAC_BYTES) = mac.val := by rw [room,isBuf,List.drop_left]
  unfold decrypt
  rw [dif_neg (by omega)]
  split
  · next found isPlain =>
    simp only [atFront,behind] at isPlain
    cases isPlain.symm.trans accepted
    exact ⟨_,rfl,congrArg _ behind⟩
  · next refused =>
    simp only [atFront,behind] at refused
    cases refused.symm.trans accepted

/-- What was sealed is opened, with its tag behind it. -/
theorem decrypt_sealed (std : Bool) (inverts : cipher.Inverts)
    (isBuf : buf.val = sealed cipher plain associated_data nonce key) :
    ∃ opened, decrypt std cipher buf associated_data nonce key = .ok opened ∧
      opened.val = plain ++ (mac_of cipher plain associated_data nonce key).val :=
  decrypt_of_accepted isBuf (inverts key nonce associated_data plain)

/-- Decryption panics only without `std`, on what does not authenticate. -/
theorem decrypt_panic_iff {panic : Panic} :
    decrypt std cipher buf associated_data nonce key = .error (.Panic panic) ↔
      panic = .Expect ∧ std = false ∧ MAC_BYTES ≤ size ∧
        ∀ opened, decrypt true cipher buf associated_data nonce key ≠ .ok opened := by
  unfold decrypt
  by_cases short : size < MAC_BYTES
  · rw [dif_pos short,dif_pos short]
    simp [not_le.mpr short]
  · rw [dif_neg short,dif_neg short]
    split
    · simp
    · cases std <;> simp [rejected,eq_comm,not_lt.mp short]

end

end

/-- What the crate is compiled with. -/
structure Platform where
  chacha20poly1305 : Cipher 12
  xchacha20poly1305 : Cipher 24
  std : Bool

/-- The sequence number behind four zero bytes. -/
def final_nonce (nonce : UInt64) : Octets 12 := ⟨[0,0,0,0] ++ toBE 8 nonce.toNat,by simp⟩

section
variable (p : Platform) {size : Nat} (buf : Octets size) (associated_data : Bytes)

def chacha_encrypt (nonce : UInt64) (key : Key) : Except CryptoError (Octets size) :=
  encrypt p.chacha20poly1305 buf associated_data (final_nonce nonce) key

def chacha_decrypt (nonce : UInt64) (key : Key) : Fallible CryptoError (Octets size) :=
  decrypt p.std p.chacha20poly1305 buf associated_data (final_nonce nonce) key

def xchacha_encrypt (nonce : XNonce) (key : Key) : Except CryptoError (Octets size) :=
  encrypt p.xchacha20poly1305 buf associated_data nonce key

def xchacha_decrypt (nonce : XNonce) (key : Key) : Fallible CryptoError (Octets size) :=
  decrypt p.std p.xchacha20poly1305 buf associated_data nonce key

end

/-- The tag of `Cipher.shift`. -/
def shift_tag {n : Nat} (key : Key) (nonce : Octets n) (associated_data : Bytes) : Tag :=
  ⟨(key.val.take MAC_BYTES).map (· + (nonce.val ++ associated_data).sum),by
    rw [List.length_map,List.length_take,key.property]; rfl⟩

/-- A simple cipher, which adds one to every byte. Its tag tells keys, nonces and associated data apart,
    if not all of them. -/
def Cipher.shift (n : Nat) : Cipher n where
  encrypt_in_place_detached key nonce associated_data buffer :=
    (buffer.map (· + 1),shift_tag key nonce associated_data)
  decrypt_in_place_detached key nonce associated_data buffer tag :=
    if tag = shift_tag key nonce associated_data then some (buffer.map (· - 1)) else none
  length_encrypt _ _ _ buffer := List.length_map _
  length_decrypt key nonce associated_data buffer tag plain accepted := by
    split at accepted
    · cases accepted
      exact List.length_map _
    · cases accepted

theorem Cipher.shift_inverts (n : Nat) : (Cipher.shift n).Inverts := by
  intro key nonce associated_data plain
  simp [Cipher.shift,Function.comp_def]

def Platform.shift : Platform := ⟨Cipher.shift 12,Cipher.shift 24,true⟩

end Lightyear.Netcode
