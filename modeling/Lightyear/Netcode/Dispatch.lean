import Lightyear.Netcode.Client
import Lightyear.Netcode.ServerTables

/-!
What gets from a datagram to the handlers. A plain request is checked and its token opened,
but an encrypted packet may hold a request too, and nothing is filtered by kind.
-/
namespace Lightyear.Netcode
open Calls Codec Runs

theorem RequestPacket.validate_ok_iff {self : RequestPacket} {protocol_id timestamp : UInt64} :
    self.validate protocol_id timestamp = .ok () ↔
      self.version_info = NETCODE_VERSION ∧ self.protocol_id = protocol_id ∧ timestamp < self.expire_timestamp := by
  unfold validate
  split
  · next version => simp [version]
  · next version =>
    split
    · next protocol => simp [protocol]
    · next protocol =>
      split
      · next expired => simp [UInt64.not_lt.mpr expired]
      · next unexpired => exact iff_of_true rfl ⟨not_not.mp version,not_not.mp protocol,UInt64.not_le.mp unexpired⟩

namespace Packet

/-- A plain request for this protocol that is not expired, and whose token is opened under the values it holds. -/
structure Authenticated (p : Platform) (buf : Bytes) (protocol_id timestamp : UInt64) (private_key : Key)
    (sent : RequestPacket) (token_data : Octets ConnectTokenPrivate.SIZE) : Prop where
  isRequest : ∃ rest, buf = REQUEST :: rest ∧ parse RequestPacket.read_from rest = .ok sent
  version : sent.version_info = NETCODE_VERSION
  protocol : sent.protocol_id = protocol_id
  unexpired : timestamp < sent.expire_timestamp
  opened : ∃ token, ConnectTokenPrivate.decrypt p sent.token_data protocol_id sent.expire_timestamp sent.token_nonce
    private_key = .ok (token,token_data)

/-- A request is only returned with a token that was opened. -/
def RequestsAuthenticated (p : Platform) (buf : Bytes) (protocol_id timestamp : UInt64) (private_key : Key)
    (allowed_packets : UInt8) (replay_protection : Option ReplayProtection) : Prop :=
  ∀ request replay', read p buf protocol_id timestamp private_key allowed_packets replay_protection =
    .ok (.Request request) replay' →
      ∃ sent, Authenticated p buf protocol_id timestamp private_key sent request.token_data ∧
        request = { sent with token_data := request.token_data }

/-- An encrypted packet that holds a request. -/
def SealedRequest (p : Platform) (buf : Bytes) (protocol_id : UInt64) (key : Key)
    (replay_protection : Option ReplayProtection) : Prop :=
  ∃ prefix_byte rest suffix request, Framed buf prefix_byte rest ∧ prefix_byte ≠ REQUEST ∧
    kind_of prefix_byte = REQUEST ∧ Opens p prefix_byte rest protocol_id key replay_protection suffix ∧
    parse RequestPacket.read_from suffix = .ok request

section
variable {p : Platform} {buf rest suffix : Bytes} {protocol_id timestamp : UInt64} {key : Key} {allowed_packets : UInt8}
  {replay_protection : Option ReplayProtection}

theorem read_plain_request_iff {packet : Packet} :
    read_request p rest protocol_id timestamp key = .ok packet ↔
      ∃ sent token_data, Authenticated p (REQUEST :: rest) protocol_id timestamp key sent token_data ∧
        packet = .Request { sent with token_data } := by
  rw [read_request_ok_iff]
  constructor
  · rintro ⟨sent,opened,parsed,valid,isOpened,rfl⟩
    obtain ⟨version,rfl,unexpired⟩ := RequestPacket.validate_ok_iff.mp valid
    obtain ⟨token,token_data,isToken,rfl⟩ := RequestPacket.decrypt_token_data_ok_iff.mp isOpened
    exact ⟨sent,token_data,⟨⟨rest,rfl,parsed⟩,version,rfl,unexpired,token,isToken⟩,rfl⟩
  · rintro ⟨sent,token_data,⟨⟨_,isBuf,parsed⟩,version,rfl,unexpired,token,isToken⟩,rfl⟩
    cases isBuf
    exact ⟨sent,_,parsed,RequestPacket.validate_ok_iff.mpr ⟨version,rfl,unexpired⟩,
      RequestPacket.decrypt_token_data_ok_iff.mpr ⟨token,token_data,isToken,rfl⟩,rfl⟩

theorem read_body_request {request : RequestPacket} :
    read_body REQUEST suffix = .ok (.Request request) ↔ parse RequestPacket.read_from suffix = .ok request := by
  change (from_error Error.Io (returned (parse RequestPacket.read_from suffix))).map Packet.Request = _ ↔ _
  cases parse RequestPacket.read_from suffix with
  | ok sent => exact ⟨fun isPacket => by cases isPacket; rfl,fun parsed => by cases parsed; rfl⟩
  | error error => exact ⟨fun isPacket => (nomatch isPacket),fun parsed => (nomatch parsed)⟩

/-- Requests are authentic, unless one is encrypted. -/
theorem requests_authenticated_of_read :
    RequestsAuthenticated p buf protocol_id timestamp key allowed_packets replay_protection ↔
      ¬SealedRequest p buf protocol_id key replay_protection := by
  constructor
  · rintro authenticated ⟨prefix_byte,rest,suffix,request,framed,encrypted,isKind,opens,parsed⟩
    have isPacket : read_body (kind_of prefix_byte) suffix = .ok (.Request request) := by
      rw [isKind]
      exact read_body_request.mpr parsed
    obtain ⟨sent,⟨⟨_,isBuf,_⟩,_⟩,_⟩ := authenticated request _
      (read_ok_iff.mpr ⟨prefix_byte,rest,framed,.inr ⟨encrypted,suffix,opens,isPacket,rfl⟩⟩)
    rw [framed.isBuf] at isBuf
    exact encrypted (List.cons.inj isBuf).1
  · intro unsealed request replay' isRead
    obtain ⟨prefix_byte,rest,framed,⟨rfl,isPacket,_⟩ | ⟨encrypted,suffix,opens,isPacket,_⟩⟩ := read_ok_iff.mp isRead
    · obtain ⟨sent,token_data,authenticated,isRequest⟩ := read_plain_request_iff.mp isPacket
      cases isRequest
      rw [← framed.isBuf] at authenticated
      exact ⟨sent,authenticated,rfl⟩
    · have isKind : kind_of prefix_byte = REQUEST := (kind_of_body isPacket).symm
      rw [isKind] at isPacket
      exact absurd ⟨prefix_byte,rest,suffix,request,framed,encrypted,isKind,opens,read_body_request.mp isPacket⟩
        unsealed

end

end Packet

/-- A token that was opened is what was sealed. -/
theorem ConnectTokenPrivate.sealed_of_decrypt {p : Platform} {encrypted token_data : Octets SIZE}
    {token : ConnectTokenPrivate} {protocol_id expire_timestamp : UInt64} {nonce : XNonce} {private_key : Key}
    {was_sealed : XNonce → Bytes → Bytes → Prop} (rejects : p.xchacha20poly1305.Rejects private_key was_sealed)
    (opened : decrypt p encrypted protocol_id expire_timestamp nonce private_key = .ok (token,token_data)) :
    ∃ plain, was_sealed nonce (aead protocol_id expire_timestamp) plain ∧ parse read_from plain = .ok token := by
  obtain ⟨decrypted,parsed⟩ := ConnectTokenPrivate.decrypt_ok_iff.mp opened
  obtain ⟨_,plain,mac,_,isOpened,accepted⟩ := Netcode.decrypt_ok decrypted
  obtain ⟨bytes,rest,isBuf,rfl,unscoped,nonempty⟩ := takes.parse parsed
  refine ⟨plain,rejects _ _ _ _ _ accepted,?_⟩
  have size : plain.length + MAC_BYTES = SIZE := by
    have total := token_data.property
    rw [isOpened,List.length_append,mac.property] at total
    exact total
  -- the tag is behind all that is read of a token
  have front : token.write_to <+: plain := by
    refine List.prefix_of_prefix_length_le ⟨rest,isBuf.symm⟩ ⟨mac.val,isOpened.symm⟩ ?_
    have short := token.length_write_to_le
    omega
  obtain ⟨zeros,rfl⟩ := front
  rw [(reads nonempty).parse,unscoped]

namespace Server

variable {F : Type}

/-- The key and the window that a datagram is read with. -/
structure ReadsWith (s : Server F) (buf : Bytes) (entity : Entity) (key : Key) (client_id : Option ClientId) :
    Prop where
  long : 1 < buf.length
  isKey : ∃ first_byte ∈ buf.head?, s.reading_key first_byte entity = .ok (key,client_id)

def window (s : Server F) (client_id : Option ClientId) : Option ReplayProtection :=
  client_id.bind s.conn_cache.replay_protection.lookup

section
variable {p : Platform} {s : Server F} {buf : Bytes} {now : UInt64} {entity : Entity}

theorem read_packet_eq {first_byte second_byte : UInt8} {rest : Bytes} :
    read_packet p (first_byte :: second_byte :: rest) now entity s =
      match s.reading_key first_byte entity with
      | .error failure => .error failure s
      | .ok (key,client_id) =>
        match Packet.read p (first_byte :: second_byte :: rest) s.protocol_id now key ALLOWED_PACKETS
            (s.window client_id) with
        | .ok packet window' => .ok (some packet) (s.put_window client_id window')
        | .error failure window' => .error failure (s.put_window client_id window') := by
  change (lift (s.reading_key first_byte entity) >>= _) s = _
  cases s.reading_key first_byte entity with
  | error failure => rfl
  | ok chosen =>
    change (read_with p _ now chosen.1 chosen.2 >>= fun packet => pure (some packet)) s = _
    change EStateM.bind (read_with p _ now chosen.1 chosen.2) _ s = _
    unfold EStateM.bind read_with window
    dsimp only
    cases Packet.read p (first_byte :: second_byte :: rest) s.protocol_id now chosen.1 ALLOWED_PACKETS
      (chosen.2.bind s.conn_cache.replay_protection.lookup) <;> rfl

/-- Which packets are handed over. -/
theorem read_packet_ok_iff {packet : Packet} :
    (∃ s', read_packet p buf now entity s = .ok (some packet) s') ↔
      ∃ key client_id window', s.ReadsWith buf entity key client_id ∧
        Packet.read p buf s.protocol_id now key ALLOWED_PACKETS (s.window client_id) = .ok packet window' := by
  match buf with
  | [] => exact ⟨fun ⟨_,isRead⟩ => (nomatch isRead),fun ⟨_,_,_,reads,_⟩ => absurd reads.long (by decide)⟩
  | [_] => exact ⟨fun ⟨_,isRead⟩ => (nomatch isRead),fun ⟨_,_,_,reads,_⟩ => absurd reads.long (Nat.lt_irrefl _)⟩
  | first_byte :: second_byte :: rest =>
    rw [read_packet_eq]
    constructor
    · rintro ⟨s',isRead⟩
      split at isRead
      · cases isRead
      · next key client_id isKey =>
        split at isRead
        · next window' returned =>
          cases isRead
          exact ⟨key,client_id,window',⟨by simp,first_byte,rfl,isKey⟩,returned⟩
        · cases isRead
    · rintro ⟨key,client_id,window',⟨_,_,isHead,isKey⟩,returned⟩
      cases isHead
      rw [isKey]
      dsimp only
      rw [returned]
      exact ⟨_,rfl⟩

/-- The contents of a request's token were sealed for this server. -/
def ContentsSealed (s : Server F) (was_sealed : XNonce → Bytes → Bytes → Prop) (request : RequestPacket) : Prop :=
  ∃ token plain, parse ConnectTokenPrivate.read_from request.token_data.val = .ok token ∧
    was_sealed request.token_nonce (ConnectTokenPrivate.aead s.protocol_id request.expire_timestamp) plain ∧
    parse ConnectTokenPrivate.read_from plain = .ok token

/-- The sender of a datagram has encrypted a request in it. -/
def SealsRequest (p : Platform) (s : Server F) (buf : Bytes) (entity : Entity) : Prop :=
  ∃ key client_id, s.ReadsWith buf entity key client_id ∧
    Packet.SealedRequest p buf s.protocol_id key (s.window client_id)

/-- A plain request is read with the private key. -/
theorem ReadsWith.private_key {rest : Bytes} {key : Key} {client_id : Option ClientId}
    (reads : s.ReadsWith (Packet.REQUEST :: rest) entity key client_id) : key = s.private_key := by
  obtain ⟨_,first_byte,isHead,isKey⟩ := reads
  cases isHead
  cases isKey
  rfl

theorem contents_sealed {was_sealed : XNonce → Bytes → Bytes → Prop}
    (rejects : p.xchacha20poly1305.Rejects s.private_key was_sealed) (unsealed : ¬s.SealsRequest p buf entity)
    {request : RequestPacket} {s' : Server F}
    (isRead : read_packet p buf now entity s = .ok (some (.Request request)) s') :
    s.ContentsSealed was_sealed request := by
  obtain ⟨key,client_id,window',reads,returned⟩ := read_packet_ok_iff.mp ⟨s',isRead⟩
  have authentic : Packet.RequestsAuthenticated p buf s.protocol_id now key ALLOWED_PACKETS (s.window client_id) :=
    Packet.requests_authenticated_of_read.mpr fun isSealed => unsealed ⟨key,client_id,reads,isSealed⟩
  obtain ⟨sent,authenticated,isRequest⟩ := authentic request window' returned
  obtain ⟨⟨rest,isBuf,_⟩,_,_,_,token,opened⟩ := authenticated
  subst isBuf
  rw [reads.private_key] at opened
  obtain ⟨plain,wasSealed,parsed⟩ := ConnectTokenPrivate.sealed_of_decrypt rejects opened
  refine ⟨token,plain,(ConnectTokenPrivate.decrypt_ok_iff.mp opened).2,?_,parsed⟩
  rw [isRequest]
  exact wasSealed

end

/-- What `read` returns as a request is authentic unless it is encrypted, and then the contents that the server
    processes were sealed with its private key. -/
theorem requests_authenticated (p : Platform) :
    (∀ buf protocol_id timestamp private_key allowed_packets replay_protection,
      Packet.RequestsAuthenticated p buf protocol_id timestamp private_key allowed_packets replay_protection ↔
        ¬Packet.SealedRequest p buf protocol_id private_key replay_protection) ∧
    ∀ (s : Server F) (was_sealed : XNonce → Bytes → Bytes → Prop),
      p.xchacha20poly1305.Rejects s.private_key was_sealed → ∀ buf now entity, ¬s.SealsRequest p buf entity →
        ∀ request s', read_packet p buf now entity s = .ok (some (.Request request)) s' →
          s.ContentsSealed was_sealed request := by
  refine ⟨fun _ _ _ _ _ _ => Packet.requests_authenticated_of_read,?_⟩
  intro s was_sealed rejects buf now entity unsealed request s' isRead
  exact contents_sealed rejects unsealed isRead

end Server

/-- A cipher that accepts nothing but what is in a record. -/
def Cipher.recorded {n : Nat} (cipher : Cipher n) (record : List (Key × Octets n × Bytes × Bytes)) : Cipher n where
  encrypt_in_place_detached := cipher.encrypt_in_place_detached
  decrypt_in_place_detached key nonce associated_data buffer tag :=
    (cipher.decrypt_in_place_detached key nonce associated_data buffer tag).filter fun plain =>
      decide ((key,nonce,associated_data,plain) ∈ record)
  length_encrypt := cipher.length_encrypt
  length_decrypt key nonce associated_data buffer tag plain accepted :=
    cipher.length_decrypt key nonce associated_data buffer tag plain (Option.filter_eq_some_iff.mp accepted).1

theorem Cipher.recorded_rejects {n : Nat} (cipher : Cipher n) (record : List (Key × Octets n × Bytes × Bytes))
    (key : Key) : (cipher.recorded record).Rejects key fun nonce associated_data plain =>
      (key,nonce,associated_data,plain) ∈ record :=
  fun _ _ _ _ _ accepted => of_decide_eq_true (Option.filter_eq_some_iff.mp accepted).2

namespace Server

/-- The token of the local client, as its private half was sealed. -/
def local_record : List (Key × XNonce × Bytes × Bytes) :=
  [(zeros 32,zeros 24,ConnectTokenPrivate.aead 42 1,
    padded ConnectTokenPrivate.SIZE MAC_BYTES (local_client 7 3).write_to)]

def local_platform : Platform := { Platform.shift with xchacha20poly1305 := (Cipher.shift 24).recorded local_record }

end Server

section Results
variable {ε σ α : Type} {result : EStateM.Result ε σ α}

private def value : EStateM.Result ε σ α → Option α
  | .ok value _ => some value
  | .error .. => none

private def failure : EStateM.Result ε σ α → Option ε
  | .ok .. => none
  | .error failure _ => some failure

private theorem ok_of_value {returned : α} (isValue : value result = some returned) :
    ∃ after, result = .ok returned after := by
  cases result with
  | ok other after => exact ⟨after,congrArg (EStateM.Result.ok · after) (Option.some.inj isValue)⟩
  | error other after => cases isValue

private theorem error_of_failure {failed : ε} (isFailure : failure result = some failed) :
    ∃ after, result = .error failed after := by
  cases result with
  | ok other after => cases isFailure
  | error other after => exact ⟨after,congrArg (EStateM.Result.error · after) (Option.some.inj isFailure)⟩

private def request : Packet → Option RequestPacket
  | .Request packet => some packet
  | _ => none

private theorem eq_of_request {packet : Packet} {sent : RequestPacket} (isRequest : request packet = some sent) :
    packet = .Request sent := by
  cases packet with
  | Request packet => exact congrArg Packet.Request (Option.some.inj isRequest)
  | _ => cases isRequest

end Results

namespace Server

theorem requests_authenticated_local :
    ∃ request s', read_packet local_platform (local_request (local_client 7 3)) 0 ⟨1⟩ local_server =
        .ok (some (.Request request)) s' ∧
      local_server.ContentsSealed (fun nonce associated_data plain =>
        (zeros 32,nonce,associated_data,plain) ∈ local_record) request := by
  have isRequest : ((value (read_packet local_platform (local_request (local_client 7 3)) 0 ⟨1⟩ local_server)).bind
      (·.bind request)).isSome = true := by decide +kernel
  have plain : (local_request (local_client 7 3)).head? = some Packet.REQUEST := by decide +kernel
  obtain ⟨request,isSent⟩ := Option.isSome_iff_exists.mp isRequest
  obtain ⟨returned,isValue,isPacket⟩ := Option.bind_eq_some_iff.mp isSent
  obtain ⟨packet,rfl,isRequest⟩ := Option.bind_eq_some_iff.mp isPacket
  obtain rfl := eq_of_request isRequest
  obtain ⟨s',isRead⟩ := ok_of_value isValue
  refine ⟨request,s',isRead,?_⟩
  refine (requests_authenticated local_platform).2 local_server _ (Cipher.recorded_rejects _ local_record _) _ 0 ⟨1⟩ ?_
    request s' isRead
  rintro ⟨_,_,_,prefix_byte,rest,_,_,framed,encrypted,_⟩
  rw [framed.isBuf] at plain
  exact encrypted (Option.some.inj plain)

end Server

namespace Packet

/-- A request of another version and protocol, which has expired, and whose token was never sealed. -/
def forged_request : RequestPacket := ⟨zeros 13,7,0,zeros 24,zeros 1024⟩

/-- The request as a client encrypts it with the key of its connection. -/
def forged : Bytes :=
  written (write_encrypted .shift REQUEST 1 (local_client 7 3).client_to_server_key 42 (.ok forged_request.write_to))

/-- An encrypted request is returned as it is. -/
theorem forged_request_returned :
    ¬RequestsAuthenticated .shift forged 42 100
      (local_client 7 3).client_to_server_key Server.ALLOWED_PACKETS none := by
  intro authenticated
  have isRead : (value
    (read .shift forged 42 100 (local_client 7 3).client_to_server_key Server.ALLOWED_PACKETS none)).bind
      request = some forged_request := by decide +kernel
  obtain ⟨packet,isValue,isRequest⟩ := Option.bind_eq_some_iff.mp isRead
  obtain rfl := eq_of_request isRequest
  obtain ⟨window,returned⟩ := ok_of_value isValue
  obtain ⟨sent,authentic,isSent⟩ := authenticated forged_request window returned
  have version := authentic.version
  rw [← congrArg RequestPacket.version_info isSent] at version
  exact absurd version (by decide)

end Packet

/-! ### Kinds -/

namespace Packet

def Allowed (allowed_packets : UInt8) (kind : PacketKind) : Prop := allowed_packets &&& (1 <<< kind) ≠ 0

instance (allowed_packets : UInt8) (kind : PacketKind) : Decidable (Allowed allowed_packets kind) :=
  inferInstanceAs (Decidable (_ ≠ _))

/-- A datagram that is read as a packet of a kind outside of the mask. -/
inductive Smuggled (p : Platform) (buf : Bytes) (protocol_id timestamp : UInt64) (key : Key) (allowed_packets : UInt8)
    (replay_protection : Option ReplayProtection) : Prop
  | request {sent : RequestPacket} {token_data : Octets ConnectTokenPrivate.SIZE}
      (masked : ¬Allowed allowed_packets REQUEST) (bounded : buf.length ≤ MAX_PKT_BUF_SIZE)
      (authenticated : Authenticated p buf protocol_id timestamp key sent token_data)
  | encrypted {prefix_byte : UInt8} {rest suffix : Bytes} {packet : Packet} (framed : Framed buf prefix_byte rest)
      (encrypted : prefix_byte ≠ REQUEST) (masked : ¬Allowed allowed_packets (kind_of prefix_byte))
      (opens : Opens p prefix_byte rest protocol_id key replay_protection suffix)
      (isPacket : read_body (kind_of prefix_byte) suffix = .ok packet)

section
variable {p : Platform} {buf rest : Bytes} {protocol_id timestamp : UInt64} {key : Key} {prefix_byte : UInt8}
  {allowed_packets : UInt8} {replay_protection : Option ReplayProtection}

theorem read_allowed_iff :
    (∀ packet replay', read p buf protocol_id timestamp key allowed_packets replay_protection = .ok packet replay' →
        Allowed allowed_packets packet.kind) ↔
      ¬Smuggled p buf protocol_id timestamp key allowed_packets replay_protection := by
  constructor
  · intro allowed smuggled
    cases smuggled with
    | @request sent token_data masked bounded authenticated =>
      obtain ⟨rest,rfl,_⟩ := authenticated.isRequest
      have framed : Framed (REQUEST :: rest) REQUEST rest := ⟨rfl,by rwa [Nat.add_comm],by decide⟩
      have isPacket : read_request p rest protocol_id timestamp key = .ok (.Request { sent with token_data }) :=
        read_plain_request_iff.mpr ⟨sent,token_data,authenticated,rfl⟩
      exact masked (allowed (.Request _) _ (read_ok_iff.mpr ⟨REQUEST,rest,framed,.inl ⟨rfl,isPacket,rfl⟩⟩))
    | encrypted framed encrypted masked opens isPacket =>
      have isAllowed := allowed _ _ (read_ok_iff.mpr ⟨_,_,framed,.inr ⟨encrypted,_,opens,isPacket,rfl⟩⟩)
      rw [kind_of_body isPacket] at isAllowed
      exact masked isAllowed
  · intro honest packet replay' isRead
    by_contra masked
    obtain ⟨prefix_byte,rest,framed,⟨rfl,isPacket,_⟩ | ⟨encrypted,suffix,opens,isPacket,_⟩⟩ := read_ok_iff.mp isRead
    · obtain ⟨sent,token_data,authenticated,rfl⟩ := read_plain_request_iff.mp isPacket
      have bounded : buf.length ≤ MAX_PKT_BUF_SIZE := by
        rw [framed.isBuf,List.length_cons,Nat.add_comm]
        exact framed.bounded
      rw [← framed.isBuf] at authenticated
      exact honest (.request masked bounded authenticated)
    · rw [kind_of_body isPacket] at masked
      exact honest (.encrypted framed encrypted masked opens isPacket)

theorem read_request_panic {panic : Panic}
    (panicked : read_request p rest protocol_id timestamp key = .error (.Panic panic)) :
    panic = .Expect := by
  rcases bind_eq_panic.mp panicked with panicked | ⟨request,_,panicked⟩
  · exact absurd (from_error_eq_panic.mp panicked) returned_ne_panic
  rcases bind_eq_panic.mp panicked with panicked | ⟨_,_,panicked⟩
  · exact absurd (from_error_eq_panic.mp panicked) returned_ne_panic
  rcases bind_eq_panic.mp panicked with panicked | ⟨_,_,panicked⟩
  · rcases bind_eq_panic.mp panicked with panicked | ⟨_,_,panicked⟩
    · rcases bind_eq_panic.mp panicked with panicked | ⟨_,_,panicked⟩
      · exact (decrypt_panic_iff.mp (from_error_eq_panic.mp panicked)).1
      · rcases bind_eq_panic.mp panicked with panicked | ⟨_,_,panicked⟩
        · exact absurd (from_error_eq_panic.mp panicked) returned_ne_panic
        · cases panicked
    · rcases bind_eq_panic.mp panicked with panicked | ⟨_,_,panicked⟩
      · exact absurd (from_error_eq_panic.mp panicked) returned_ne_panic
      · cases panicked
  · cases panicked

theorem decrypt_suffix_ne_unreachable :
    decrypt_suffix p prefix_byte rest protocol_id key replay_protection ≠ .error (.Panic .Unreachable) := by
  intro panicked
  by_cases long : sequence_bytes prefix_byte + MAC_BYTES ≤ rest.length
  · by_cases fits : sequence_bytes prefix_byte ≤ 8
    · rw [decrypt_suffix_eq long fits] at panicked
      rcases bind_eq_panic.mp panicked with panicked | ⟨received,_,panicked⟩
      · cases (already_received_panic_iff.mp panicked).1
      · cases received with
        | true => cases panicked
        | false =>
          rcases bind_eq_panic.mp panicked with panicked | ⟨_,_,panicked⟩
          · cases (decrypt_panic_iff.mp (from_error_eq_panic.mp panicked)).1
          · cases panicked
    · rw [decrypt_suffix_index long (Nat.not_le.mp fits)] at panicked
      cases panicked
  · rw [decrypt_suffix_short (Nat.not_le.mp long)] at panicked
    cases panicked

theorem read_ne_unreachable {replay' : Option ReplayProtection} :
    read p buf protocol_id timestamp key allowed_packets replay_protection ≠ .error (.Panic .Unreachable) replay' := by
  intro panicked
  rcases read_cases p buf protocol_id timestamp key allowed_packets replay_protection with
    ⟨error,failed⟩ | ⟨prefix_byte,rest,isBuf,bounded,large⟩ | ⟨prefix_byte,rest,framed⟩
  · cases failed.symm.trans panicked
  · cases (read_large_kind isBuf bounded large).symm.trans panicked
  · rw [read_framed framed] at panicked
    split at panicked
    · cases read_request_panic (lift_eq_error.mp panicked).1
    · rw [read_encrypted_eq] at panicked
      split at panicked
      · next failed =>
        cases panicked
        exact decrypt_suffix_ne_unreachable failed
      · split at panicked
        · cases panicked
        · next failed =>
          cases panicked
          exact read_body_ne_panic failed

theorem write_encrypted_ne_panic {kind : PacketKind} {sequence : UInt64} {body : Except IoError Bytes} {panic : Panic} :
    write_encrypted p kind sequence key protocol_id body ≠ .error (.Panic panic) := by
  intro panicked
  rcases bind_eq_panic.mp panicked with panicked | ⟨bytes,_,panicked⟩
  · exact returned_ne_panic (from_error_eq_panic.mp panicked)
  dsimp only at panicked
  split at panicked
  · cases panicked
  split at panicked
  · cases panicked
  rcases bind_eq_panic.mp panicked with panicked | ⟨_,_,panicked⟩
  · exact returned_ne_panic (from_error_eq_panic.mp panicked)
  · cases panicked

theorem write_ne_panic {packet : Packet} {sequence : UInt64} {panic : Panic} :
    packet.write p sequence key protocol_id ≠ .error (.Panic panic) := by
  unfold write
  split
  · split
    · simp
    · simp
  · exact write_encrypted_ne_panic

end

end Packet

theorem ChallengeToken.encrypt_ne_panic {p : Platform} {self : ChallengeToken} {sequence : UInt64} {private_key : Key}
    {panic : Panic} : self.encrypt p sequence private_key ≠ .error (.Panic panic) := by
  intro panicked
  rcases bind_eq_panic.mp panicked with panicked | ⟨_,_,panicked⟩
  · exact returned_ne_panic (from_error_eq_panic.mp panicked)
  · exact returned_ne_panic (from_error_eq_panic.mp panicked)

theorem ChallengeToken.decrypt_ne_unreachable {p : Platform} {encrypted : Octets SIZE} {sequence : UInt64}
    {private_key : Key} : ChallengeToken.decrypt p encrypted sequence private_key ≠ .error (.Panic .Unreachable) := by
  intro panicked
  rcases bind_eq_panic.mp panicked with panicked | ⟨_,_,panicked⟩
  · cases (decrypt_panic_iff.mp (from_error_eq_panic.mp panicked)).1
  · exact returned_ne_panic (from_error_eq_panic.mp panicked)

namespace Server

/-! ### Panics while a packet is processed -/

section
variable {p : Platform} {packet : Packet} {entity : Entity}

theorem counts_avoids {n : UInt64} : Avoids .Unreachable (lift (checked_add n 1) : Call Error (Server F) UInt64) :=
  .lift fun panicked => (nomatch checked_add_panic panicked)

theorem encrypts_avoids {sequence : UInt64} {key : Key} {written : Fallible Error Bytes} {panic : Panic}
    (never : written ≠ .error (.Panic panic)) :
    Avoids panic (encrypts packet sequence key written : Call Error (Server F) Bytes) :=
  (Avoids.lift never).bind fun _ => (Avoids.modify _).bind fun _ => .pure _

theorem send_netcode_packet_avoids {key : Key} :
    Avoids .Unreachable (send_netcode_packet p packet key entity : Call Error (Server F) PUnit) :=
  .get_bind fun _ => (encrypts_avoids Packet.write_ne_panic).bind fun _ => (Avoids.modify _).bind fun _ =>
    counts_avoids.bind fun _ => .modify _

theorem send_netcode_to_client_avoids {id : ClientId} :
    Avoids .Unreachable (send_netcode_to_client p packet id entity : Call Error (Server F) PUnit) := by
  refine .get_bind fun s => ?_
  split
  · exact .throw (by simp)
  · exact (encrypts_avoids Packet.write_ne_panic).bind fun _ => (Avoids.modify _).bind fun _ =>
      counts_avoids.bind fun _ => .modify _

theorem deny_avoids {reason : DeniedReason} {key : Key} {error : Error} :
    Avoids .Unreachable (deny p reason key entity error : Call Error (Server F) PUnit) :=
  send_netcode_packet_avoids.bind fun _ => .throw (by simp)

theorem process_connection_response_avoids {response : ResponsePacket} :
    Avoids .Unreachable (process_connection_response p response entity : Call Error (Server F) PUnit) := by
  refine .get_bind fun s => (Avoids.lift fun panicked => ?_).bind fun token => ?_
  · exact ChallengeToken.decrypt_ne_unreachable (from_error_eq_panic.mp panicked)
  · split
    · exact .throw (by simp)
    · split
      · exact .pure _
      · split
        · exact deny_avoids
        · exact (Avoids.modify _).bind fun _ => send_netcode_to_client_avoids.bind fun _ => .modify _

variable [F64 F]

theorem send_challenge_avoids {token : ConnectTokenPrivate} :
    Avoids .Unreachable (send_challenge p token entity : Call Error (Server F) PUnit) := by
  refine .get_bind fun s => (Avoids.lift fun panicked => ?_).bind fun _ => ?_
  · exact ChallengeToken.encrypt_ne_panic (from_error_eq_panic.mp panicked)
  · exact send_netcode_packet_avoids.bind fun _ => (Avoids.modify _).bind fun _ => counts_avoids.bind fun _ => .modify _

theorem process_connection_request_avoids {request : RequestPacket} {server_addr : Option SocketAddr} :
    Avoids .Unreachable (process_connection_request p request entity server_addr : Call Error (Server F) PUnit) := by
  refine (Avoids.lift fun panicked => returned_ne_panic (from_error_eq_panic.mp panicked)).bind fun token => ?_
  refine .get_bind fun s => ?_
  split
  · refine .get_bind fun s => (Avoids.lift require_ne_panic).bind fun _ =>
      (Avoids.lift require_ne_panic).bind fun _ => ?_
    refine Avoids.bind (fun _ _ failed => (nomatch failed)) fun inserted => ?_
    refine (Avoids.lift require_ne_panic).bind fun _ => ?_
    split
    · exact deny_avoids
    · exact send_challenge_avoids
  · exact .pure _

/-- The kinds that are processed are those of the mask. -/
theorem process_packet_avoids {server_addr : Option SocketAddr} (allowed : Packet.Allowed ALLOWED_PACKETS packet.kind) :
    Avoids .Unreachable (process_packet p packet entity server_addr : Call Error (Server F) (Option Bytes)) := by
  refine .get_bind fun s => ?_
  cases packet with
  | Request request => exact process_connection_request_avoids.bind fun _ => .pure _
  | Response response => exact process_connection_response_avoids.bind fun _ => .pure _
  | KeepAlive keep_alive =>
    dsimp only
    split
    · exact (Avoids.modify _).bind fun _ => .pure _
    · exact .pure _
  | Payload payload =>
    dsimp only
    split
    · exact (Avoids.modify _).bind fun _ => .pure _
    · exact .pure _
  | Disconnect disconnect =>
    dsimp only
    split
    · exact (Avoids.modify _).bind fun _ => (Avoids.modify _).bind fun _ => .pure _
    · exact .pure _
  | Denied denied => exact absurd allowed (show ¬Packet.Allowed ALLOWED_PACKETS Packet.DENIED by decide)
  | Challenge challenge => exact absurd allowed (show ¬Packet.Allowed ALLOWED_PACKETS Packet.CHALLENGE by decide)

end

section
variable {p : Platform} {s : Server F}

theorem read_packet_avoids {buf : Bytes} {now : UInt64} {entity : Entity} :
    Avoids .Unreachable (read_packet p buf now entity : Call Error (Server F) (Option Packet)) := by
  intro s s' panicked
  match buf with
  | [] => cases panicked
  | [_] => cases panicked
  | first_byte :: second_byte :: rest =>
    rw [read_packet_eq] at panicked
    split at panicked
    · next failure isKey =>
      cases panicked
      unfold reading_key at isKey
      split at isKey
      · cases isKey
      · split at isKey
        · split at isKey <;> cases isKey
        · cases isKey
    · split at panicked
      · cases panicked
      · next returned =>
        cases panicked
        exact Packet.read_ne_unreachable returned

/-- Only packets of the kinds in the mask are processed, and `unreachable!()` is not. -/
def Filters [F64 F] (p : Platform) (s : Server F) : Event F → Prop
  | .Receive entity buf now server_addr =>
    (∀ packet s', read_packet p buf now entity s = .ok (some packet) s' → Packet.Allowed ALLOWED_PACKETS packet.kind) ∧
      ∀ s', recv_turn p buf now entity server_addr s ≠ .error (.Panic .Unreachable) s'
  | _ => True

/-- A datagram holds a packet that its sender should not send, but has encrypted as it should. -/
def Smuggles (p : Platform) (s : Server F) : Event F → Prop
  | .Receive entity buf now _ => ∃ key client_id, s.ReadsWith buf entity key client_id ∧
      Packet.Smuggled p buf s.protocol_id now key ALLOWED_PACKETS (s.window client_id)
  | _ => False

theorem filters_iff [F64 F] (event : Event F) : s.Filters p event ↔ ¬s.Smuggles p event := by
  cases event with
  | Receive entity buf now server_addr =>
    have allowed_iff : (∀ packet s', read_packet p buf now entity s = .ok (some packet) s' →
        Packet.Allowed ALLOWED_PACKETS packet.kind) ↔ ¬s.Smuggles p (.Receive entity buf now server_addr) := by
      constructor
      · rintro allowed ⟨key,client_id,reads,smuggled⟩
        refine Packet.read_allowed_iff.mp (fun packet window' returned => ?_) smuggled
        obtain ⟨s',isRead⟩ := read_packet_ok_iff.mpr ⟨key,client_id,window',reads,returned⟩
        exact allowed packet s' isRead
      · intro honest packet s' isRead
        obtain ⟨key,client_id,window',reads,returned⟩ := read_packet_ok_iff.mp ⟨s',isRead⟩
        exact Packet.read_allowed_iff.mpr
          (fun smuggled => honest ⟨key,client_id,reads,smuggled⟩) packet window' returned
    refine ⟨fun filters => allowed_iff.mp filters.1,fun honest => ⟨allowed_iff.mpr honest,fun s' panicked => ?_⟩⟩
    unfold recv_turn at panicked
    split at panicked
    · cases panicked
    · rcases bind_error.mp panicked with panicked | ⟨packet,middle,isRead,panicked⟩
      · exact read_packet_avoids _ _ panicked
      · cases packet with
        | none => cases panicked
        | some packet => exact process_packet_avoids (allowed_iff.mpr honest packet middle isRead) _ _ panicked
  | _ => exact iff_of_true trivial id

end

end Server

namespace Client

variable {F : Type} [F64 F] {p : Platform} {s : Client F}

/-- The client when it reads a datagram, with those before it processed. -/
def Reads (p : Platform) (s : Client F) (event : Event F) (turn : Client F) (buf : Bytes) (now : UInt64) : Prop :=
  ∃ delta_ms before later, event = .Update delta_ms (before ++ buf :: later) (some now) ∧
    recv_packets p before (some now) { s with time := F64.add s.time delta_ms } = .ok ⟨⟩ turn

def Filters (p : Platform) (s : Client F) (event : Event F) : Prop :=
  ∀ turn buf now, s.Reads p event turn buf now → ∀ packet s', read_packet p buf now turn = .ok (some packet) s' →
    Packet.Allowed ALLOWED_PACKETS packet.kind

def window (s : Client F) : Option ReplayProtection := if s.state = .Connected then some s.replay_protection else none

def Smuggles (p : Platform) (s : Client F) (event : Event F) : Prop :=
  ∃ turn buf now, s.Reads p event turn buf now ∧ 1 < buf.length ∧
    Packet.Smuggled p buf turn.token.protocol_id now turn.token.server_to_client_key ALLOWED_PACKETS turn.window

omit [F64 F] in
theorem read_packet_ok_iff {buf : Bytes} {now : UInt64} {packet : Packet} :
    (∃ s', read_packet p buf now s = .ok (some packet) s') ↔
      1 < buf.length ∧ ∃ window', Packet.read p buf s.token.protocol_id now s.token.server_to_client_key
        ALLOWED_PACKETS s.window = .ok packet window' := by
  unfold read_packet window
  split
  · next short => exact ⟨fun ⟨_,isRead⟩ => (nomatch isRead),fun ⟨long,_⟩ => absurd short (Nat.not_le.mpr long)⟩
  · next long =>
    constructor
    · rintro ⟨s',isRead⟩
      split at isRead
      · next window' returned =>
        cases isRead
        exact ⟨Nat.not_le.mp long,window',returned⟩
      · cases isRead
      · cases isRead
    · rintro ⟨_,window',returned⟩
      rw [returned]
      exact ⟨_,rfl⟩

theorem filters_iff (event : Event F) : s.Filters p event ↔ ¬s.Smuggles p event := by
  constructor
  · rintro filters ⟨turn,buf,now,reads,long,smuggled⟩
    refine Packet.read_allowed_iff.mp (fun packet window' returned => ?_) smuggled
    obtain ⟨s',isRead⟩ := read_packet_ok_iff.mpr ⟨long,window',returned⟩
    exact filters turn buf now reads packet s' isRead
  · intro honest turn buf now reads packet s' isRead
    obtain ⟨long,window',returned⟩ := read_packet_ok_iff.mp ⟨s',isRead⟩
    exact Packet.read_allowed_iff.mpr
      (fun smuggled => honest ⟨turn,buf,now,reads,long,smuggled⟩) packet window' returned

end Client

/-- In a run of the server or of a client, packets are filtered as long as nobody encrypts one that it should
not send. -/
theorem packets_filtered {F : Type} [F64 F] (p : Platform) :
    (∀ (protocol_id : UInt64) (private_key challenge_key : Key) (cfg : ServerConfig F) (events : List (Event F)),
      let turns := turns (Server.step p) (.with_config protocol_id private_key challenge_key cfg) events
      (∀ turn ∈ turns, turn.1.Filters p turn.2) ↔ ∀ turn ∈ turns, ¬turn.1.Smuggles p turn.2) ∧
    ∀ (token : ConnectToken) (cfg : ClientConfig F) (events : List (Client.Event F)),
      let turns := turns (Client.step p) (.of_token token cfg) events
      (∀ turn ∈ turns, turn.1.Filters p turn.2) ↔ ∀ turn ∈ turns, ¬turn.1.Smuggles p turn.2 := by
  constructor
  · intro protocol_id private_key challenge_key cfg events
    exact forall_congr' fun turn => forall_congr' fun _ => Server.filters_iff turn.2
  · intro token cfg events
    exact forall_congr' fun turn => forall_congr' fun _ => Client.filters_iff turn.2

/-- A denied packet from a connected client, where the server takes it to be unreachable. -/
theorem denied_processed :
    ∃ s : Server Seconds, Reaches (Server.step .shift) (fun _ _ _ => True) local_server s ∧
      ¬s.Filters .shift (receive 1 (written ((DeniedPacket.create .ServerFull).write .shift 1
        (local_client 7 3).client_to_server_key 42))) := by
  obtain ⟨s,reached,panics⟩ := reaches_of_check (Server.step .shift) (fun _ _ _ => True) local_server
    (fun s => decide (failure (Server.recv_turn .shift (written ((DeniedPacket.create .ServerFull).write .shift 1
        (local_client 7 3).client_to_server_key 42)) 0 ⟨1⟩ none s) = some (.Panic .Unreachable)))
    (connects 1 (local_client 7 3) 0) (by decide +kernel)
  obtain ⟨s',panicked⟩ := error_of_failure (of_decide_eq_true panics)
  exact ⟨s,reached,fun filters => filters.2 s' panicked⟩

end Lightyear.Netcode
