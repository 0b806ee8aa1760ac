import Lightyear.Netcode.Packet
import Lightyear.Netcode.TokenRoundTrip

/-!
What `Packet::read` does with any datagram. An encrypted packet is opened or not
(`Opens`), and reading fails to be total on six kinds of datagrams (`Breaks`).
-/
namespace Lightyear.Netcode
open Calls Codec

namespace Packet

/-- The number of sequence bytes that a first byte announces. -/
def sequence_bytes (prefix_byte : UInt8) : Nat := ( get_prefix prefix_byte).1

def kind_of (prefix_byte : UInt8) : PacketKind := ( get_prefix prefix_byte).2

/-- The sequence number behind a first byte. -/
def sequence_of (prefix_byte : UInt8) (rest : Bytes) : UInt64 :=
  UInt64.ofNat (ofLE (rest.take (sequence_bytes prefix_byte)))

/-- The bytes behind the sequence number. -/
def encrypted_of (prefix_byte : UInt8) (rest : Bytes) : Octets (rest.drop (sequence_bytes prefix_byte)).length :=
  ⟨rest.drop (sequence_bytes prefix_byte),rfl⟩

/-- The suffix authenticates, and is decrypted. -/
def Authentic (p : Platform) (std : Bool) (prefix_byte : UInt8) (rest : Bytes) (protocol_id : UInt64) (key : Key)
    (suffix : Bytes) : Prop :=
  ∃ opened, decrypt std p.chacha20poly1305 (encrypted_of prefix_byte rest) (aead protocol_id prefix_byte)
    (final_nonce (sequence_of prefix_byte rest)) key = .ok opened ∧ opened.val = suffix

/-- An encrypted packet that is opened: long enough, with a sequence number that fits and was not received yet,
    and authentic. -/
structure Opens (p : Platform) (prefix_byte : UInt8) (rest : Bytes) (protocol_id : UInt64) (key : Key)
    (replay_protection : Option ReplayProtection) (suffix : Bytes) : Prop where
  long : sequence_bytes prefix_byte + MAC_BYTES ≤ rest.length
  fits : sequence_bytes prefix_byte ≤ 8
  fresh : already_received replay_protection (kind_of prefix_byte) (sequence_of prefix_byte rest) = .ok false
  authentic : Authentic p p.std prefix_byte rest protocol_id key suffix

section
variable {p : Platform} {prefix_byte : UInt8} {rest : Bytes} {protocol_id timestamp : UInt64} {key : Key}
  {replay_protection replay' : Option ReplayProtection} {allowed_packets : UInt8}

theorem read_sequence_eq (fits : sequence_bytes prefix_byte ≤ 8)
    (long : sequence_bytes prefix_byte + MAC_BYTES ≤ rest.length) :
    read_sequence rest (sequence_bytes prefix_byte) = .ok (sequence_of prefix_byte rest) := by
  unfold read_sequence
  rw [if_neg (by omega),if_neg (by omega)]
  rfl

/-- Decrypting, once there are enough bytes. -/
theorem decrypt_suffix_eq (long : sequence_bytes prefix_byte + MAC_BYTES ≤ rest.length)
    (fits : sequence_bytes prefix_byte ≤ 8) :
    decrypt_suffix p prefix_byte rest protocol_id key replay_protection =
      (already_received replay_protection (kind_of prefix_byte) (sequence_of prefix_byte rest) >>= fun received =>
        if received then throw (.Err (.Packet (.AlreadyReceived (sequence_of prefix_byte rest))))
        else from_error .Crypto (decrypt p.std p.chacha20poly1305 (encrypted_of prefix_byte rest)
            (aead protocol_id prefix_byte) (final_nonce (sequence_of prefix_byte rest)) key) >>=
          fun suffix => pure (sequence_of prefix_byte rest,suffix.val)) := by
  change (if 1 + rest.length < 1 + sequence_bytes prefix_byte + MAC_BYTES then _ else _) = _
  rw [if_neg (by omega)]
  change read_sequence rest (sequence_bytes prefix_byte) >>= _ = _
  rw [read_sequence_eq fits long]
  rfl

theorem decrypt_suffix_short (short : rest.length < sequence_bytes prefix_byte + MAC_BYTES) :
    decrypt_suffix p prefix_byte rest protocol_id key replay_protection = .error (.Err (.Packet .TooSmall)) := by
  change (if 1 + rest.length < 1 + sequence_bytes prefix_byte + MAC_BYTES then _ else _) = _
  rw [if_pos (by omega)]
  rfl

theorem decrypt_suffix_index (long : sequence_bytes prefix_byte + MAC_BYTES ≤ rest.length)
    (many : 8 < sequence_bytes prefix_byte) :
    decrypt_suffix p prefix_byte rest protocol_id key replay_protection = .error (.Panic .Index) := by
  change (if 1 + rest.length < 1 + sequence_bytes prefix_byte + MAC_BYTES then _ else _) = _
  rw [if_neg (by omega)]
  change read_sequence rest (sequence_bytes prefix_byte) >>= _ = _
  unfold read_sequence
  rw [if_pos many]
  rfl

theorem decrypt_suffix_ok_iff {sequence : UInt64} {suffix : Bytes} :
    decrypt_suffix p prefix_byte rest protocol_id key replay_protection = .ok (sequence,suffix) ↔
      sequence = sequence_of prefix_byte rest ∧ Opens p prefix_byte rest protocol_id key replay_protection suffix := by
  by_cases long : sequence_bytes prefix_byte + MAC_BYTES ≤ rest.length
  · by_cases fits : sequence_bytes prefix_byte ≤ 8
    · rw [decrypt_suffix_eq long fits]
      constructor
      · intro opened
        obtain ⟨received,fresh,opened⟩ := bind_eq_ok.mp opened
        cases received with
        | true => cases opened
        | false =>
          obtain ⟨plain,decrypted,opened⟩ := bind_eq_ok.mp opened
          cases opened
          exact ⟨rfl,long,fits,fresh,plain,from_error_eq_ok.mp decrypted,rfl⟩
      · rintro ⟨rfl,opens⟩
        obtain ⟨plain,decrypted,rfl⟩ := opens.authentic
        exact bind_eq_ok.mpr ⟨false,opens.fresh,bind_eq_ok.mpr ⟨plain,from_error_eq_ok.mpr decrypted,rfl⟩⟩
    · rw [decrypt_suffix_index long (by omega)]
      simp only [reduceCtorEq,false_iff]
      exact fun opened => fits opened.2.fits
  · rw [decrypt_suffix_short (by omega)]
    simp only [reduceCtorEq,false_iff]
    exact fun opened => long opened.2.long

theorem read_body_ne_panic {pkt_kind : PacketKind} {suffix : Bytes} {panic : Panic} :
    read_body pkt_kind suffix ≠ .error (.Panic panic) := by
  have mapped : ∀ {α : Type} (result : Except IoError α) (make : α → Packet),
      (from_error Error.Io (returned result)).map make ≠ .error (.Panic panic) := by
    intro α result make
    cases result <;> simp [from_error,returned,Except.mapError,Except.map,Failure.map]
  unfold read_body
  split_ifs
  all_goals first | exact mapped _ _ | simp

theorem already_received_panic_iff {pkt_kind : PacketKind} {sequence : UInt64} {panic : Panic} :
    already_received replay_protection pkt_kind sequence = .error (.Panic panic) ↔
      panic = .Overflow ∧ replay_protection ≠ none ∧ KEEP_ALIVE ≤ pkt_kind ∧
        2 ^ 64 ≤ sequence.toNat + REPLAY_PROTECTION_BUFFER_SIZE := by
  unfold already_received
  cases replay_protection with
  | none => simp
  | some window =>
    by_cases applies : pkt_kind ≥ KEEP_ALIVE
    · simp only [if_pos applies,ReplayProtection.is_already_received_panic_iff]
      exact ⟨fun ⟨isOverflow,large⟩ => ⟨isOverflow,Option.some_ne_none _,applies,large⟩,
        fun ⟨isOverflow,_,_,large⟩ => ⟨isOverflow,large⟩⟩
    · simp only [if_neg applies,reduceCtorEq,false_iff]
      exact fun known => applies known.2.2.1

/-- What makes the decryption of a suffix panic: too many sequence bytes, a sequence number at the end of the
    range, and without `std` a suffix that is not authentic. -/
theorem decrypt_suffix_panic_iff :
    (∃ panic, decrypt_suffix p prefix_byte rest protocol_id key replay_protection = .error (.Panic panic)) ↔
      sequence_bytes prefix_byte + MAC_BYTES ≤ rest.length ∧
        (8 < sequence_bytes prefix_byte ∨
          sequence_bytes prefix_byte ≤ 8 ∧
            ((replay_protection ≠ none ∧ KEEP_ALIVE ≤ kind_of prefix_byte ∧
              2 ^ 64 ≤ (sequence_of prefix_byte rest).toNat + REPLAY_PROTECTION_BUFFER_SIZE) ∨
            already_received replay_protection (kind_of prefix_byte) (sequence_of prefix_byte rest) = .ok false ∧
              p.std = false ∧ ∀ suffix, ¬Authentic p true prefix_byte rest protocol_id key suffix)) := by
  by_cases long : sequence_bytes prefix_byte + MAC_BYTES ≤ rest.length
  · by_cases fits : sequence_bytes prefix_byte ≤ 8
    · have many : ¬8 < sequence_bytes prefix_byte := Nat.not_lt.mpr fits
      have enough : MAC_BYTES ≤ (rest.drop (sequence_bytes prefix_byte)).length := by rw [List.length_drop]; omega
      rw [decrypt_suffix_eq long fits]
      simp only [long,many,fits,true_and,false_or,bind_eq_panic,exists_or,already_received_panic_iff]
      refine or_congr ?_ ?_
      · exact ⟨fun ⟨_,_,known⟩ => known,fun known => ⟨.Overflow,rfl,known⟩⟩
      · constructor
        · rintro ⟨panic,received,fresh,panics⟩
          cases received with
          | true => cases panics
          | false =>
            rcases bind_eq_panic.mp panics with panics | ⟨_,_,panics⟩
            · obtain ⟨_,noStd,_,refused⟩ := decrypt_panic_iff.mp (from_error_eq_panic.mp panics)
              exact ⟨fresh,noStd,fun suffix ⟨opened,accepted,_⟩ => refused opened accepted⟩
            · cases panics
        · rintro ⟨fresh,noStd,refused⟩
          refine ⟨.Expect,false,fresh,?_⟩
          refine bind_eq_panic.mpr (.inl (from_error_eq_panic.mpr (decrypt_panic_iff.mpr ⟨rfl,noStd,enough,?_⟩)))
          exact fun opened accepted => refused _ ⟨opened,accepted,rfl⟩
    · simp only [decrypt_suffix_index long (by omega),long,true_and]
      exact ⟨fun _ => .inl (by omega),fun _ => ⟨.Index,rfl⟩⟩
  · rw [decrypt_suffix_short (by omega)]
    simp [long]

/-! ### Datagrams -/

/-- A datagram whose length and kind get past the first checks. -/
structure Framed (buf : Bytes) (prefix_byte : UInt8) (rest : Bytes) : Prop where
  isBuf : buf = prefix_byte :: rest
  bounded : 1 + rest.length ≤ MAX_PKT_BUF_SIZE
  kind : kind_of prefix_byte < 8

theorem check_allowed_ok {pkt_kind : PacketKind} (small : pkt_kind < 8) :
    check_allowed allowed_packets pkt_kind = .ok () := by
  unfold check_allowed shift_left
  have isSmall : pkt_kind.toNat < 8 := small
  rw [if_pos isSmall]
  change (if _ then _ else _) = _
  split <;> rfl

theorem check_allowed_overflow {pkt_kind : PacketKind} (large : ¬pkt_kind < 8) :
    check_allowed allowed_packets pkt_kind = .error (.Panic .Overflow) := by
  unfold check_allowed shift_left
  have isLarge : ¬pkt_kind.toNat < 8 := large
  rw [if_neg isLarge]
  rfl

/-- A framed datagram is a plain request, or encrypted. -/
theorem read_framed {buf : Bytes} (framed : Framed buf prefix_byte rest) :
    read p buf protocol_id timestamp key allowed_packets replay_protection =
      (if prefix_byte = REQUEST then (lift (read_request p rest protocol_id timestamp key) : Call Error _ Packet)
        else read_encrypted p prefix_byte rest protocol_id key) replay_protection := by
  obtain ⟨rfl,bounded,kind⟩ := framed
  unfold read
  dsimp only
  rw [if_neg (by omega)]
  change (lift (check_allowed allowed_packets (kind_of prefix_byte)) >>= _) replay_protection = _
  rw [check_allowed_ok kind]
  rfl

theorem read_encrypted_eq :
    read_encrypted p prefix_byte rest protocol_id key replay_protection =
      match decrypt_suffix p prefix_byte rest protocol_id key replay_protection with
      | .error failure => .error failure replay_protection
      | .ok (sequence,suffix) =>
        match read_body (kind_of prefix_byte) suffix with
        | .ok packet => .ok packet (advance (kind_of prefix_byte) sequence replay_protection)
        | .error failure => .error failure (advance (kind_of prefix_byte) sequence replay_protection) := by
  change (lift (decrypt_suffix p prefix_byte rest protocol_id key replay_protection) >>= _) replay_protection = _
  cases decrypt_suffix p prefix_byte rest protocol_id key replay_protection with
  | error failure => rfl
  | ok result =>
    obtain ⟨sequence,suffix⟩ := result
    dsimp only
    change lift (read_body (kind_of prefix_byte) suffix) (advance (kind_of prefix_byte) sequence replay_protection) = _
    cases read_body (kind_of prefix_byte) suffix <;> rfl

theorem read_large_kind {buf : Bytes} (isBuf : buf = prefix_byte :: rest) (bounded : 1 + rest.length ≤ MAX_PKT_BUF_SIZE)
    (large : ¬kind_of prefix_byte < 8) :
    read p buf protocol_id timestamp key allowed_packets replay_protection =
      .error (.Panic .Overflow) replay_protection := by
  subst isBuf
  unfold read
  dsimp only
  rw [if_neg (by omega)]
  change (lift (check_allowed allowed_packets (kind_of prefix_byte)) >>= _) replay_protection = _
  rw [check_allowed_overflow large]
  rfl

/-- Without a framed datagram there is an error, or the kind overflows. -/
theorem read_cases (p : Platform) (buf : Bytes) (protocol_id timestamp : UInt64) (key : Key) (allowed_packets : UInt8)
    (replay_protection : Option ReplayProtection) :
    (∃ error, read p buf protocol_id timestamp key allowed_packets replay_protection =
      .error (.Err error) replay_protection) ∨
    (∃ prefix_byte rest, buf = prefix_byte :: rest ∧ 1 + rest.length ≤ MAX_PKT_BUF_SIZE ∧ ¬kind_of prefix_byte < 8) ∨
    ∃ prefix_byte rest, Framed buf prefix_byte rest := by
  cases buf with
  | nil => exact .inl ⟨_,rfl⟩
  | cons prefix_byte rest =>
    by_cases bounded : 1 + rest.length ≤ MAX_PKT_BUF_SIZE
    · by_cases kind : kind_of prefix_byte < 8
      · exact .inr (.inr ⟨prefix_byte,rest,rfl,bounded,kind⟩)
      · exact .inr (.inl ⟨prefix_byte,rest,rfl,bounded,kind⟩)
    · refine .inl ⟨.Packet .TooLarge,?_⟩
      unfold read
      dsimp only
      rw [if_pos (by omega)]
      rfl

/-- Which datagrams are read as a packet, and what that does to the window. -/
theorem read_ok_iff {buf : Bytes} {packet : Packet} :
    read p buf protocol_id timestamp key allowed_packets replay_protection = .ok packet replay' ↔
      ∃ prefix_byte rest, Framed buf prefix_byte rest ∧
        (prefix_byte = REQUEST ∧ read_request p rest protocol_id timestamp key = .ok packet ∧
            replay' = replay_protection ∨
          prefix_byte ≠ REQUEST ∧ ∃ suffix, Opens p prefix_byte rest protocol_id key replay_protection suffix ∧
            read_body (kind_of prefix_byte) suffix = .ok packet ∧
            replay' = advance (kind_of prefix_byte) (sequence_of prefix_byte rest) replay_protection) := by
  constructor
  · intro ok
    rcases read_cases p buf protocol_id timestamp key allowed_packets replay_protection with
      ⟨error,failed⟩ | ⟨prefix_byte,rest,isBuf,bounded,large⟩ | ⟨prefix_byte,rest,framed⟩
    · cases failed.symm.trans ok
    · cases (read_large_kind isBuf bounded large).symm.trans ok
    · refine ⟨prefix_byte,rest,framed,?_⟩
      rw [read_framed framed] at ok
      split at ok
      · next isRequest =>
        obtain ⟨packet,unchanged⟩ := lift_eq_ok.mp ok
        exact .inl ⟨isRequest,packet,unchanged⟩
      · next isRequest =>
        rw [read_encrypted_eq] at ok
        split at ok
        · cases ok
        · next sequence suffix decrypted =>
          obtain ⟨rfl,opens⟩ := decrypt_suffix_ok_iff.mp decrypted
          split at ok
          · next packet isPacket =>
            cases ok
            exact .inr ⟨isRequest,suffix,opens,isPacket,rfl⟩
          · cases ok
  · rintro ⟨prefix_byte,rest,framed,⟨isRequest,isPacket,rfl⟩ | ⟨isRequest,suffix,opens,isPacket,rfl⟩⟩
    · rw [read_framed framed,if_pos isRequest]
      exact lift_eq_ok.mpr ⟨isPacket,rfl⟩
    · rw [read_framed framed,if_neg isRequest,read_encrypted_eq,decrypt_suffix_ok_iff.mpr ⟨rfl,opens⟩]
      dsimp only
      rw [isPacket]

theorem read_panic_iff {buf : Bytes} :
    (∃ panic replay', read p buf protocol_id timestamp key allowed_packets replay_protection =
      .error (.Panic panic) replay') ↔
      ∃ prefix_byte rest, buf = prefix_byte :: rest ∧ 1 + rest.length ≤ MAX_PKT_BUF_SIZE ∧
        (¬kind_of prefix_byte < 8 ∨ kind_of prefix_byte < 8 ∧
          (prefix_byte = REQUEST ∧ (∃ panic, read_request p rest protocol_id timestamp key = .error (.Panic panic)) ∨
            prefix_byte ≠ REQUEST ∧ ∃ panic, decrypt_suffix p prefix_byte rest protocol_id key replay_protection =
              .error (.Panic panic))) := by
  constructor
  · rintro ⟨panic,replay',panicked⟩
    rcases read_cases p buf protocol_id timestamp key allowed_packets replay_protection with
      ⟨error,failed⟩ | ⟨prefix_byte,rest,isBuf,bounded,large⟩ | ⟨prefix_byte,rest,framed⟩
    · cases failed.symm.trans panicked
    · exact ⟨prefix_byte,rest,isBuf,bounded,.inl large⟩
    · refine ⟨prefix_byte,rest,framed.isBuf,framed.bounded,.inr ⟨framed.kind,?_⟩⟩
      rw [read_framed framed] at panicked
      split at panicked
      · next isRequest => exact .inl ⟨isRequest,panic,(lift_eq_error.mp panicked).1⟩
      · next isRequest =>
        refine .inr ⟨isRequest,panic,?_⟩
        rw [read_encrypted_eq] at panicked
        split at panicked
        · next failed =>
          cases panicked
          exact failed
        · split at panicked
          · cases panicked
          · next failed =>
            cases panicked
            exact absurd failed read_body_ne_panic
  · rintro ⟨prefix_byte,rest,isBuf,bounded,large | ⟨kind,⟨isRequest,panic,panicked⟩ | ⟨isRequest,panic,panicked⟩⟩⟩
    · exact ⟨_,_,read_large_kind isBuf bounded large⟩
    · refine ⟨panic,replay_protection,?_⟩
      rw [read_framed ⟨isBuf,bounded,kind⟩,if_pos isRequest]
      exact lift_eq_error.mpr ⟨panicked,rfl⟩
    · refine ⟨panic,replay_protection,?_⟩
      rw [read_framed ⟨isBuf,bounded,kind⟩,if_neg isRequest,read_encrypted_eq,panicked]

/-! ### Totality -/

theorem read_request_panic_iff :
    (∃ panic, read_request p rest protocol_id timestamp key = .error (.Panic panic)) ↔
      p.std = false ∧ ∃ request, parse RequestPacket.read_from rest = .ok request ∧
        request.validate protocol_id timestamp = .ok () ∧
        ∀ opened, decrypt true p.xchacha20poly1305 request.token_data
          (ConnectTokenPrivate.aead request.protocol_id request.expire_timestamp) request.token_nonce key ≠
            .ok opened := by
  constructor
  · rintro ⟨panic,panicked⟩
    rcases bind_eq_panic.mp panicked with panicked | ⟨request,parsed,panicked⟩
    · exact absurd (from_error_eq_panic.mp panicked) returned_ne_panic
    rcases bind_eq_panic.mp panicked with panicked | ⟨_,valid,panicked⟩
    · exact absurd (from_error_eq_panic.mp panicked) returned_ne_panic
    have isRequest := returned_eq_ok.mp (from_error_eq_ok.mp parsed)
    have isValid := returned_eq_ok.mp (from_error_eq_ok.mp valid)
    rcases bind_eq_panic.mp panicked with panicked | ⟨_,_,panicked⟩
    · rcases bind_eq_panic.mp panicked with panicked | ⟨_,_,panicked⟩
      · rcases bind_eq_panic.mp panicked with panicked | ⟨_,_,panicked⟩
        · obtain ⟨_,noStd,_,refused⟩ := decrypt_panic_iff.mp (from_error_eq_panic.mp panicked)
          exact ⟨noStd,request,isRequest,isValid,refused⟩
        · rcases bind_eq_panic.mp panicked with panicked | ⟨_,_,panicked⟩
          · exact absurd (from_error_eq_panic.mp panicked) returned_ne_panic
          · cases panicked
      · rcases bind_eq_panic.mp panicked with panicked | ⟨_,_,panicked⟩
        · exact absurd (from_error_eq_panic.mp panicked) returned_ne_panic
        · cases panicked
    · cases panicked
  · rintro ⟨noStd,request,isRequest,isValid,refused⟩
    have rejects := decrypt_panic_iff.mpr ⟨rfl,noStd,by decide,refused⟩
    refine ⟨.Expect,bind_eq_panic.mpr (.inr ⟨request,from_error_eq_ok.mpr (returned_eq_ok.mpr isRequest),?_⟩)⟩
    refine bind_eq_panic.mpr (.inr ⟨(),from_error_eq_ok.mpr (returned_eq_ok.mpr isValid),?_⟩)
    exact bind_eq_panic.mpr
      (.inl (bind_eq_panic.mpr (.inl (bind_eq_panic.mpr (.inl (from_error_eq_panic.mpr rejects))))))

theorem kind_le (packet : Packet) : packet.kind ≤ DISCONNECT := by
  unfold kind
  split <;> decide

theorem kind_of_body {pkt_kind : PacketKind} {suffix : Bytes} {packet : Packet}
    (isPacket : read_body pkt_kind suffix = .ok packet) : packet.kind = pkt_kind := by
  have mapped : ∀ {α : Type} {result : Except IoError α} {make : α → Packet},
      (from_error Error.Io (returned result)).map make = .ok packet → ∃ a, packet = make a := by
    intro α result make isMapped
    cases result with
    | ok a =>
      cases isMapped
      exact ⟨a,rfl⟩
    | error error => cases isMapped
  unfold read_body at isPacket
  split_ifs at isPacket
  all_goals first
    | (obtain ⟨_,rfl⟩ := mapped isPacket; symm; assumption)
    | (cases isPacket; symm; assumption)

/-- A first byte that announces a number of sequence bytes out of range or a kind that does not exist.
    The byte of a plain request announces no sequence number. -/
def InvalidPrefix (prefix_byte : UInt8) : Prop :=
  prefix_byte ≠ REQUEST ∧
    (sequence_bytes prefix_byte = 0 ∨ 8 < sequence_bytes prefix_byte ∨ DISCONNECT < kind_of prefix_byte)

/-- Reading ends without a panic, and with an error if the first byte is invalid. -/
def Total (p : Platform) (buf : Bytes) (protocol_id timestamp : UInt64) (key : Key) (allowed_packets : UInt8)
    (replay_protection : Option ReplayProtection) : Prop :=
  match read p buf protocol_id timestamp key allowed_packets replay_protection with
  | .ok _ _ => ∀ prefix_byte ∈ buf.head?, ¬InvalidPrefix prefix_byte
  | .error (.Err _) _ => True
  | .error (.Panic _) _ => False

/-- The datagrams on which `read` is not total. -/
inductive Breaks (p : Platform) (buf : Bytes) (protocol_id timestamp : UInt64) (key : Key)
    (replay_protection : Option ReplayProtection) : Prop
  /-- `1 << pkt_kind` overflows a `u8`. -/
  | kind {prefix_byte : UInt8} {rest : Bytes} (isBuf : buf = prefix_byte :: rest)
      (bounded : 1 + rest.length ≤ MAX_PKT_BUF_SIZE) (large : 8 ≤ kind_of prefix_byte)
  /-- `sequence[..sequence_len]` is out of range. -/
  | sequence_bytes {prefix_byte : UInt8} {rest : Bytes} (framed : Framed buf prefix_byte rest)
      (isRequest : prefix_byte ≠ REQUEST) (long : sequence_bytes prefix_byte + MAC_BYTES ≤ rest.length)
      (many : 8 < sequence_bytes prefix_byte)
  /-- `sequence + self.received_packet.len()` overflows. -/
  | window {prefix_byte : UInt8} {rest : Bytes} (framed : Framed buf prefix_byte rest)
      (isRequest : prefix_byte ≠ REQUEST) (long : sequence_bytes prefix_byte + MAC_BYTES ≤ rest.length)
      (fits : sequence_bytes prefix_byte ≤ 8) (has_window : replay_protection ≠ none)
      (applies : KEEP_ALIVE ≤ kind_of prefix_byte)
      (large : 2 ^ 64 ≤ (sequence_of prefix_byte rest).toNat + REPLAY_PROTECTION_BUFFER_SIZE)
  /-- A first byte without sequence bytes is accepted. -/
  | no_sequence_bytes {prefix_byte : UInt8} {rest suffix : Bytes} {packet : Packet}
    (framed : Framed buf prefix_byte rest)
      (isRequest : prefix_byte ≠ REQUEST) (none : sequence_bytes prefix_byte = 0)
      (opens : Opens p prefix_byte rest protocol_id key replay_protection suffix)
      (isPacket : read_body (kind_of prefix_byte) suffix = .ok packet)
  /-- Without `std`, `expect` on a packet that is not authentic. -/
  | forged_packet {prefix_byte : UInt8} {rest : Bytes} (framed : Framed buf prefix_byte rest)
      (isRequest : prefix_byte ≠ REQUEST) (noStd : p.std = false)
      (long : sequence_bytes prefix_byte + MAC_BYTES ≤ rest.length) (fits : sequence_bytes prefix_byte ≤ 8)
      (fresh : already_received replay_protection (kind_of prefix_byte) (sequence_of prefix_byte rest) = .ok false)
      (forged : ∀ suffix, ¬Authentic p true prefix_byte rest protocol_id key suffix)
  /-- Without `std`, `expect` on a request whose token is not authentic. -/
  | forged_request {rest : Bytes} {request : RequestPacket} (framed : Framed buf REQUEST rest) (noStd : p.std = false)
      (isRequest : parse RequestPacket.read_from rest = .ok request)
      (valid : request.validate protocol_id timestamp = .ok ())
      (forged : ∀ opened, decrypt true p.xchacha20poly1305 request.token_data
        (ConnectTokenPrivate.aead request.protocol_id request.expire_timestamp) request.token_nonce key ≠ .ok opened)

theorem total_iff {buf : Bytes} :
    Total p buf protocol_id timestamp key allowed_packets replay_protection ↔
      ¬(∃ panic replay', read p buf protocol_id timestamp key allowed_packets replay_protection =
        .error (.Panic panic) replay') ∧
      ∀ packet replay', read p buf protocol_id timestamp key allowed_packets replay_protection = .ok packet replay' →
        ∀ prefix_byte ∈ buf.head?, ¬InvalidPrefix prefix_byte := by
  unfold Total
  match returned : read p buf protocol_id timestamp key allowed_packets replay_protection with
  | .ok packet replay' =>
    constructor
    · intro valid
      refine ⟨?_,?_⟩
      · rintro ⟨_,_,panicked⟩
        cases panicked
      · intro _ _ _
        exact valid
    · exact fun total => total.2 packet replay' rfl
  | .error (.Err error) replay' =>
    refine iff_of_true trivial ⟨?_,?_⟩
    · rintro ⟨_,_,panicked⟩
      cases panicked
    · intro _ _ isPacket
      cases isPacket
  | .error (.Panic panic) replay' => exact iff_of_false not_false fun total => total.1 ⟨panic,replay',rfl⟩

/-- A datagram on which reading is not total makes it panic, or is accepted with an invalid first byte. -/
theorem breaks_iff {buf : Bytes} :
    Breaks p buf protocol_id timestamp key replay_protection ↔
      (∃ panic replay', read p buf protocol_id timestamp key allowed_packets replay_protection =
        .error (.Panic panic) replay') ∨
      ∃ packet replay', read p buf protocol_id timestamp key allowed_packets replay_protection = .ok packet replay' ∧
        ∃ prefix_byte ∈ buf.head?, InvalidPrefix prefix_byte := by
  rw [read_panic_iff]
  constructor
  · intro breaks
    cases breaks with
    | kind isBuf bounded large => exact .inl ⟨_,_,isBuf,bounded,.inl (UInt8.not_lt.mpr large)⟩
    | sequence_bytes framed isRequest long many =>
      refine .inl ⟨_,_,framed.isBuf,framed.bounded,.inr ⟨framed.kind,.inr ⟨isRequest,?_⟩⟩⟩
      exact decrypt_suffix_panic_iff.mpr ⟨long,.inl many⟩
    | window framed isRequest long fits has_window applies large =>
      refine .inl ⟨_,_,framed.isBuf,framed.bounded,.inr ⟨framed.kind,.inr ⟨isRequest,?_⟩⟩⟩
      exact decrypt_suffix_panic_iff.mpr ⟨long,.inr ⟨fits,.inl ⟨has_window,applies,large⟩⟩⟩
    | no_sequence_bytes framed isRequest none opens isPacket =>
      refine .inr ⟨_,_,read_ok_iff.mpr ⟨_,_,framed,.inr ⟨isRequest,_,opens,isPacket,rfl⟩⟩,?_⟩
      rw [framed.isBuf]
      exact ⟨_,rfl,isRequest,.inl none⟩
    | forged_packet framed isRequest noStd long fits fresh forged =>
      refine .inl ⟨_,_,framed.isBuf,framed.bounded,.inr ⟨framed.kind,.inr ⟨isRequest,?_⟩⟩⟩
      exact decrypt_suffix_panic_iff.mpr ⟨long,.inr ⟨fits,.inr ⟨fresh,noStd,forged⟩⟩⟩
    | forged_request framed noStd isRequest valid forged =>
      refine .inl ⟨_,_,framed.isBuf,framed.bounded,.inr ⟨framed.kind,.inl ⟨rfl,?_⟩⟩⟩
      exact read_request_panic_iff.mpr ⟨noStd,_,isRequest,valid,forged⟩
  · rintro (⟨prefix_byte,rest,isBuf,bounded,large | ⟨kind,⟨rfl,panics⟩ | ⟨isRequest,panics⟩⟩⟩ |
      ⟨packet,replay',ok,prefix_byte,isHead,invalid⟩)
    · exact .kind isBuf bounded (UInt8.not_lt.mp large)
    · obtain ⟨noStd,request,isRequest,valid,forged⟩ := read_request_panic_iff.mp panics
      exact .forged_request ⟨isBuf,bounded,kind⟩ noStd isRequest valid forged
    · rcases decrypt_suffix_panic_iff.mp panics with
        ⟨long,many | ⟨fits,⟨has_window,applies,large⟩ | ⟨fresh,noStd,forged⟩⟩⟩
      · exact .sequence_bytes ⟨isBuf,bounded,kind⟩ isRequest long many
      · exact .window ⟨isBuf,bounded,kind⟩ isRequest long fits has_window applies large
      · exact .forged_packet ⟨isBuf,bounded,kind⟩ isRequest noStd long fits fresh forged
    · obtain ⟨first,rest,framed,⟨isRequest,_⟩ | ⟨isRequest,suffix,opens,isPacket,_⟩⟩ := read_ok_iff.mp ok
      · rw [framed.isBuf] at isHead
        cases isHead
        exact absurd isRequest invalid.1
      · rw [framed.isBuf] at isHead
        cases isHead
        rcases invalid.2 with none | many | unknown
        · exact .no_sequence_bytes framed isRequest none opens isPacket
        · exact absurd opens.fits (Nat.not_le.mpr many)
        · rw [← kind_of_body isPacket] at unknown
          exact absurd unknown (UInt8.not_lt.mpr packet.kind_le)

/-- Reading a datagram is total unless it is of one of the kinds above. -/
theorem read_total_iff (p : Platform) (buf : Bytes) (protocol_id timestamp : UInt64) (key : Key)
    (allowed_packets : UInt8) (replay_protection : Option ReplayProtection) :
    Total p buf protocol_id timestamp key allowed_packets replay_protection ↔
      ¬Breaks p buf protocol_id timestamp key replay_protection := by
  rw [total_iff,@breaks_iff p protocol_id timestamp key replay_protection allowed_packets buf,not_or]
  refine and_congr Iff.rfl ⟨?_,?_⟩
  · rintro total ⟨packet,replay',ok,prefix_byte,isHead,invalid⟩
    exact total packet replay' ok prefix_byte isHead invalid
  · intro total packet replay' ok prefix_byte isHead invalid
    exact total ⟨packet,replay',ok,prefix_byte,isHead,invalid⟩

/-- Two bytes make the parser panic, and so do more of them whose first one announces nine sequence bytes. -/
theorem read_panics :
    ¬Total .shift [8,0] 0 0 (zeros 32) 0xFF none ∧
      ¬Total .shift (0x91 :: List.replicate 25 0) 0 0 (zeros 32) 0xFF none :=
  ⟨id,id⟩

end

end Packet

end Lightyear.Netcode
