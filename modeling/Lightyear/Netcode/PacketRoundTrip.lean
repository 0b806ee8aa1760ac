import Lightyear.Netcode.PacketRead

/-!
Packets that are written are read back: a number takes as many sequence bytes as it needs,
the first byte holds how many, and it is part of what is authenticated. A request is
written in the clear, and comes back with its token opened.
-/
namespace Lightyear.Netcode
open Calls Codec

theorem sequence_len_pos (sequence : UInt64) : 1 ≤ sequence_len sequence := Nat.le_max_right _ _

theorem sequence_len_le (sequence : UInt64) : sequence_len sequence ≤ 8 :=
  Nat.max_le.mpr ⟨Nat.sub_le _ _,by decide⟩

/-- As many bytes as the number needs. -/
theorem lt_sequence_len (sequence : UInt64) : sequence.toNat < 256 ^ sequence_len sequence := by
  have bound : sequence.toNat < 2 ^ 64 := sequence.toNat_lt
  by_cases isZero : sequence = 0
  · subst isZero
    exact Nat.pow_pos (by decide)
  · have nonzero : sequence.toNat ≠ 0 := fun same => isZero (UInt64.toNat_inj.mp same)
    have digits : Nat.log2 sequence.toNat < 64 := (Nat.log2_lt nonzero).mpr bound
    have enough : Nat.log2 sequence.toNat + 1 ≤ 8 * sequence_len sequence := by
      have atLeast : 8 - leading_zeros sequence / 8 ≤ sequence_len sequence := Nat.le_max_left _ _
      have zeros : leading_zeros sequence = 63 - Nat.log2 sequence.toNat := if_neg isZero
      omega
    calc sequence.toNat < 2 ^ (Nat.log2 sequence.toNat + 1) := Nat.lt_log2_self
      _ ≤ 2 ^ (8 * sequence_len sequence) := Nat.pow_le_pow_right (by decide) enough
      _ = 256 ^ sequence_len sequence := pow_mul 2 8 _

/-- The bytes of a number from its lowest on. -/
theorem toLE_eq_map (width n : Nat) :
    toLE width n = (List.range width).map (fun shift => UInt8.ofNat (n / 256 ^ shift)) := by
  induction width generalizing n with
  | zero => rfl
  | succ width ih =>
    rw [toLE,ih,List.range_succ_eq_map,List.map_cons,List.map_map,pow_zero,Nat.div_one]
    congr 1
    apply List.map_congr_left
    intro shift _
    rw [Function.comp_apply,pow_succ,Nat.mul_comm,Nat.div_div_eq_div_mul]

theorem write_sequence_eq (sequence : UInt64) :
    write_sequence sequence = toLE (sequence_len sequence) sequence.toNat := by
  rw [toLE_eq_map,write_sequence]
  apply List.map_congr_left
  intro shift member
  have small : shift * 8 < 64 := by
    have inside := List.mem_range.mp member
    have bound := sequence_len_le sequence
    omega
  apply UInt8.toNat_inj.mp
  have power : 2 ^ (shift * 8) = 256 ^ shift := by rw [Nat.mul_comm]; exact pow_mul 2 8 _
  rw [UInt8.toNat_ofNat',UInt64.toNat_toUInt8,UInt64.toNat_and,UInt64.toNat_shiftRight,
    UInt64.toNat_ofNat_of_lt' (Nat.lt_trans small (by decide)),Nat.mod_eq_of_lt small,Nat.shiftRight_eq_div_pow,power]
  change (_ &&& (2 ^ 8 - 1)) % 2 ^ 8 = _
  rw [Nat.and_two_pow_sub_one_eq_mod,Nat.mod_mod]

@[simp]
theorem length_write_sequence (sequence : UInt64) : (write_sequence sequence).length = sequence_len sequence := by
  rw [write_sequence_eq,length_toLE]

/-- Reading the bytes of a sequence number returns it. -/
theorem ofLE_write_sequence (sequence : UInt64) : UInt64.ofNat (ofLE (write_sequence sequence)) = sequence := by
  rw [write_sequence_eq,ofLE_toLE (lt_sequence_len sequence),UInt64.ofNat_toNat]

namespace Packet

/-- The first byte holds the number of sequence bytes and the kind. -/
theorem get_prefix_byte {kind : PacketKind} (known : kind ≤ DISCONNECT) (sequence : UInt64) :
    get_prefix (prefix_byte kind sequence) = (sequence_len sequence,kind) := by
  have all : ∀ len : Fin 9, ∀ kind : Fin 7,
      get_prefix (UInt8.ofNat len.val <<< 4 ||| UInt8.ofNat kind.val) = (len.val,UInt8.ofNat kind.val) := by decide
  have bound := sequence_len_le sequence
  have isKind : kind.toNat ≤ 6 := known
  have same := all ⟨sequence_len sequence,by omega⟩ ⟨kind.toNat,by omega⟩
  rwa [UInt8.ofNat_toNat] at same

theorem prefix_byte_ne_request {kind : PacketKind} (known : kind ≤ DISCONNECT) (sequence : UInt64) :
    prefix_byte kind sequence ≠ REQUEST := by
  intro isRequest
  have split := get_prefix_byte known sequence
  rw [isRequest] at split
  have positive := sequence_len_pos sequence
  have isZero : sequence_len sequence = 0 := (congrArg Prod.fst split).symm
  omega

end Packet

theorem reads_custom {reason : String} (short : (as_bytes reason).length ≤ 255) :
    Reads DeniedReason.read_custom (List.flatten [write_u8 (UInt8.ofNat (as_bytes reason).length),as_bytes reason])
      (.Custom reason) := by
  have isLen : (UInt8.ofNat (as_bytes reason).length).toNat = (as_bytes reason).length :=
    UInt8.toNat_ofNat_of_lt' (Nat.lt_of_le_of_lt short (by decide))
  refine (reads_u8 _).bind ?_
  rw [isLen]
  refine (Reads.take IoError.UnexpectedEof (as_bytes reason)).bind ?_
  rw [from_utf8_as_bytes]
  exact .pure _

/-- A reason is written, in few bytes, and read back, unless it is a custom text that is too long. -/
theorem reads_reason (reason : DeniedReason)
    (short : ∀ text, reason = .Custom text → (as_bytes text).length ≤ 255) :
    ∃ bytes, reason.write_to = .ok bytes ∧ bytes.length ≤ 257 ∧ Reads DeniedReason.read_from bytes reason := by
  cases reason with
  | Custom text =>
    have isShort := short text rfl
    refine ⟨_,if_neg (Nat.not_lt.mpr isShort),?_,?_⟩
    · simp only [List.flatten_cons,List.flatten_nil,List.append_nil,List.length_append,length_write_u8]
      omega
    · refine (reads_u8 6).bind ?_
      rw [if_neg (by decide),if_neg (by decide),if_neg (by decide),if_neg (by decide),if_neg (by decide),
        if_neg (by decide),if_pos rfl]
      exact reads_custom isShort
  | _ => exact ⟨_,rfl,by decide,(reads_u8 _).bind (Reads.pure _)⟩

namespace Packet

/-- What `write` accepts: a custom reason fits its length byte, and a payload is no longer than a packet. -/
def Writable : Packet → Prop
  | .Denied pkt => ∀ text, pkt.reason = .Custom text → (as_bytes text).length ≤ 255
  | .Payload pkt => pkt.buf.length ≤ MAX_PACKET_SIZE
  | _ => True

theorem parsed_body {α : Type} {parser : Reader α} {bytes : Bytes} {a : α} (reads : Reads parser bytes a)
    (make : α → Packet) (rest : Bytes) :
    (from_error Error.Io (returned (parse parser (bytes ++ rest)))).map make = .ok (make a) := by
  rw [reads.parse rest]
  rfl

/-- The body of every packet that is encrypted is written, in the size of a packet, and read back whatever the tag
    behind it. -/
theorem body_round_trip {packet : Packet} (encrypted : packet.kind ≠ REQUEST) (writable : packet.Writable) :
    ∃ body, packet.write_body = .ok body ∧ body.length ≤ MAX_PACKET_SIZE ∧
      ∀ mac : Tag, read_body packet.kind (body ++ mac.val) = .ok packet := by
  cases packet with
  | Request pkt => exact absurd rfl encrypted
  | Denied pkt =>
    obtain ⟨bytes,isWritten,short,reads⟩ := reads_reason pkt.reason writable
    have reads_packet := reads.map (fun reason => (⟨reason⟩ : DeniedPacket))
    exact ⟨bytes,isWritten,Nat.le_trans short (by decide),fun mac => parsed_body reads_packet .Denied mac.val⟩
  | Challenge pkt =>
    have reads : Reads ChallengePacket.read_from pkt.write_to pkt := (reads_u64 _).bind ((reads_exact _).bind (.pure _))
    have size : pkt.write_to.length = 308 := by simp [ChallengePacket.write_to,pkt.token.property,ChallengeToken.SIZE]
    exact ⟨pkt.write_to,rfl,by rw [size]; decide,fun mac => parsed_body reads .Challenge mac.val⟩
  | Response pkt =>
    have reads : Reads ResponsePacket.read_from pkt.write_to pkt := (reads_u64 _).bind ((reads_exact _).bind (.pure _))
    have size : pkt.write_to.length = 308 := by simp [ResponsePacket.write_to,pkt.token.property,ChallengeToken.SIZE]
    exact ⟨pkt.write_to,rfl,by rw [size]; decide,fun mac => parsed_body reads .Response mac.val⟩
  | KeepAlive pkt =>
    have reads : Reads KeepAlivePacket.read_from pkt.write_to pkt :=
      (reads_u64 _).map (fun client_id => (⟨client_id⟩ : KeepAlivePacket))
    have size : pkt.write_to.length = 8 := length_write_u64 _
    exact ⟨pkt.write_to,rfl,by rw [size]; decide,fun mac => parsed_body reads .KeepAlive mac.val⟩
  | Payload pkt =>
    refine ⟨pkt.buf,rfl,writable,fun mac => ?_⟩
    have before : (pkt.buf ++ mac.val).take ((pkt.buf ++ mac.val).length - MAC_BYTES) = pkt.buf := by
      rw [List.length_append,mac.property,Nat.add_sub_cancel,List.take_left]
    change Except.ok (Packet.Payload ⟨(pkt.buf ++ mac.val).take ((pkt.buf ++ mac.val).length - MAC_BYTES)⟩) = _
    rw [before]
  | Disconnect pkt => exact ⟨[],rfl,by decide,fun mac => rfl⟩

/-! ### Packets -/

section
variable {p : Platform} {packet : Packet} {sequence protocol_id timestamp : UInt64} {key : Key}

/-- What follows the first byte of a wire form. -/
def wire_rest (p : Platform) (packet : Packet) (sequence : UInt64) (key : Key) (protocol_id : UInt64) (body : Bytes) :
    Bytes :=
  write_sequence sequence ++
    sealed p.chacha20poly1305 body (aead protocol_id (prefix_byte packet.kind sequence)) (final_nonce sequence) key

/-- What is written of a packet that is encrypted. -/
def wire (p : Platform) (packet : Packet) (sequence : UInt64) (key : Key) (protocol_id : UInt64) (body : Bytes) :
    Bytes :=
  prefix_byte packet.kind sequence :: wire_rest p packet sequence key protocol_id body

/-- A packet that is not too long is written as its wire form. -/
theorem write_ok {body : Bytes} (encrypted : packet.kind ≠ REQUEST) (isBody : packet.write_body = .ok body)
    (short : body.length ≤ MAX_PACKET_SIZE) :
    packet.write p sequence key protocol_id = .ok (wire p packet sequence key protocol_id body) := by
  have few := sequence_len_le sequence
  have isShort : body.length ≤ 1200 := short
  have head : (write_u8 (prefix_byte packet.kind sequence) ++ write_sequence sequence).length =
      1 + sequence_len sequence := by
    rw [List.length_append,length_write_u8,length_write_sequence]
  have ok : write_encrypted p packet.kind sequence key protocol_id packet.write_body =
      .ok (wire p packet sequence key protocol_id body) := by
    obtain ⟨out,sealedOk,isSealed⟩ :=
      encrypt_ok p.chacha20poly1305 (aead protocol_id (prefix_byte packet.kind sequence))
      (final_nonce sequence) key (zeros MAC_BYTES).property
      (rfl : (⟨body ++ (zeros MAC_BYTES).val,rfl⟩ : Octets (body ++ (zeros MAC_BYTES).val).length).val = _)
    unfold write_encrypted
    simp only [isBody,returned_ok,from_error_ok,ok_bind,head]
    rw [if_neg (by simp only [MAX_PKT_BUF_SIZE]; omega),if_neg (by simp only [MAX_PKT_BUF_SIZE,MAC_BYTES]; omega)]
    simp only [chacha_encrypt,sealedOk,returned_ok,from_error_ok,ok_bind,isSealed]
    rw [List.append_assoc,write_u8_eq]
    rfl
  cases packet with
  | Request pkt => exact absurd rfl encrypted
  | _ => exact ok

theorem sequence_bytes_written : sequence_bytes (prefix_byte packet.kind sequence) = sequence_len sequence :=
  congrArg Prod.fst ( get_prefix_byte packet.kind_le sequence)

theorem kind_of_written : kind_of (prefix_byte packet.kind sequence) = packet.kind :=
  congrArg Prod.snd ( get_prefix_byte packet.kind_le sequence)

theorem sequence_of_wire (body : Bytes) :
    sequence_of (prefix_byte packet.kind sequence) (wire_rest p packet sequence key protocol_id body) = sequence := by
  rw [sequence_of,sequence_bytes_written,wire_rest,← length_write_sequence,List.take_left,ofLE_write_sequence]

/-- A wire form is opened by the key it was sealed with. -/
theorem opens_wire (inverts : p.chacha20poly1305.Inverts) {body : Bytes} {replay_protection : Option ReplayProtection}
    (fresh : already_received replay_protection packet.kind sequence = .ok false) :
    ∃ mac : Tag, Opens p (prefix_byte packet.kind sequence)
      (wire_rest p packet sequence key protocol_id body) protocol_id
      key replay_protection (body ++ mac.val) := by
  have isEncrypted : (encrypted_of (prefix_byte packet.kind sequence)
      (wire_rest p packet sequence key protocol_id body)).val =
        sealed p.chacha20poly1305 body (aead protocol_id (prefix_byte packet.kind sequence))
          (final_nonce sequence) key := by
    change List.drop (sequence_bytes (prefix_byte packet.kind sequence)) _ = _
    rw [sequence_bytes_written,wire_rest,← length_write_sequence,List.drop_left]
  obtain ⟨opened,decrypted,isOpened⟩ := decrypt_sealed p.std inverts isEncrypted
  refine ⟨_,⟨?_,?_,?_,opened,?_,isOpened⟩⟩
  · rw [sequence_bytes_written,wire_rest,List.length_append,length_write_sequence,length_sealed]
    omega
  · rw [sequence_bytes_written]
    exact sequence_len_le sequence
  · rw [kind_of_written,sequence_of_wire]
    exact fresh
  · rw [sequence_of_wire]
    exact decrypted

theorem framed_wire {body : Bytes} (short : body.length ≤ MAX_PACKET_SIZE) :
    Framed (wire p packet sequence key protocol_id body) (prefix_byte packet.kind sequence)
      (wire_rest p packet sequence key protocol_id body) := by
  have few := sequence_len_le sequence
  have isShort : body.length ≤ 1200 := short
  refine ⟨rfl,?_,?_⟩
  · rw [wire_rest,List.length_append,length_write_sequence,length_sealed]
    simp only [MAX_PKT_BUF_SIZE,MAC_BYTES]
    omega
  · rw [kind_of_written]
    exact Nat.lt_of_le_of_lt packet.kind_le (by decide)

/-- Every packet that is encrypted is read back from what is written of it. -/
theorem encrypted_round_trip (inverts : p.chacha20poly1305.Inverts) (encrypted : packet.kind ≠ REQUEST)
    (writable : packet.Writable) {allowed_packets : UInt8} {replay_protection : Option ReplayProtection}
    (fresh : already_received replay_protection packet.kind sequence = .ok false) :
    ∃ bytes, packet.write p sequence key protocol_id = .ok bytes ∧ bytes.length ≤ MAX_PKT_BUF_SIZE ∧
      read p bytes protocol_id timestamp key allowed_packets replay_protection =
        .ok packet (advance packet.kind sequence replay_protection) := by
  obtain ⟨body,isBody,short,parsed⟩ := body_round_trip encrypted writable
  have framed : Framed (wire p packet sequence key protocol_id body) (prefix_byte packet.kind sequence)
      (wire_rest p packet sequence key protocol_id body) := framed_wire short
  obtain ⟨mac,opens⟩ := @opens_wire p packet sequence protocol_id key inverts body replay_protection fresh
  refine ⟨_,write_ok encrypted isBody short,?_,?_⟩
  · rw [framed.isBuf,List.length_cons]
    have bound := framed.bounded
    omega
  · refine read_ok_iff.mpr ⟨_,_,framed,.inr ⟨prefix_byte_ne_request packet.kind_le sequence,_,opens,?_,?_⟩⟩
    · rw [kind_of_written]
      exact parsed mac
    · rw [kind_of_written,sequence_of_wire]

end

end Packet

theorem ConnectTokenPrivate.decrypt_ok_iff {p : Platform} {encrypted decrypted : Octets SIZE}
    {token : ConnectTokenPrivate}
    {protocol_id expire_timestamp : UInt64} {nonce : XNonce} {private_key : Key} :
    ConnectTokenPrivate.decrypt p encrypted protocol_id expire_timestamp nonce private_key = .ok (token,decrypted) ↔
      xchacha_decrypt p encrypted (aead protocol_id expire_timestamp) nonce private_key = .ok decrypted ∧
        parse read_from decrypted.val = .ok token := by
  constructor
  · intro opened
    obtain ⟨buf,decrypted,opened⟩ := bind_eq_ok.mp opened
    obtain ⟨read,parsed,opened⟩ := bind_eq_ok.mp opened
    cases opened
    exact ⟨from_error_eq_ok.mp decrypted,returned_eq_ok.mp (from_error_eq_ok.mp parsed)⟩
  · rintro ⟨opened,parsed⟩
    exact bind_eq_ok.mpr ⟨_,from_error_eq_ok.mpr opened,
      bind_eq_ok.mpr ⟨_,from_error_eq_ok.mpr (returned_eq_ok.mpr parsed),rfl⟩⟩

namespace RequestPacket

variable {p : Platform} {key : Key} {self opened : RequestPacket}

/-- Writing the private data back leaves the decrypted buffer as it is. -/
theorem decrypt_token_data_ok_iff :
    self.decrypt_token_data p key = .ok opened ↔
      ∃ token decrypted, ConnectTokenPrivate.decrypt p self.token_data self.protocol_id self.expire_timestamp
        self.token_nonce key = .ok (token,decrypted) ∧ opened = { self with token_data := decrypted } := by
  have unchanged : ∀ {token : ConnectTokenPrivate} {decrypted : Octets ConnectTokenPrivate.SIZE},
      ConnectTokenPrivate.decrypt p self.token_data self.protocol_id self.expire_timestamp self.token_nonce key =
        .ok (token,decrypted) → overwrite IoError.WriteZero decrypted token.write_to = .ok decrypted := by
    intro token decrypted isOpened
    obtain ⟨bytes,rest,isBuf,rfl,_⟩ :=
      ConnectTokenPrivate.takes.parse (ConnectTokenPrivate.decrypt_ok_iff.mp isOpened).2
    exact overwrite_front _ isBuf
  constructor
  · intro isOpened
    obtain ⟨⟨token,decrypted⟩,isToken,isOpened⟩ := bind_eq_ok.mp isOpened
    obtain ⟨buf,written,isOpened⟩ := bind_eq_ok.mp isOpened
    rw [unchanged isToken] at written
    cases written
    cases isOpened
    exact ⟨token,decrypted,isToken,rfl⟩
  · rintro ⟨token,decrypted,isToken,rfl⟩
    refine bind_eq_ok.mpr ⟨(token,decrypted),isToken,bind_eq_ok.mpr ⟨decrypted,?_,rfl⟩⟩
    rw [unchanged isToken]
    rfl

theorem reads (self : RequestPacket) : Reads RequestPacket.read_from self.write_to self :=
  (reads_exact _).bind <| (reads_u64 _).bind <| (reads_u64 _).bind <| (reads_exact _).bind <|
    (reads_exact _).bind (.pure _)

theorem length_write_to (self : RequestPacket) : self.write_to.length = 1077 := by
  simp [write_to,self.version_info.property,self.token_nonce.property,self.token_data.property,ConnectTokenPrivate.SIZE]

end RequestPacket

namespace Packet

theorem read_request_ok_iff {p : Platform} {body : Bytes} {protocol_id timestamp : UInt64} {key : Key}
    {packet : Packet} :
    read_request p body protocol_id timestamp key = .ok packet ↔
      ∃ sent opened, parse RequestPacket.read_from body = .ok sent ∧ sent.validate protocol_id timestamp = .ok () ∧
        sent.decrypt_token_data p key = .ok opened ∧ packet = .Request opened := by
  constructor
  · intro isPacket
    obtain ⟨sent,parsed,isPacket⟩ := bind_eq_ok.mp isPacket
    obtain ⟨_,valid,isPacket⟩ := bind_eq_ok.mp isPacket
    obtain ⟨opened,isOpened,isPacket⟩ := bind_eq_ok.mp isPacket
    cases isPacket
    exact ⟨sent,opened,returned_eq_ok.mp (from_error_eq_ok.mp parsed),returned_eq_ok.mp (from_error_eq_ok.mp valid),
      isOpened,rfl⟩
  · rintro ⟨sent,opened,parsed,valid,isOpened,rfl⟩
    refine bind_eq_ok.mpr ⟨sent,from_error_eq_ok.mpr (returned_eq_ok.mpr parsed),?_⟩
    refine bind_eq_ok.mpr ⟨(),from_error_eq_ok.mpr (returned_eq_ok.mpr valid),?_⟩
    exact bind_eq_ok.mpr ⟨opened,isOpened,rfl⟩

section
variable {p : Platform} {sent : RequestPacket} {token : ConnectTokenPrivate} {protocol_id timestamp : UInt64}
  {key : Key}

/-- A request with a sealed token is written in the clear, and read with the token opened, whatever the sequence
    number and the key it was written with. -/
theorem request_round_trip (inverts : p.xchacha20poly1305.Inverts) (nonempty : token.server_addresses.addrs ≠ [])
    (valid : sent.validate protocol_id timestamp = .ok ())
    (encrypted : token.encrypt p sent.protocol_id sent.expire_timestamp sent.token_nonce key = .ok sent.token_data)
    (sequence : UInt64) (packet_key : Key) (allowed_packets : UInt8) (replay_protection : Option ReplayProtection) :
    ∃ bytes, (Packet.Request sent).write p sequence packet_key protocol_id = .ok bytes ∧
      bytes.length ≤ MAX_PKT_BUF_SIZE ∧
      ∃ token_data : Octets ConnectTokenPrivate.SIZE,
        token_data.val = padded ConnectTokenPrivate.SIZE MAC_BYTES token.write_to ++
          (mac_of p.xchacha20poly1305 (padded ConnectTokenPrivate.SIZE MAC_BYTES token.write_to)
            (ConnectTokenPrivate.aead sent.protocol_id sent.expire_timestamp) sent.token_nonce key).val ∧
        read p bytes protocol_id timestamp key allowed_packets replay_protection =
          .ok (.Request { sent with token_data := token_data }) replay_protection := by
  have size : (write_u8 REQUEST ++ sent.write_to).length = 1078 := by
    rw [List.length_append,length_write_u8,sent.length_write_to]
  have isWritten : (Packet.Request sent).write p sequence packet_key protocol_id =
      .ok (write_u8 REQUEST ++ sent.write_to) := if_neg (by rw [size]; decide)
  obtain ⟨token_data,isOpened,isBuf⟩ := ConnectTokenPrivate.decrypt_ok inverts nonempty encrypted
  have opens := RequestPacket.decrypt_token_data_ok_iff.mpr ⟨token.unscoped,token_data,isOpened,rfl⟩
  have parsed : parse RequestPacket.read_from sent.write_to = .ok sent := by
    rw [← List.append_nil sent.write_to]
    exact sent.reads.parse []
  have framed : Framed (write_u8 REQUEST ++ sent.write_to) REQUEST sent.write_to := by
    refine ⟨by rw [write_u8_eq]; rfl,?_,by decide⟩
    rw [sent.length_write_to]
    decide
  refine ⟨_,isWritten,by rw [size]; decide,token_data,isBuf,?_⟩
  exact read_ok_iff.mpr ⟨REQUEST,_,framed,.inl ⟨rfl,read_request_ok_iff.mpr ⟨sent,_,parsed,valid,opens,rfl⟩,rfl⟩⟩

end

/-! ### Every packet -/

/-- A sequence number that a window with this history takes for new: it was not given to the window, is not too old
    for it, and is not one of the last numbers of all. -/
structure Fresh (sequence : UInt64) (history : List UInt64) : Prop where
  unseen : sequence ∉ history
  recent : ∀ other ∈ history, other.toNat < sequence.toNat + REPLAY_PROTECTION_BUFFER_SIZE
  fits : sequence.toNat + REPLAY_PROTECTION_BUFFER_SIZE < 2 ^ 64

theorem fresh_not_received {kind : PacketKind} {sequence : UInt64} {seen : Option (List UInt64)}
    (fresh : KEEP_ALIVE ≤ kind → ∀ history ∈ seen, Fresh sequence history) :
    already_received (seen.map ReplayProtection.of) kind sequence = .ok false := by
  unfold already_received
  cases seen with
  | none => rfl
  | some history =>
    by_cases applies : KEEP_ALIVE ≤ kind
    · have isFresh := fresh applies history rfl
      exact (if_pos applies).trans (ReplayProtection.not_received isFresh.unseen isFresh.recent isFresh.fits)
    · exact if_neg applies

/-- Every packet but a request is read back as it was written, and a request is read back with its token opened. -/
theorem packet_round_trip (p : Platform) (chacha : p.chacha20poly1305.Inverts) (xchacha : p.xchacha20poly1305.Inverts)
    (sequence protocol_id timestamp : UInt64) (key : Key) (allowed_packets : UInt8) (seen : Option (List UInt64)) :
    (∀ packet : Packet, packet.kind ≠ REQUEST → packet.Writable →
      (KEEP_ALIVE ≤ packet.kind → ∀ history ∈ seen, Fresh sequence history) →
        ∃ bytes, packet.write p sequence key protocol_id = .ok bytes ∧ bytes.length ≤ MAX_PKT_BUF_SIZE ∧
          read p bytes protocol_id timestamp key allowed_packets (seen.map ReplayProtection.of) =
            .ok packet (advance packet.kind sequence (seen.map ReplayProtection.of))) ∧
    (∀ (sent : RequestPacket) (token : ConnectTokenPrivate), token.server_addresses.addrs ≠ [] →
      sent.validate protocol_id timestamp = .ok () →
      token.encrypt p sent.protocol_id sent.expire_timestamp sent.token_nonce key = .ok sent.token_data →
        ∃ bytes, (Packet.Request sent).write p sequence key protocol_id = .ok bytes ∧ bytes.length ≤ MAX_PKT_BUF_SIZE ∧
          ∃ token_data : Octets ConnectTokenPrivate.SIZE,
            token_data.val = padded ConnectTokenPrivate.SIZE MAC_BYTES token.write_to ++
              (mac_of p.xchacha20poly1305 (padded ConnectTokenPrivate.SIZE MAC_BYTES token.write_to)
                (ConnectTokenPrivate.aead sent.protocol_id sent.expire_timestamp) sent.token_nonce key).val ∧
            read p bytes protocol_id timestamp key allowed_packets (seen.map ReplayProtection.of) =
              .ok (.Request { sent with token_data := token_data }) (seen.map ReplayProtection.of)) := by
  constructor
  · intro packet encrypted writable fresh
    exact encrypted_round_trip chacha encrypted writable (fresh_not_received fresh)
  · intro sent token nonempty valid encrypted
    exact request_round_trip xchacha nonempty valid encrypted sequence key allowed_packets _

/-- The private data of a client on one local server. -/
def local_token : ConnectTokenPrivate :=
  ⟨0,15,⟨[.V4 ⟨[127,0,0,1],rfl⟩ 5000],by decide⟩,zeros 32,zeros 32,zeros 256⟩

theorem packet_round_trip_local :
    (∃ bytes, (Packet.KeepAlive ⟨7⟩).write .shift 300 (zeros 32) 42 = .ok bytes ∧ bytes.length ≤ MAX_PKT_BUF_SIZE ∧
      read .shift bytes 42 0 (zeros 32) 0xFF (some (ReplayProtection.of [298,299])) =
        .ok (.KeepAlive ⟨7⟩) (advance KEEP_ALIVE 300 (some (ReplayProtection.of [298,299])))) ∧
    ∃ sent bytes opened, (Packet.Request sent).write .shift 300 (zeros 32) 42 = .ok bytes ∧
      read .shift bytes 42 0 (zeros 32) 0xFF none = .ok (.Request opened) none := by
  constructor
  · refine (packet_round_trip .shift (Cipher.shift_inverts 12) (Cipher.shift_inverts 24) 300 42 0 (zeros 32) 0xFF
      (some [298,299])).1 (.KeepAlive ⟨7⟩) (by decide) trivial (fun _ history known => ?_)
    cases known
    refine ⟨by decide,?_,by decide⟩
    exact List.forall_mem_cons.mpr ⟨by decide,List.forall_mem_cons.mpr ⟨by decide,fun _ member => (nomatch member)⟩⟩
  · obtain ⟨private_data,encrypted,_⟩ := local_token.encrypt_ok .shift 42 1 (zeros 24) (zeros 32)
    obtain ⟨bytes,isWritten,_,token_data,_,isRead⟩ := (packet_round_trip .shift (Cipher.shift_inverts 12)
      (Cipher.shift_inverts 24) 300 42 0 (zeros 32) 0xFF none).2
        ⟨NETCODE_VERSION,42,1,zeros 24,private_data⟩ local_token
      (by decide) rfl encrypted
    exact ⟨_,bytes,_,isWritten,isRead⟩

/-- A request does not come back as it was written: its token is not the sealed one any more. -/
theorem request_not_read_back :
    ∃ sent bytes, (Packet.Request sent).write .shift 0 (zeros 32) 42 = .ok bytes ∧
      ∀ replay', read .shift bytes 42 0 (zeros 32) 0xFF none ≠ .ok (.Request sent) replay' := by
  obtain ⟨private_data,encrypted,isSealed⟩ := local_token.encrypt_ok .shift 42 1 (zeros 24) (zeros 32)
  obtain ⟨bytes,isWritten,_,token_data,isBuf,isRead⟩ := @request_round_trip .shift
    ⟨NETCODE_VERSION,42,1,zeros 24,private_data⟩ local_token 42 0 (zeros 32) (Cipher.shift_inverts 24) (by decide) rfl
    encrypted 0 (zeros 32) 0xFF none
  refine ⟨_,bytes,isWritten,fun replay' same => ?_⟩
  injection isRead.symm.trans same with isPacket _
  have isData : token_data = private_data := congrArg RequestPacket.token_data (Packet.Request.inj isPacket)
  have heads : token_data.val.head? = private_data.val.head? := by rw [isData]
  dsimp only at isBuf
  rw [isBuf,isSealed] at heads
  exact absurd heads (by decide +kernel)

end Packet

end Lightyear.Netcode
