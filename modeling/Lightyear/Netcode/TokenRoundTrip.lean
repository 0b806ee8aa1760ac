import Lightyear.Netcode.Token

/-!
What a token is written as is read back, but for the flow info and the scope of its IPv6
addresses, which the format has no place for.
-/
namespace Lightyear.Netcode
open Calls Codec

theorem reads_addr (addr : SocketAddr) : Reads SocketAddr.read_from addr.write_to addr.unscoped := by
  cases addr with
  | V4 ip port =>
    refine ((reads_u8 IPV4).mapErr _).bind ?_
    rw [if_pos rfl]
    exact ((reads_exact ip).mapErr _).bind (((reads_u16 port).mapErr _).bind (.pure _))
  | V6 ip port flowinfo scope_id =>
    refine ((reads_u8 IPV6).mapErr _).bind ?_
    rw [if_neg (by decide),if_pos rfl]
    exact ((reads_exact ip).mapErr _).bind (((reads_u16 port).mapErr _).bind (.pure _))

theorem length_addr_le (addr : SocketAddr) : addr.write_to.length ≤ 19 := by
  cases addr with
  | V4 ip port => simp [SocketAddr.write_to,ip.property]
  | V6 ip port flowinfo scope_id => simp [SocketAddr.write_to,ip.property]

theorem reads_addrs {addrs : List SocketAddr} {count : Nat} (isCount : count = addrs.length) :
    Reads (AddressList.read_addrs count) (addrs.flatMap SocketAddr.write_to)
      ⟨addrs.map SocketAddr.unscoped,by rw [List.length_map,isCount]⟩ := by
  subst isCount
  induction addrs with
  | nil => exact .pure _
  | cons addr addrs ih =>
    rw [List.flatMap_cons,← List.append_nil (addrs.flatMap SocketAddr.write_to)]
    exact (reads_addr addr).bind (ih.bind (.pure _))

theorem length_addrs_le (addrs : List SocketAddr) : (addrs.flatMap SocketAddr.write_to).length ≤ 19 * addrs.length := by
  induction addrs with
  | nil => exact Nat.le_refl _
  | cons addr addrs ih =>
    have first := length_addr_le addr
    rw [List.flatMap_cons,List.length_append,List.length_cons]
    omega

namespace AddressList

theorem reads {self : AddressList} (nonempty : self.addrs ≠ []) :
    Reads AddressList.read_from self.write_to self.unscoped := by
  have bound := self.bounded
  have isLen : (UInt32.ofNat self.len).toNat = self.addrs.length :=
    UInt32.toNat_ofNat_of_lt' (Nat.lt_of_le_of_lt bound (by decide))
  refine ((reads_u32 _).mapErr _).bind ?_
  rw [dif_pos ⟨by rw [isLen]; exact List.length_pos_iff.mpr nonempty,by rw [isLen]; exact bound⟩]
  exact (reads_addrs isLen).bind (.pure _)

theorem length_write_to_le (self : AddressList) : self.write_to.length ≤ 612 := by
  have bound : self.addrs.length ≤ 32 := self.bounded
  have addrs := length_addrs_le self.addrs
  simp only [write_to,List.flatten_cons,List.flatten_nil,List.append_nil,List.length_append,length_write_u32]
  omega

end AddressList

theorem takes_addr :
    Takes SocketAddr.read_from (fun addr bytes => bytes = addr.write_to ∧ addr.unscoped = addr) := by
  refine (takes_u8.mapErr _).bind ?_
  rintro addr_type bytes rfl
  split
  · next isV4 =>
    refine ((takes_exact 4).mapErr _).bind ?_
    rintro octets _ rfl
    refine (takes_u16.mapErr _).bind ?_
    rintro port _ rfl
    exact .pure ⟨by rw [isV4]; rfl,rfl⟩
  · split
    · next isV6 =>
      refine ((takes_exact 16).mapErr _).bind ?_
      rintro octets _ rfl
      refine (takes_u16.mapErr _).bind ?_
      rintro port _ rfl
      exact .pure ⟨by rw [isV6]; rfl,rfl⟩
    · exact .throw _ _

theorem takes_addrs (count : Nat) : Takes (AddressList.read_addrs count)
    (fun addrs bytes => bytes = addrs.val.flatMap SocketAddr.write_to ∧ addrs.val.map SocketAddr.unscoped =
      addrs.val) := by
  induction count with
  | zero => exact .pure ⟨rfl,rfl⟩
  | succ count ih =>
    refine takes_addr.bind ?_
    rintro addr _ ⟨rfl,plain⟩
    refine ih.bind ?_
    rintro rest _ ⟨rfl,plain_rest⟩
    refine .pure ⟨?_,?_⟩
    · rw [List.append_nil,List.flatMap_cons]
    · rw [List.map_cons,plain,plain_rest]

theorem takes_list : Takes AddressList.read_from
    (fun self bytes => bytes = self.write_to ∧ self.unscoped = self ∧ self.addrs ≠ []) := by
  refine (takes_u32.mapErr _).bind ?_
  rintro len _ rfl
  split
  · next inside =>
    refine (takes_addrs _).bind ?_
    rintro ⟨addrs,isLen⟩ _ ⟨rfl,plain⟩
    refine .pure ⟨?_,?_,?_⟩
    · rw [AddressList.write_to,AddressList.len,isLen,UInt32.ofNat_toNat]
      rfl
    · rw [AddressList.unscoped,AddressList.mk.injEq]
      exact plain
    · have positive : 0 < addrs.length := isLen.symm ▸ inside.1
      exact List.length_pos_iff.mp positive
  · exact .throw _ _

namespace ConnectTokenPrivate

def unscoped (self : ConnectTokenPrivate) : ConnectTokenPrivate :=
  { self with server_addresses := self.server_addresses.unscoped }

theorem reads {self : ConnectTokenPrivate} (nonempty : self.server_addresses.addrs ≠ []) :
    Reads ConnectTokenPrivate.read_from self.write_to self.unscoped :=
  (reads_u64 _).bind <| (reads_i32 _).bind <| ((AddressList.reads nonempty).mapErr _).bind <|
    (reads_exact _).bind <| (reads_exact _).bind <| (reads_exact _).bind (.pure _)

theorem length_write_to_le (self : ConnectTokenPrivate) : self.write_to.length + MAC_BYTES ≤ SIZE := by
  have addresses := self.server_addresses.length_write_to_le
  simp only [write_to,List.flatten_cons,List.flatten_nil,List.append_nil,List.length_append,length_write_u64,
    length_write_i32,self.client_to_server_key.property,self.server_to_client_key.property,self.user_data.property,
    PRIVATE_KEY_BYTES,USER_DATA_BYTES,MAC_BYTES,SIZE]
  omega

/-- Private data that are accepted are written as what they were read from. -/
theorem takes : Takes ConnectTokenPrivate.read_from
    (fun self bytes => bytes = self.write_to ∧ self.unscoped = self ∧ self.server_addresses.addrs ≠ []) := by
  refine takes_u64.bind ?_
  rintro client_id _ rfl
  refine takes_i32.bind ?_
  rintro timeout_seconds _ rfl
  refine (takes_list.mapErr _).bind ?_
  rintro server_addresses _ ⟨rfl,plain,nonempty⟩
  refine (takes_exact _).bind ?_
  rintro client_to_server_key _ rfl
  refine (takes_exact _).bind ?_
  rintro server_to_client_key _ rfl
  refine (takes_exact _).bind ?_
  rintro user_data _ rfl
  refine .pure ⟨rfl,?_,nonempty⟩
  rw [unscoped,plain]

/-- What is sealed is padded with zeros. -/
theorem encrypt_ok (p : Platform) (self : ConnectTokenPrivate) (protocol_id expire_timestamp : UInt64) (nonce : XNonce)
    (private_key : Key) :
    ∃ private_data, self.encrypt p protocol_id expire_timestamp nonce private_key = .ok private_data ∧
      private_data.val = sealed p.xchacha20poly1305 (padded SIZE MAC_BYTES self.write_to)
        (aead protocol_id expire_timestamp) nonce private_key := by
  obtain ⟨buf,filled,isBuf⟩ := fill_room IoError.WriteZero self.length_write_to_le
  obtain ⟨private_data,encrypted,isSealed⟩ := Netcode.encrypt_ok p.xchacha20poly1305
    (aead protocol_id expire_timestamp) nonce private_key List.length_replicate isBuf
  refine ⟨private_data,?_,isSealed⟩
  simp only [encrypt,xchacha_encrypt,filled,returned_ok,from_error_ok,ok_bind,encrypted]

/-- Opening what was sealed returns the private data, and leaves them in the buffer. -/
theorem decrypt_ok {p : Platform} (inverts : p.xchacha20poly1305.Inverts) {self : ConnectTokenPrivate}
    (nonempty : self.server_addresses.addrs ≠ []) {protocol_id expire_timestamp : UInt64} {nonce : XNonce}
    {private_key : Key} {private_data : Octets SIZE}
    (encrypted : self.encrypt p protocol_id expire_timestamp nonce private_key = .ok private_data) :
    ∃ decrypted, decrypt p private_data protocol_id expire_timestamp nonce private_key = .ok (self.unscoped,decrypted) ∧
      decrypted.val = padded SIZE MAC_BYTES self.write_to ++
        (mac_of p.xchacha20poly1305 (padded SIZE MAC_BYTES self.write_to) (aead protocol_id expire_timestamp) nonce
          private_key).val := by
  obtain ⟨other,ok,isSealed⟩ := self.encrypt_ok p protocol_id expire_timestamp nonce private_key
  cases ok.symm.trans encrypted
  obtain ⟨decrypted,opened,isOpened⟩ := decrypt_sealed p.std inverts isSealed
  refine ⟨decrypted,?_,isOpened⟩
  have parsed : parse read_from decrypted.val = .ok self.unscoped := by
    rw [isOpened,padded,List.append_assoc]
    exact (reads nonempty).parse _
  simp only [decrypt,xchacha_decrypt,opened,from_error_ok,ok_bind,parsed,returned_ok]
  rfl

end ConnectTokenPrivate

namespace ChallengeToken

theorem reads (self : ChallengeToken) : Reads ChallengeToken.read_from self.write_to self :=
  (reads_u64 _).bind <| (reads_exact _).bind (.pure _)

theorem length_write_to (self : ChallengeToken) : self.write_to.length = 264 := by
  simp [write_to,self.user_data.property,USER_DATA_BYTES]

theorem encrypt_ok (p : Platform) (self : ChallengeToken) (sequence : UInt64) (private_key : Key) :
    ∃ token, self.encrypt p sequence private_key = .ok token := by
  have fits : self.write_to.length + MAC_BYTES ≤ SIZE := by rw [length_write_to]; decide
  obtain ⟨buf,filled,isBuf⟩ := fill_room IoError.WriteZero fits
  obtain ⟨token,encrypted,_⟩ := Netcode.encrypt_ok p.chacha20poly1305 [] (final_nonce sequence) private_key
    List.length_replicate isBuf
  refine ⟨token,?_⟩
  simp only [encrypt,chacha_encrypt,filled,returned_ok,from_error_ok,ok_bind,encrypted]

end ChallengeToken

namespace ConnectToken

def unscoped (self : ConnectToken) : ConnectToken := { self with server_addresses := self.server_addresses.unscoped }

theorem reads {self : ConnectToken} (version : self.version_info = NETCODE_VERSION)
    (ordered : self.create_timestamp ≤ self.expire_timestamp) (nonempty : self.server_addresses.addrs ≠ []) :
    Reads ConnectToken.read_from self.write_to self.unscoped := by
  refine ((reads_exact _).mapErr _).bind ?_
  rw [if_neg (not_not_intro version)]
  refine ((reads_u64 _).mapErr _).bind <| ((reads_u64 _).mapErr _).bind <| ((reads_u64 _).mapErr _).bind ?_
  rw [if_neg (UInt64.not_lt.mpr ordered)]
  exact ((reads_exact _).mapErr _).bind <| ((reads_exact _).mapErr _).bind <| ((reads_i32 _).mapErr _).bind <|
    (AddressList.reads nonempty).bind <| ((reads_exact _).mapErr _).bind <| ((reads_exact _).mapErr _).bind (.pure _)

theorem length_write_to_le (self : ConnectToken) : self.write_to.length ≤ CONNECT_TOKEN_BYTES := by
  have addresses := self.server_addresses.length_write_to_le
  simp only [write_to,List.flatten_cons,List.flatten_nil,List.append_nil,List.length_append,length_write_u64,
    length_write_i32,self.version_info.property,self.nonce.property,self.private_data.property,
    self.client_to_server_key.property,self.server_to_client_key.property,PRIVATE_KEY_BYTES,ConnectTokenPrivate.SIZE,
    CONNECT_TOKEN_BYTES]
  omega

/-- A well-formed token fits its fixed size, and is read back. -/
theorem read_back {self : ConnectToken} (version : self.version_info = NETCODE_VERSION)
    (ordered : self.create_timestamp ≤ self.expire_timestamp) (nonempty : self.server_addresses.addrs ≠ []) :
    ∃ bytes, self.try_into_bytes = .ok bytes ∧ ConnectToken.try_from_bytes bytes.val = .ok self.unscoped := by
  obtain ⟨bytes,filled,isBytes⟩ := fill_ok IoError.Other self.length_write_to_le
  refine ⟨bytes,filled,?_⟩
  rw [ConnectToken.try_from_bytes,isBytes]
  exact (reads version ordered nonempty).parse _

end ConnectToken

/-! ### Generated tokens -/

/-- What a builder seals. -/
def ConnectTokenBuilder.private_token (self : ConnectTokenBuilder) (client_to_server_key server_to_client_key : Key) :
    ConnectTokenPrivate :=
  ⟨self.client_id,self.timeout_seconds,
    self.internal_server_addresses.getD (AddressList.new self.public_server_addresses),client_to_server_key,
    server_to_client_key,self.user_data⟩

theorem expire_timestamp_ge {self : ConnectTokenBuilder} {now expire_timestamp : UInt64}
    (expires : self.expire_timestamp now = .ok expire_timestamp) : now ≤ expire_timestamp := by
  unfold ConnectTokenBuilder.expire_timestamp at expires
  rw [UInt64.le_iff_toNat_le]
  split at expires
  · cases expires
    exact Nat.le_of_lt_succ now.toNat_lt
  · rw [checked_add_ok expires]
    exact Nat.le_add_right _ _

/-- A generated token is ordered, and its private data are sealed for its own expiry. -/
theorem generate_ok {p : Platform} {self : ConnectTokenBuilder} {now : UInt64}
    {client_to_server_key server_to_client_key : Key} {nonce : XNonce} {token : ConnectToken}
    (generated : self.generate p now client_to_server_key server_to_client_key nonce = .ok token) :
    token.version_info = NETCODE_VERSION ∧ token.create_timestamp ≤ token.expire_timestamp ∧
      token.server_addresses = AddressList.new self.public_server_addresses ∧
      (self.private_token client_to_server_key server_to_client_key).encrypt p token.protocol_id
        token.expire_timestamp token.nonce self.private_key = .ok token.private_data := by
  obtain ⟨expire_timestamp,expires,generated⟩ := bind_eq_ok.mp generated
  obtain ⟨private_data,encrypted,generated⟩ := bind_eq_ok.mp generated
  cases generated
  exact ⟨rfl,expire_timestamp_ge expires,rfl,encrypted⟩

/-- A token is generated unless its expiry overflows. -/
theorem generate_of_expires (p : Platform) (self : ConnectTokenBuilder) (now : UInt64) {expire_timestamp : UInt64}
    (expires : self.expire_timestamp now = .ok expire_timestamp) (client_to_server_key server_to_client_key : Key)
    (nonce : XNonce) : ∃ token, self.generate p now client_to_server_key server_to_client_key nonce = .ok token := by
  obtain ⟨private_data,encrypted,_⟩ := (self.private_token client_to_server_key server_to_client_key).encrypt_ok p
    self.protocol_id expire_timestamp nonce self.private_key
  exact ⟨_,bind_eq_ok.mpr ⟨_,expires,bind_eq_ok.mpr ⟨private_data,encrypted,rfl⟩⟩⟩

/-- A generated token is written in the fixed size and read back, and opening its private data returns what was
    sealed, but for the flow info and the scope of IPv6 addresses. -/
theorem token_round_trip (p : Platform) (inverts : p.xchacha20poly1305.Inverts) (builder : ConnectTokenBuilder)
    (now : UInt64) (client_to_server_key server_to_client_key : Key) (nonce : XNonce) (token : ConnectToken)
    (some_public : builder.public_server_addresses ≠ [])
    (some_internal : ∀ addresses, builder.internal_server_addresses = some addresses → addresses.addrs ≠ [])
    (generated : builder.generate p now client_to_server_key server_to_client_key nonce = .ok token) :
    ∃ bytes : Octets CONNECT_TOKEN_BYTES, token.try_into_bytes = .ok bytes ∧
      ConnectToken.try_from_bytes bytes.val = .ok token.unscoped ∧
      ∃ decrypted, ConnectTokenPrivate.decrypt p token.private_data token.protocol_id token.expire_timestamp
        token.nonce builder.private_key =
          .ok ((builder.private_token client_to_server_key server_to_client_key).unscoped,decrypted) := by
  obtain ⟨version,ordered,isPublic,encrypted⟩ := generate_ok generated
  have public_nonempty : (AddressList.new builder.public_server_addresses).addrs ≠ [] := by
    simp [AddressList.new,some_public]
  have private_nonempty :
      (builder.private_token client_to_server_key server_to_client_key).server_addresses.addrs ≠ [] := by
    unfold ConnectTokenBuilder.private_token
    cases isInternal : builder.internal_server_addresses with
    | none => exact public_nonempty
    | some addresses => exact some_internal addresses isInternal
  obtain ⟨bytes,written,parsed⟩ := ConnectToken.read_back version ordered (isPublic ▸ public_nonempty)
  obtain ⟨decrypted,opened,_⟩ := ConnectTokenPrivate.decrypt_ok inverts private_nonempty encrypted
  exact ⟨bytes,written,parsed,decrypted,opened⟩

/-- A builder for one link-local server address. -/
def link_local (scope_id : UInt32) : ConnectTokenBuilder :=
  ⟨7,42,30,zeros 32,15,[.V6 ⟨[0xfe,0x80,0,0,0,0,0,0,0,0,0,0,0,0,0,1],rfl⟩ 5000 0 scope_id],none,zeros 256⟩

theorem token_round_trip_link_local :
    ∃ token, (link_local 0).generate .shift 100 (zeros 32) (zeros 32) (zeros 24) = .ok token ∧
      ∃ bytes : Octets CONNECT_TOKEN_BYTES, token.try_into_bytes = .ok bytes ∧
        ConnectToken.try_from_bytes bytes.val = .ok token := by
  obtain ⟨token,generated⟩ := generate_of_expires .shift (link_local 0) 100 rfl (zeros 32) (zeros 32)
    (zeros 24)
  obtain ⟨bytes,written,parsed,_⟩ := token_round_trip .shift (Cipher.shift_inverts 24) (link_local 0) 100 (zeros 32)
    (zeros 32) (zeros 24) token (by decide) (by intro addresses internal; cases internal) generated
  have same : token.unscoped = token := by
    rw [ConnectToken.unscoped,(generate_ok generated).2.2.1]
    cases token
    simp only [ConnectToken.mk.injEq,true_and,and_true]
    exact (generate_ok generated).2.2.1.symm
  exact ⟨token,generated,bytes,written,same ▸ parsed⟩

/-- The scope of an address is not read back. -/
theorem scope_not_read_back :
    ∃ token, (link_local 3).generate .shift 100 (zeros 32) (zeros 32) (zeros 24) = .ok token ∧
      ∀ bytes : Octets CONNECT_TOKEN_BYTES, token.try_into_bytes = .ok bytes →
        ConnectToken.try_from_bytes bytes.val ≠ .ok token := by
  obtain ⟨token,generated⟩ := generate_of_expires .shift (link_local 3) 100 rfl (zeros 32) (zeros 32)
    (zeros 24)
  obtain ⟨version,ordered,isPublic,_⟩ := generate_ok generated
  obtain ⟨bytes,written,parsed⟩ := ConnectToken.read_back version ordered (isPublic ▸ by decide)
  refine ⟨token,generated,fun other same equal => ?_⟩
  cases written.symm.trans same
  have unscoped : token.server_addresses.unscoped = token.server_addresses :=
    congrArg ConnectToken.server_addresses (Except.ok.inj (parsed.symm.trans equal))
  rw [isPublic] at unscoped
  exact absurd unscoped (by decide)

end Lightyear.Netcode
