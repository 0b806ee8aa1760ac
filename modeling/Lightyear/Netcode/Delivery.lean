import Lightyear.Netcode.ClientNonces
import Lightyear.Netcode.Dispatch
import Lightyear.Netcode.ReplayWindow

/-!
What a client takes from its link. Whatever datagrams arrive, in whatever order and however
often, the payloads that a client puts back into the link from when it is connected until
it is not any more are payloads that were sealed for it, each of them once.
-/
namespace Lightyear.Netcode
open Calls Codec Runs

/-- What a cipher has sealed with a key, when the packets of a history were encrypted. -/
def SealedIn (history : List Sealed) (protocol_id : UInt64) (key : Key) (nonce : Octets 12)
    (associated_data plain : Bytes) : Prop :=
  ∃ entry ∈ history,entry.key = key ∧ nonce = final_nonce entry.sequence ∧
    associated_data = Packet.aead protocol_id (Packet.prefix_byte entry.packet.kind entry.sequence) ∧
    entry.packet.write_body = .ok plain

def Packet.payload : Packet → Option Bytes
  | .Payload packet => some packet.buf
  | _ => none

/-- The payload of a packet that was sealed. -/
def Sealed.payload (entry : Sealed) : Option Bytes := entry.packet.payload

theorem final_nonce_injective {one other : UInt64} (same : final_nonce one = final_nonce other) : one = other := by
  have bytes : toBE 8 one.toNat = toBE 8 other.toNat := List.append_cancel_left (congrArg Subtype.val same)
  have numbers := congrArg ofBE bytes
  have range : (256 : Nat) ^ 8 = 2 ^ 64 := by decide
  rw [ofBE_toBE,ofBE_toBE,range,Nat.mod_eq_of_lt one.toNat_lt,Nat.mod_eq_of_lt other.toNat_lt] at numbers
  exact UInt64.toNat_inj.mp numbers

/-- A history as the record of a cipher. -/
def record_of (protocol_id : UInt64) (history : List Sealed) : List (Key × Octets 12 × Bytes × Bytes) :=
  history.filterMap fun entry => entry.packet.write_body.toOption.map fun plain =>
    (entry.key,final_nonce entry.sequence,
      Packet.aead protocol_id (Packet.prefix_byte entry.packet.kind entry.sequence),plain)

/-- A cipher that accepts with one key nothing but what is in a record. -/
def Cipher.guarded {n : Nat} (cipher : Cipher n) (key : Key) (record : List (Key × Octets n × Bytes × Bytes)) :
    Cipher n where
  encrypt_in_place_detached := cipher.encrypt_in_place_detached
  decrypt_in_place_detached other nonce associated_data buffer tag :=
    if other = key then (cipher.recorded record).decrypt_in_place_detached other nonce associated_data buffer tag
    else cipher.decrypt_in_place_detached other nonce associated_data buffer tag
  length_encrypt := cipher.length_encrypt
  length_decrypt other nonce associated_data buffer tag plain accepted := by
    split at accepted
    · exact (cipher.recorded record).length_decrypt _ _ _ _ _ _ accepted
    · exact cipher.length_decrypt _ _ _ _ _ _ accepted

/-- A platform where nothing is accepted with a key but what is in a history. -/
def Platform.guarded (protocol_id : UInt64) (key : Key) (history : List Sealed) : Platform :=
  { Platform.shift with chacha20poly1305 := (Cipher.shift 12).guarded key (record_of protocol_id history) }

theorem Platform.guarded_rejects (protocol_id : UInt64) (key : Key) (history : List Sealed) :
    (Platform.guarded protocol_id key history).chacha20poly1305.Rejects key (SealedIn history protocol_id key) := by
  intro nonce associated_data buffer tag plain accepted
  have inRecord := Cipher.recorded_rejects _ (record_of protocol_id history) key _ _ _ _ _
    ((if_pos rfl).symm.trans accepted)
  obtain ⟨entry,member,isEntry⟩ := List.mem_filterMap.mp inRecord
  obtain ⟨body,isBody,same⟩ := Option.map_eq_some_iff.mp isEntry
  cases same
  refine ⟨entry,member,rfl,rfl,rfl,?_⟩
  cases written : entry.packet.write_body with
  | ok other =>
    rw [written] at isBody
    exact congrArg Except.ok (Option.some.inj isBody)
  | error error =>
    rw [written] at isBody
    cases isBody

namespace Packet

theorem aead_injective {protocol_id : UInt64} {one other : UInt8}
    (same : aead protocol_id one = aead protocol_id other) :
    one = other := by
  unfold aead at same
  simp only [List.flatten_cons,List.flatten_nil,List.append_nil] at same
  have bytes := List.append_cancel_left (List.append_cancel_left same)
  rw [write_u8_eq,write_u8_eq] at bytes
  exact List.singleton_inj.mp bytes

/-- A packet of a connection is read from its body, however long a payload is. -/
theorem read_body_written {packet : Packet} {body : Bytes} (late : KEEP_ALIVE ≤ packet.kind)
    (isBody : packet.write_body = .ok body) (mac : Tag) : read_body packet.kind (body ++ mac.val) = .ok packet := by
  have encrypted : packet.kind ≠ REQUEST := by
    intro isRequest
    rw [isRequest] at late
    exact absurd late (by decide)
  cases packet with
  | Payload packet =>
    cases isBody
    have before : (packet.buf ++ mac.val).take ((packet.buf ++ mac.val).length - MAC_BYTES) = packet.buf := by
      rw [List.length_append,mac.property,Nat.add_sub_cancel,List.take_left]
    change Except.ok (Packet.Payload ⟨(packet.buf ++ mac.val).take ((packet.buf ++ mac.val).length - MAC_BYTES)⟩) = _
    rw [before]
  | KeepAlive packet =>
    obtain ⟨written,isWritten,-,parsed⟩ := body_round_trip encrypted trivial
    cases isBody.symm.trans isWritten
    exact parsed mac
  | Disconnect packet =>
    obtain ⟨written,isWritten,-,parsed⟩ := body_round_trip encrypted trivial
    cases isBody.symm.trans isWritten
    exact parsed mac
  | Request _ => exact absurd late (by decide : ¬KEEP_ALIVE ≤ REQUEST)
  | Denied _ => exact absurd late (by decide : ¬KEEP_ALIVE ≤ DENIED)
  | Challenge _ => exact absurd late (by decide : ¬KEEP_ALIVE ≤ CHALLENGE)
  | Response _ => exact absurd late (by decide : ¬KEEP_ALIVE ≤ RESPONSE)

variable {p : Platform} {buf : Bytes} {protocol_id timestamp : UInt64} {key : Key} {allowed_packets : UInt8}
  {history : List Sealed} {replay_protection : Option ReplayProtection}

/-- A packet of a connection that is opened was sealed: it is an entry of the history, and read back as it is. -/
theorem opened_in_history {prefix_byte : UInt8} {rest suffix : Bytes}
    (rejects : p.chacha20poly1305.Rejects key (SealedIn history protocol_id key))
    (opens : Opens p prefix_byte rest protocol_id key replay_protection suffix)
    (late : KEEP_ALIVE ≤ kind_of prefix_byte) :
    ∃ entry ∈ history,entry.key = key ∧ entry.sequence = sequence_of prefix_byte rest ∧
      entry.packet.kind = kind_of prefix_byte ∧
      read_body (kind_of prefix_byte) suffix = .ok entry.packet := by
  obtain ⟨opened,decrypted,rfl⟩ := opens.authentic
  obtain ⟨front,plain,mac,-,isOpened,accepted⟩ := decrypt_ok decrypted
  obtain ⟨entry,member,isKey,isNonce,isData,isBody⟩ := rejects _ _ _ _ _ accepted
  have isSequence := final_nonce_injective isNonce
  have isKind : kind_of prefix_byte = entry.packet.kind := by rw [aead_injective isData,kind_of_written]
  refine ⟨entry,member,isKey,isSequence.symm,isKind.symm,?_⟩
  rw [isKind] at late
  rw [isKind,isOpened]
  exact read_body_written late isBody mac

/-- An entry that is read as a new packet of a connection. -/
structure Opened (history : List Sealed) (key : Key) (replay_protection : Option ReplayProtection) (entry : Sealed) :
    Prop where
  member : entry ∈ history
  isKey : entry.key = key
  late : KEEP_ALIVE ≤ entry.packet.kind
  fresh : already_received replay_protection entry.packet.kind entry.sequence = .ok false

/-- What is read is no packet of a connection, or an entry of the history whose number the window is given. -/
theorem read_ok_sealed {packet : Packet} {replay' : Option ReplayProtection}
    (rejects : p.chacha20poly1305.Rejects key (SealedIn history protocol_id key))
    (isRead : read p buf protocol_id timestamp key allowed_packets replay_protection = .ok packet replay') :
    packet.kind < KEEP_ALIVE ∧ replay' = replay_protection ∨
      ∃ entry,Opened history key replay_protection entry ∧ entry.packet = packet ∧
        replay' = replay_protection.map (·.advance_sequence entry.sequence) := by
  obtain ⟨prefix_byte,rest,-,⟨-,isPacket,same⟩ | ⟨-,suffix,opens,isPacket,moved⟩⟩ := read_ok_iff.mp isRead
  · obtain ⟨-,opened,-,-,-,rfl⟩ := read_request_ok_iff.mp isPacket
    exact .inl ⟨(by decide : REQUEST < KEEP_ALIVE),same⟩
  by_cases late : KEEP_ALIVE ≤ kind_of prefix_byte
  · obtain ⟨entry,member,isKey,isSequence,isKind,isEntry⟩ := opened_in_history rejects opens late
    refine .inr ⟨entry,⟨member,isKey,isKind ▸ late,?_⟩,Except.ok.inj (isEntry.symm.trans isPacket),?_⟩
    · rw [isKind,isSequence]
      exact opens.fresh
    · rw [moved,isSequence]
      exact if_pos late
  · refine .inl ⟨?_,moved.trans (if_neg late)⟩
    rw [kind_of_body isPacket]
    exact UInt8.not_le.mp late

/-- What cannot be read leaves the window as it is: nobody has sealed a packet of a connection that has no body. -/
theorem read_err_sealed {error : Error} {replay' : Option ReplayProtection}
    (rejects : p.chacha20poly1305.Rejects key (SealedIn history protocol_id key))
    (failed : read p buf protocol_id timestamp key allowed_packets replay_protection = .error (.Err error) replay') :
    replay' = replay_protection := by
  rcases read_cases p buf protocol_id timestamp key allowed_packets replay_protection with
    ⟨_,isError⟩ | ⟨prefix_byte,rest,isBuf,bounded,large⟩ | ⟨prefix_byte,rest,framed⟩
  · cases isError.symm.trans failed
    rfl
  · cases (read_large_kind isBuf bounded large).symm.trans failed
  rw [read_framed framed] at failed
  split at failed
  · exact (lift_eq_error.mp failed).2
  rw [read_encrypted_eq] at failed
  cases decrypted : decrypt_suffix p prefix_byte rest protocol_id key replay_protection with
  | error failure =>
    rw [decrypted] at failed
    cases failed
    rfl
  | ok opened =>
    obtain ⟨sequence,suffix⟩ := opened
    obtain ⟨rfl,opens⟩ := decrypt_suffix_ok_iff.mp decrypted
    rw [decrypted] at failed
    dsimp only at failed
    by_cases late : KEEP_ALIVE ≤ kind_of prefix_byte
    · obtain ⟨entry,-,-,-,-,isEntry⟩ := opened_in_history rejects opens late
      rw [isEntry] at failed
      cases failed
    · rw [show advance (kind_of prefix_byte) (sequence_of prefix_byte rest) replay_protection = replay_protection
        from if_neg late] at failed
      cases body : read_body (kind_of prefix_byte) suffix with
      | ok packet =>
        rw [body] at failed
        cases failed
      | error failure =>
        rw [body] at failed
        cases failed
        rfl

end Packet

namespace Client
variable {F : Type}

section
variable (p : Platform)

/-- `recv_packets`, with the payloads that it puts back into the link. -/
def recv_payloads (now : UInt64) : List Bytes → Call Error (Client F) (List Bytes)
  | [] => pure []
  | buf :: bufs => do
    let payload ← recv_packet p buf now
    let payloads ← recv_payloads now bufs
    pure (payload.toList ++ payloads)

/-- The payloads of a loop that was not aborted. -/
def put_back : EStateM.Result (Failure Error) (Client F) (List Bytes) → List Bytes
  | .ok payloads _ => payloads
  | .error _ _ => []

/-- The payloads that an event puts back into the link. -/
def delivered [F64 F] (self : Client F) : Event F → List Bytes
  | .Update delta_ms bufs (some now) =>
    put_back (recv_payloads p now bufs { self with time := F64.add self.time delta_ms })
  | _ => []

/-- What is delivered as long as the client is connected after the events. -/
def session [F64 F] : Client F → List (Event F) → List Bytes
  | _, [] => []
  | self, event :: events =>
    self.delivered p event ++
      match step p self event with
      | some after => if after.state = .Connected then session after events else []
      | none => []

end

theorem recv_packets_eq {p : Platform} (bufs : List Bytes) (now : UInt64) :
    (recv_packets p bufs (some now) : Call Error (Client F) PUnit) = recv_payloads p now bufs >>= fun _ => pure ⟨⟩ := by
  change bufs.forM _ = _
  induction bufs with
  | nil => rfl
  | cons buf bufs ih =>
    change (recv_packet p buf now >>= fun _ => pure PUnit.unit) >>= (fun _ => bufs.forM _) = _
    rw [ih,recv_payloads]
    simp only [bind_assoc,pure_bind]

/-! ### Sessions -/

/-- The client and the packets that it has taken since it is connected, which it was told by a keep-alive packet. -/
structure Tracks (history : List Sealed) (s : Client F) (taken : List Sealed) : Prop where
  told : s.state = .Connected → ∃ entry ∈ history,entry.key = s.token.server_to_client_key ∧
    entry.packet = .KeepAlive ⟨s.id⟩
  remembers : s.state = .Connected → s.replay_protection.Remembers (taken.map Sealed.sequence)
  idle : s.state ≠ .Connected → s.replay_protection = .new ∧ taken = []
  sent : ∀ entry ∈ taken,entry ∈ history ∧ entry.key = s.token.server_to_client_key
  stops : s.should_disconnect_state ≠ .Connected

/-- The session goes on as it is. -/
structure Quiet (s s' : Client F) : Prop where
  id : s'.id = s.id
  state : s'.state = s.state
  window : s'.replay_protection = s.replay_protection
  token : s'.token = s.token
  stops : s'.should_disconnect_state = s.should_disconnect_state

instance : Std.Refl (Quiet (F := F)) := ⟨fun _ => ⟨rfl,rfl,rfl,rfl,rfl⟩⟩

instance : IsTrans (Client F) Quiet where
  trans _ _ _ first second := ⟨second.id.trans first.id,second.state.trans first.state,second.window.trans first.window,
    second.token.trans first.token,second.stops.trans first.stops⟩

/-- The session is over. -/
structure Over (s s' : Client F) : Prop where
  state : s'.state ≠ .Connected
  window : s'.replay_protection = .new
  token : s'.token = s.token
  stops : s'.should_disconnect_state ≠ .Connected

variable {p : Platform} {s s' : Client F} {history taken : List Sealed}

theorem Tracks.quiet (tracks : s.Tracks history taken) (quiet : Quiet s s') : s'.Tracks history taken where
  told connected := by
    rw [quiet.token,quiet.id]
    exact tracks.told (quiet.state ▸ connected)
  remembers connected := quiet.window ▸ tracks.remembers (quiet.state ▸ connected)
  idle apart := quiet.window ▸ tracks.idle (quiet.state ▸ apart)
  sent := quiet.token ▸ tracks.sent
  stops := quiet.stops ▸ tracks.stops

theorem Over.tracks (ended : Over s s') (history : List Sealed) : s'.Tracks history [] where
  told connected := absurd connected ended.state
  remembers connected := absurd connected ended.state
  idle _ := ⟨ended.window,rfl⟩
  sent _ member := absurd member List.not_mem_nil
  stops := ended.stops

theorem Tracks.distinct (tracks : s.Tracks history taken) : (taken.map Sealed.sequence).Nodup := by
  by_cases connected : s.state = .Connected
  · exact (tracks.remembers connected).distinct
  · rw [(tracks.idle connected).2]
    exact List.nodup_nil

theorem tracks_of_token [F64 F] (token : ConnectToken) (cfg : ClientConfig F) (history : List Sealed) :
    (of_token token cfg).Tracks history [] := by
  have idle : ClientState.Disconnected ≠ .Connected := by decide
  exact Over.tracks ⟨idle,rfl,rfl,idle⟩ history

/-- A packet leaves the window to `read_packet`, and does not end a session by itself. A keep-alive packet
can start one. -/
structure Processed (packet : Packet) (s s' : Client F) : Prop where
  window : s'.replay_protection = s.replay_protection
  token : s'.token = s.token
  stops : s.should_disconnect_state ≠ .Connected → s'.should_disconnect_state ≠ .Connected
  stays : s.state = .Connected → s'.state = .Connected ∧ s'.id = s.id
  starts : s'.state = .Connected → s.state = .Connected ∨ packet = .KeepAlive ⟨s'.id⟩

theorem process_packet_ok {packet : Packet} {payload : Option Bytes}
    (processed : process_packet packet s = .ok payload s') :
    Processed packet s s' ∧ payload = if s.state = .Connected then packet.payload else none := by
  have denied : ClientState.ConnectionDenied ≠ .Connected := by decide
  have disconnected : ClientState.Disconnected ≠ .Connected := by decide
  have apart : ∀ {state : ClientState},s.state = state → state ≠ .Connected → s.state ≠ .Connected :=
    fun isState differs connected => differs (isState.symm.trans connected)
  unfold process_packet at processed
  split at processed
  · next isState =>
    cases processed
    exact ⟨⟨rfl,rfl,fun _ => denied,fun stays => ⟨stays,rfl⟩,.inl⟩,(if_neg (apart isState (by decide))).symm⟩
  · next isState =>
    cases processed
    exact ⟨⟨rfl,rfl,fun _ => denied,fun stays => ⟨stays,rfl⟩,.inl⟩,(if_neg (apart isState (by decide))).symm⟩
  · next isState =>
    cases processed
    exact ⟨⟨rfl,rfl,fun stops => stops,fun connected => absurd connected (apart isState (by decide)),
      fun connected => absurd connected (by change ClientState.SendingChallengeResponse ≠ .Connected; decide)⟩,
      (if_neg (apart isState (by decide))).symm⟩
  · next isState =>
    cases processed
    exact ⟨⟨rfl,rfl,fun stops => stops,fun stays => ⟨stays,rfl⟩,.inl⟩,(if_pos isState).symm⟩
  · next isState =>
    cases processed
    exact ⟨⟨rfl,rfl,fun stops => stops,fun connected => absurd connected (apart isState (by decide)),fun _ => .inr rfl⟩,
      (if_neg (apart isState (by decide))).symm⟩
  · next isState =>
    cases processed
    exact ⟨⟨rfl,rfl,fun stops => stops,fun stays => ⟨stays,rfl⟩,.inl⟩,(if_pos isState).symm⟩
  · next isState =>
    cases processed
    exact ⟨⟨rfl,rfl,fun _ => disconnected,fun stays => ⟨stays,rfl⟩,.inl⟩,(if_pos isState).symm⟩
  · next packet _ _ _ _ _ _ _ noPayload _ =>
    cases processed
    refine ⟨⟨rfl,rfl,fun stops => stops,fun stays => ⟨stays,rfl⟩,.inl⟩,?_⟩
    cases packet with
    | Payload packet => exact (if_neg (noPayload packet rfl)).symm
    | _ => exact (ite_self none).symm

/-- The packet of a datagram that is read while the client is connected is taken, unless it belongs to no connection. -/
theorem read_packet_connected {buf : Bytes} {now : UInt64} {packet : Option Packet}
    (rejects : p.chacha20poly1305.Rejects s.token.server_to_client_key
      (SealedIn history s.token.protocol_id s.token.server_to_client_key))
    (connected : s.state = .Connected) (isRead : read_packet p buf now s = .ok packet s') :
    (∀ other ∈ packet,other.kind < Packet.KEEP_ALIVE) ∧ s' = s ∨
      ∃ entry,Packet.Opened history s.token.server_to_client_key (some s.replay_protection) entry ∧
        packet = some entry.packet ∧
        s' = { s with replay_protection := s.replay_protection.advance_sequence entry.sequence } := by
  unfold read_packet at isRead
  rw [if_pos connected] at isRead
  split at isRead
  · cases isRead
    exact .inl ⟨fun _ isNone => (Option.not_mem_none _ isNone).elim,rfl⟩
  split at isRead
  · next packet window returned =>
    cases isRead
    rcases Packet.read_ok_sealed rejects returned with ⟨early,rfl⟩ | ⟨entry,opened,rfl,rfl⟩
    · exact .inl ⟨fun other isOther => Option.some.inj isOther ▸ early,rfl⟩
    · exact .inr ⟨entry,opened,rfl,rfl⟩
  · next error window failed =>
    cases isRead
    rw [Packet.read_err_sealed rejects failed]
    exact .inl ⟨fun _ isNone => (Option.not_mem_none _ isNone).elim,rfl⟩
  · cases isRead

/-- There is no window yet for what is read before the client is connected. -/
theorem read_packet_apart {buf : Bytes} {now : UInt64} {packet : Option Packet}
    (rejects : p.chacha20poly1305.Rejects s.token.server_to_client_key
      (SealedIn history s.token.protocol_id s.token.server_to_client_key))
    (apart : s.state ≠ .Connected) (isRead : read_packet p buf now s = .ok packet s') :
    s' = s ∧ ∀ keep_alive : KeepAlivePacket,packet = some (.KeepAlive keep_alive) →
      ∃ entry ∈ history,entry.key = s.token.server_to_client_key ∧ entry.packet = .KeepAlive keep_alive := by
  unfold read_packet at isRead
  rw [if_neg apart] at isRead
  split at isRead
  · cases isRead
    exact ⟨rfl,fun _ isPacket => by cases isPacket⟩
  split at isRead
  · next packet window returned =>
    cases isRead
    rcases Packet.read_ok_sealed rejects returned with ⟨early,rfl⟩ | ⟨entry,opened,rfl,rfl⟩
    · refine ⟨rfl,fun keep_alive isPacket => ?_⟩
      cases isPacket
      exact absurd early (by decide : ¬Packet.KEEP_ALIVE < Packet.KEEP_ALIVE)
    · exact ⟨rfl,fun keep_alive isPacket => ⟨entry,opened.member,opened.isKey,Option.some.inj isPacket⟩⟩
  · next error window failed =>
    cases isRead
    rw [Packet.read_err_sealed rejects failed]
    exact ⟨rfl,fun _ isPacket => by cases isPacket⟩
  · cases isRead

/-- The window takes the number of a packet that it does not know. -/
theorem Tracks.take {entry : Sealed} (tracks : s.Tracks history taken) (connected : s.state = .Connected)
    (opened : Packet.Opened history s.token.server_to_client_key (some s.replay_protection) entry) :
    ({ s with replay_protection := s.replay_protection.advance_sequence entry.sequence } : Client F).Tracks history
      (taken ++ [entry]) := by
  have fresh : s.replay_protection.is_already_received entry.sequence = (.ok false : Fallible Error Bool) :=
    (if_pos opened.late).symm.trans opened.fresh
  have fits : entry.sequence.toNat + REPLAY_PROTECTION_BUFFER_SIZE < 2 ^ 64 := by
    by_contra overflows
    cases fresh.symm.trans (ReplayProtection.is_already_received_panic_iff.mpr ⟨rfl,not_lt.mp overflows⟩)
  have remembers := tracks.remembers connected
  have acceptable : ReplayProtection.Acceptable (taken.map Sealed.sequence) entry.sequence := by
    have checked := Except.ok.inj ((remembers.check fits).symm.trans fresh)
    rw [Bool.not_eq_false',decide_eq_true_eq] at checked
    exact checked
  refine ⟨tracks.told,fun _ => ?_,fun apart => absurd connected apart,fun other member => ?_,tracks.stops⟩
  · rw [List.map_append]
    exact remembers.accept fits acceptable
  · rcases List.mem_append.mp member with old | new
    · exact tracks.sent other old
    · cases List.mem_singleton.mp new
      exact ⟨opened.member,opened.isKey⟩

theorem Tracks.processed {packet : Packet} (tracks : s.Tracks history taken) (processed : Processed packet s s')
    (heard : s.state ≠ .Connected → ∀ keep_alive,packet = .KeepAlive keep_alive →
      ∃ entry ∈ history,entry.key = s.token.server_to_client_key ∧ entry.packet = .KeepAlive keep_alive) :
    s'.Tracks history taken := by
  refine ⟨fun connected => ?_,fun _ => ?_,fun apart => ?_,processed.token ▸ tracks.sent,processed.stops tracks.stops⟩
  · rw [processed.token]
    by_cases before : s.state = .Connected
    · rw [(processed.stays before).2]
      exact tracks.told before
    · exact heard before _ ((processed.starts connected).resolve_left before)
  · rw [processed.window]
    by_cases connected : s.state = .Connected
    · exact tracks.remembers connected
    · obtain ⟨isNew,rfl⟩ := tracks.idle connected
      rw [isNew]
      exact ReplayProtection.remembers_new
  · rw [processed.window]
    exact tracks.idle fun connected => apart (processed.stays connected).1

/-- A datagram makes the client take one packet at most, and what it puts back is the payload of that packet. -/
theorem Tracks.receive {buf : Bytes} {now : UInt64} {payload : Option Bytes}
    (rejects : p.chacha20poly1305.Rejects s.token.server_to_client_key
      (SealedIn history s.token.protocol_id s.token.server_to_client_key))
    (tracks : s.Tracks history taken) (returned : recv_packet p buf now s = .ok payload s') :
    ∃ more,s'.Tracks history (taken ++ more) ∧ payload.toList = more.filterMap Sealed.payload ∧ s'.token = s.token := by
  obtain ⟨packet,middle,isRead,returned⟩ := bind_ok.mp returned
  by_cases connected : s.state = .Connected
  · rcases read_packet_connected rejects connected isRead with ⟨early,rfl⟩ | ⟨entry,opened,rfl,rfl⟩
    · refine ⟨[],?_⟩
      rw [List.append_nil]
      cases packet with
      | none =>
        cases returned
        exact ⟨tracks,rfl,rfl⟩
      | some packet =>
        obtain ⟨processed,isPayload⟩ := process_packet_ok returned
        refine ⟨tracks.processed processed (absurd connected),?_,processed.token⟩
        rw [isPayload,if_pos connected]
        cases packet with
        | Payload packet => exact absurd (early _ rfl) (by decide : ¬Packet.PAYLOAD < Packet.KEEP_ALIVE)
        | _ => rfl
    · obtain ⟨processed,isPayload⟩ := process_packet_ok returned
      refine ⟨[entry],(tracks.take connected opened).processed processed (absurd connected),?_,processed.token⟩
      rw [isPayload,if_pos connected,List.filterMap_cons,List.filterMap_nil]
      change entry.payload.toList = _
      cases entry.payload <;> rfl
  · obtain ⟨rfl,heard⟩ := read_packet_apart rejects connected isRead
    refine ⟨[],?_⟩
    rw [List.append_nil]
    cases packet with
    | none =>
      cases returned
      exact ⟨tracks,rfl,rfl⟩
    | some packet =>
      obtain ⟨processed,isPayload⟩ := process_packet_ok returned
      refine ⟨tracks.processed processed fun _ keep_alive isPacket => heard keep_alive (congrArg some isPacket),?_,
        processed.token⟩
      rw [isPayload,if_neg connected]
      rfl

theorem Tracks.receive_all {bufs : List Bytes} {now : UInt64} {payloads : List Bytes}
    (rejects : p.chacha20poly1305.Rejects s.token.server_to_client_key
      (SealedIn history s.token.protocol_id s.token.server_to_client_key))
    (tracks : s.Tracks history taken) (returned : recv_payloads p now bufs s = .ok payloads s') :
    ∃ more,s'.Tracks history (taken ++ more) ∧ payloads = more.filterMap Sealed.payload ∧ s'.token = s.token := by
  induction bufs generalizing s taken payloads with
  | nil =>
    cases returned
    exact ⟨[],by rwa [List.append_nil],rfl,rfl⟩
  | cons buf bufs ih =>
    obtain ⟨payload,middle,received,returned⟩ := bind_ok.mp returned
    obtain ⟨later,last,receivedLater,returned⟩ := bind_ok.mp returned
    cases returned
    obtain ⟨first,tracks,isPayload,sameToken⟩ := tracks.receive rejects received
    obtain ⟨more,tracks,rfl,lastToken⟩ := ih (sameToken ▸ rejects) tracks receivedLater
    refine ⟨first ++ more,?_,?_,lastToken.trans sameToken⟩
    · rwa [← List.append_assoc]
    · rw [isPayload,List.filterMap_append]

/-! ### The other methods -/

section
variable {packet : Packet}

theorem encrypts_quiet {written : Fallible Error Bytes} : Moves Quiet (encrypts packet written) s := by
  refine .lift_bind (Std.Refl.refl s) fun bytes _ => Moves.then_pure (.modify ?_) _
  split <;> exact ⟨rfl,rfl,rfl,rfl,rfl⟩

theorem send_with_quiet {write : UInt64 → Key → UInt64 → Fallible Error Bytes} {hand_over : Bytes → Client F → Client F}
    (quiet : ∀ bytes s,Quiet s (hand_over bytes s)) : Moves Quiet (send_with packet write hand_over) s := by
  refine .get_bind (encrypts_quiet.bind fun bytes marked _ => ?_)
  refine .bind (.modify (quiet bytes marked)) fun _ handed _ => ?_
  exact .lift_bind (Std.Refl.refl handed) fun sequence _ => .modify ⟨rfl,rfl,rfl,rfl,rfl⟩

theorem send_netcode_packet_quiet : Moves Quiet (send_netcode_packet p packet) s :=
  send_with_quiet fun _ _ => ⟨rfl,rfl,rfl,rfl,rfl⟩

theorem send_quiet {buf : Bytes} : Moves Quiet (send p buf) s := by
  refine .get_bind ?_
  split
  · exact Moves.pure _ s
  · exact .lift_bind (Std.Refl.refl s) fun _ _ => send_with_quiet fun _ _ => ⟨rfl,rfl,rfl,rfl,rfl⟩

theorem send_packets_quiet [F64 F] : Moves Quiet (send_packets p) s := by
  refine .get_bind ?_
  split
  · exact Moves.pure _ s
  · split
    · exact send_netcode_packet_quiet
    · exact Moves.pure _ s

theorem over_reset [F64 F] {state : ClientState} (apart : state ≠ .Connected) : Over s (s.reset state) :=
  ⟨apart,rfl,rfl,by change ClientState.Disconnected ≠ .Connected; decide⟩

theorem over_connect [F64 F] : Over s s.connect :=
  ⟨by change ClientState.SendingConnectionRequest ≠ .Connected; decide,rfl,rfl,
    by change ClientState.Disconnected ≠ .Connected; decide⟩

theorem over_next_server_or [F64 F] {state : ClientState} (apart : state ≠ .Connected) :
    Over s (s.next_server_or state) := by
  unfold next_server_or connect_to_next_server
  split
  · next s' connected =>
    split at connected
    · cases connected
    · cases connected
      have moved : Over { s with server_addr_idx := s.server_addr_idx + 1 }
          ({ s with server_addr_idx := s.server_addr_idx + 1 } : Client F).connect := over_connect
      exact ⟨moved.state,moved.window,moved.token,moved.stops⟩
  · exact over_reset apart

/-- A session goes on, or it is over. -/
def Continues (s s' : Client F) : Prop := Quiet s s' ∨ Over s s'

theorem Continues.tracks (continues : Continues s s') (tracks : s.Tracks history taken) :
    ∃ kept,s'.Tracks history kept := by
  rcases continues with quiet | ended
  · exact ⟨taken,tracks.quiet quiet⟩
  · exact ⟨[],ended.tracks history⟩

theorem update_state_continues [F64 F] (stops : s.should_disconnect_state ≠ .Connected) :
    Continues s s.update_state := by
  unfold Continues update_state
  split
  · exact .inr (over_reset (by decide))
  split
  · exact .inr (over_next_server_or stops)
  split
  · exact .inr (over_next_server_or (by decide))
  · exact .inr (over_next_server_or (by decide))
  · exact .inr (over_reset (by decide))
  · exact .inl (Std.Refl.refl s)

theorem disconnect_continues [F64 F] : Moves Continues (disconnect p) s := by
  refine .get_bind (.seq Quiet Over (fun _ => .inl) (fun middle s' quiet ended => .inr ?_) ?_ fun _ middle _ =>
    .modify ?_)
  · exact ⟨ended.state,ended.window,ended.token.trans quiet.token,ended.stops⟩
  · exact Moves.forM (fun _ _ _ => send_netcode_packet_quiet) s
  · exact over_reset (by decide)

end

theorem recv_packet_ne_err {buf : Bytes} {now : UInt64} {error : Error} :
    recv_packet p buf now s ≠ .error (.Err error) s' := by
  intro failed
  rcases bind_error.mp failed with failed | ⟨packet,middle,-,failed⟩
  · unfold read_packet at failed
    split at failed
    · cases failed
    · split at failed <;> cases failed
  · cases packet with
    | none => cases failed
    | some packet =>
      unfold process_packet at failed
      dsimp only at failed
      split at failed <;> cases failed

theorem recv_payloads_ne_err {bufs : List Bytes} {now : UInt64} {error : Error} :
    recv_payloads p now bufs s ≠ .error (.Err error) s' := by
  induction bufs generalizing s with
  | nil => exact fun failed => by cases failed
  | cons buf bufs ih =>
    intro failed
    rcases bind_error.mp failed with failed | ⟨_,middle,-,failed⟩
    · exact recv_packet_ne_err failed
    rcases bind_error.mp failed with failed | ⟨_,last,-,failed⟩
    · exact ih failed
    · cases failed

section
variable [F64 F]

/-- What an update does once the datagrams are received. -/
theorem try_update_continues {delta_ms : F} {bufs : List Bytes} {now : UInt64} :
    Moves (fun s s' => ∃ payloads middle,
      recv_payloads p now bufs { s with time := F64.add s.time delta_ms } = .ok payloads middle ∧
        (middle.should_disconnect_state ≠ .Connected → Continues middle s'))
          (try_update p delta_ms bufs (some now)) s := by
  cases received : recv_payloads p now bufs { s with time := F64.add s.time delta_ms } with
  | error failure middle =>
    have failed : recv_packets p bufs (some now) { s with time := F64.add s.time delta_ms } =
        .error failure middle := by
      rw [recv_packets_eq]
      exact bind_of_error received
    cases failure with
    | Err error => exact absurd received recv_payloads_ne_err
    | Panic panic =>
      have panics : try_update p delta_ms bufs (some now) s = .error (.Panic panic) middle :=
        (bind_of_ok rfl).trans (bind_of_error failed)
      unfold Moves
      rw [panics]
      trivial
  | ok payloads middle =>
    have returned : recv_packets p bufs (some now) { s with time := F64.add s.time delta_ms } = .ok ⟨⟩ middle := by
      rw [recv_packets_eq]
      exact bind_of_ok received
    have rest : Moves (fun middle s' => middle.should_disconnect_state ≠ .Connected → Continues middle s')
        (send_packets p >>= fun _ => modify update_state >>= fun _ => get >>= fun self => pure self.state) middle := by
      refine .seq Quiet (fun sent s' => s' = sent.update_state) (fun _ quiet _ => .inl quiet)
        (fun sent s' quiet updated stops => ?_)
        send_packets_quiet fun _ sent _ => rfl
      subst updated
      rcases update_state_continues (s := sent) (quiet.stops ▸ stops) with goes | ended
      · exact .inl (IsTrans.trans _ _ _ quiet goes)
      · exact .inr ⟨ended.state,ended.window,ended.token.trans quiet.token,ended.stops⟩
    refine .step (fun _ s' => middle.should_disconnect_state ≠ .Connected → Continues middle s') rfl
      (fun s' continues => ⟨payloads,middle,received,continues⟩) ?_
    exact .step _ returned (fun _ continues => continues) rest

/-- An event takes some packets, and delivers their payloads. Then the session goes on, or it is over, or the
program. -/
theorem Tracks.delivers
    (rejects : p.chacha20poly1305.Rejects s.token.server_to_client_key
      (SealedIn history s.token.protocol_id s.token.server_to_client_key))
    (tracks : s.Tracks history taken) (event : Event F) :
    ∃ more middle,s.delivered p event = more.filterMap Sealed.payload ∧ middle.Tracks history (taken ++ more) ∧
      middle.token = s.token ∧ ∀ s',step p s event = some s' → Continues middle s' := by
  have nothing : s.delivered p event = [] → (∀ s',step p s event = some s' → Continues s s') →
      ∃ more middle,s.delivered p event = more.filterMap Sealed.payload ∧ middle.Tracks history (taken ++ more) ∧
        middle.token = s.token ∧ ∀ s',step p s event = some s' → Continues middle s' :=
    fun silent continues => ⟨[],s,silent,by rwa [List.append_nil],rfl,continues⟩
  have quietly : ∀ {after},Quiet s after → ∀ s',some after = some s' → Continues s s' :=
    fun quiet s' same => Option.some.inj same ▸ .inl quiet
  cases event with
  | Connect => exact nothing rfl fun s' stepped => Option.some.inj stepped ▸ .inr over_connect
  | Send buf => exact nothing rfl fun s' stepped => .inl (send_quiet.after stepped)
  | DrainSendNetcodePackets => exact nothing rfl (quietly ⟨rfl,rfl,rfl,rfl,rfl⟩)
  | Disconnect => exact nothing rfl fun s' stepped => disconnect_continues.after stepped
  | Update delta_ms bufs now =>
    have passed : Quiet s { s with time := F64.add s.time delta_ms } := ⟨rfl,rfl,rfl,rfl,rfl⟩
    cases now with
    | none => exact nothing rfl (quietly passed)
    | some now =>
      cases received : recv_payloads p now bufs { s with time := F64.add s.time delta_ms } with
      | error failure middle =>
        refine nothing (congrArg put_back received) fun s' stepped => ?_
        obtain ⟨payloads,_,returned,-⟩ := try_update_continues.after stepped
        cases received.symm.trans returned
      | ok payloads middle =>
        obtain ⟨more,tracks,rfl,sameToken⟩ :=
          Tracks.receive_all (s := { s with time := F64.add s.time delta_ms }) rejects (tracks.quiet passed) received
        refine ⟨more,middle,congrArg put_back received,tracks,sameToken,fun s' stepped => ?_⟩
        obtain ⟨_,_,returned,continues⟩ := try_update_continues.after stepped
        cases received.symm.trans returned
        exact continues tracks.stops

/-- As long as the client is connected, all that it delivers is taken, and the window keeps track of it. -/
theorem Tracks.session {events : List (Event F)}
    (rejects : p.chacha20poly1305.Rejects s.token.server_to_client_key
      (SealedIn history s.token.protocol_id s.token.server_to_client_key))
    (tracks : s.Tracks history taken) :
    ∃ more,s.session p events = more.filterMap Sealed.payload ∧ ((taken ++ more).map Sealed.sequence).Nodup ∧
      ∀ entry ∈ more,entry ∈ history ∧ entry.key = s.token.server_to_client_key := by
  induction events generalizing s taken with
  | nil => exact ⟨[],rfl,by rw [List.append_nil]; exact tracks.distinct,fun _ member => absurd member List.not_mem_nil⟩
  | cons event events ih =>
    obtain ⟨more,middle,isDelivered,tracks,sameToken,continues⟩ := tracks.delivers rejects event
    have sent : ∀ entry ∈ more,entry ∈ history ∧ entry.key = s.token.server_to_client_key := fun entry member =>
      sameToken ▸ tracks.sent entry (List.mem_append_right taken member)
    rw [Client.session,isDelivered]
    cases stepped : Client.step p s event with
    | none => exact ⟨more,List.append_nil _,tracks.distinct,sent⟩
    | some s' =>
      dsimp only
      by_cases connected : s'.state = .Connected
      · rw [if_pos connected]
        have quiet : Quiet middle s' := (continues s' stepped).resolve_right fun ended => ended.state connected
        have token : s'.token = s.token := quiet.token.trans sameToken
        obtain ⟨later,isLater,distinct,sentLater⟩ := ih (token ▸ rejects) (tracks.quiet quiet)
        refine ⟨more ++ later,by rw [isLater,List.filterMap_append],by rwa [← List.append_assoc],fun entry member => ?_⟩
        rcases List.mem_append.mp member with now | after
        · exact sent entry now
        · exact token ▸ sentLater entry after
      · rw [if_neg connected,List.append_nil]
        exact ⟨more,rfl,tracks.distinct,sent⟩

/-- In every run a client keeps its token, and the window of a session knows the packets that were taken in it. -/
theorem tracks_of_reached {token : ConnectToken} {cfg : ClientConfig F}
    (rejects : p.chacha20poly1305.Rejects token.server_to_client_key
      (SealedIn history token.protocol_id token.server_to_client_key))
    (reached : Reaches (step p) (fun _ _ _ => True) (of_token token cfg) s) :
    s.token = token ∧ ∃ taken,s.Tracks history taken := by
  refine reached.invariant (fun s => s.token = token ∧ ∃ taken,s.Tracks history taken)
    ⟨rfl,[],tracks_of_token token cfg history⟩ ?_
  rintro before event after ⟨rfl,taken,tracks⟩ stepped -
  obtain ⟨more,middle,-,tracks,sameToken,continues⟩ := tracks.delivers rejects event
  have continues := continues after stepped
  exact ⟨(continues.elim Quiet.token Over.token).trans sameToken,continues.tracks tracks⟩

/-- Whatever arrives, what a client puts back into its link while it is connected are payloads that were sealed for it,
each of them at most once. -/
theorem session_delivers_once (p : Platform) (token : ConnectToken) (cfg : ClientConfig F) (history : List Sealed)
    (rejects : p.chacha20poly1305.Rejects token.server_to_client_key
      (SealedIn history token.protocol_id token.server_to_client_key))
    (s : Client F) (reached : Reaches (step p) (fun _ _ _ => True) (of_token token cfg) s) (events : List (Event F)) :
    ∃ taken : List Sealed,s.session p events = taken.filterMap Sealed.payload ∧ (taken.map Sealed.sequence).Nodup ∧
      ∀ entry ∈ taken,entry ∈ history ∧ entry.key = token.server_to_client_key := by
  obtain ⟨rfl,earlier,tracks⟩ := tracks_of_reached rejects reached
  obtain ⟨taken,isDelivered,distinct,sent⟩ := tracks.session rejects
  rw [List.map_append] at distinct
  exact ⟨taken,isDelivered,(List.nodup_append.mp distinct).2.1,sent⟩

end

/-- What the local server has sealed for its client. -/
def local_history : List Sealed :=
  [⟨(local_client 7 3).server_to_client_key,0,ChallengePacket.create 0 (zeros 300)⟩,
    ⟨(local_client 7 3).server_to_client_key,1,KeepAlivePacket.create 7⟩,
    ⟨(local_client 7 3).server_to_client_key,2,.Payload ⟨[1]⟩⟩,
      ⟨(local_client 7 3).server_to_client_key,3,.Payload ⟨[2]⟩⟩]

/-- Two payloads arrive in the wrong order, and one of them again. -/
theorem session_delivers_once_local :
    ∃ s : Client Seconds,Reaches (step (.guarded 42 (local_client 7 3).server_to_client_key local_history))
      (fun _ _ _ => True) local_start s ∧
      s.session (.guarded 42 (local_client 7 3).server_to_client_key local_history)
        [update (.Payload ⟨[2]⟩) 3,update (.Payload ⟨[1]⟩) 2,update (.Payload ⟨[2]⟩) 3] = [[2],[1]] ∧
      ∃ taken : List Sealed,s.session (.guarded 42 (local_client 7 3).server_to_client_key local_history)
          [update (.Payload ⟨[2]⟩) 3,update (.Payload ⟨[1]⟩) 2,update (.Payload ⟨[2]⟩) 3] =
            taken.filterMap Sealed.payload ∧
        (taken.map Sealed.sequence).Nodup ∧
        ∀ entry ∈ taken,entry ∈ local_history ∧ entry.key = (local_client 7 3).server_to_client_key := by
  obtain ⟨s,reached,delivers⟩ :=
    reaches_of_check (step (.guarded 42 (local_client 7 3).server_to_client_key local_history))
      (fun _ _ _ => True) local_start
    (fun s => decide (s.session (.guarded 42 (local_client 7 3).server_to_client_key local_history)
      [update (.Payload ⟨[2]⟩) 3,update (.Payload ⟨[1]⟩) 2,update (.Payload ⟨[2]⟩) 3] = [[2],[1]])) (plays [5])
        (by decide +kernel)
  exact ⟨s,reached,of_decide_eq_true delivers,
    session_delivers_once (.guarded 42 (local_client 7 3).server_to_client_key local_history)
    (connect_token (local_client 7 3)) _ local_history (Platform.guarded_rejects 42 _ local_history) s reached _⟩

end Client
end Lightyear.Netcode
