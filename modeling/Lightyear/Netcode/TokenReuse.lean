import Lightyear.Netcode.ServerTables

/-!
Tokens that are used by two entities. The server remembers the entity that a token came from, but `find_or_insert` never
compares it: a request is only rejected for a reason that has nothing to do with its token's MAC.
-/
namespace Lightyear.Netcode
open Calls Codec Maps Runs

variable {F : Type}

/-- No request is refused because of the entries. -/
theorem TokenEntries.find_or_insert_true [F64 F] (inner : List (TokenEntry F)) (entry : TokenEntry F) :
    (find_or_insert inner entry).1 = true := by
  unfold find_or_insert
  dsimp only
  split <;> rfl

/-- The search compares the time of the new entry where it means the saved one, so that it takes the first entry for the
oldest: another token replaces the only one that is remembered. -/
theorem TokenEntries.find_or_insert_only [F64 F] {saved entry : TokenEntry F}
    (finite : F64.lt entry.time (F64.infinity : F) = true) :
    (find_or_insert [saved] entry).2 = [if entry.mac = saved.mac then saved else entry] := by
  by_cases same : entry.mac = saved.mac
  · simp [find_or_insert,search,finite,same]
  · simp [find_or_insert,search,finite,same]

theorem RequestPacket.mac_length (packet : RequestPacket) :
    (packet.token_data.val.drop (ConnectTokenPrivate.SIZE - MAC_BYTES)).length = MAC_BYTES := by
  rw [List.length_drop,packet.token_data.property]
  rfl

/-- The MAC of the token, as `process_connection_request` reads it. -/
def RequestPacket.mac (packet : RequestPacket) : Tag :=
  ⟨packet.token_data.val.drop (ConnectTokenPrivate.SIZE - MAC_BYTES),packet.mac_length⟩

namespace Server
variable {p : Platform} {s s' : Server F} {entity : Entity} {key : Key}

/-- One of the counters of a challenge is at its end: the next challenge panics. -/
def Exhausted (s : Server F) : Prop := 2 ^ 64 ≤ s.sequence.toNat + 1 ∨ 2 ^ 64 ≤ s.challenge_sequence.toNat + 1

instance (s : Server F) : Decidable s.Exhausted := inferInstanceAs (Decidable (_ ∨ _))

/-- The challenge packet is always written; only the sequence number of the server can be at its end. -/
private theorem send_challenge_packet (entity : Entity) (key : Key) (sequence : UInt64)
    (token : Octets ChallengeToken.SIZE) :
    ∃ bytes,send_netcode_packet p (ChallengePacket.create sequence token) key entity s =
      (lift (checked_add s.sequence 1) >>= fun sequence => modify fun self => { self with sequence } : Call Error
        (Server F) PUnit)
        (enqueue entity bytes
          { s with history := s.history ++ [⟨key,s.sequence,ChallengePacket.create sequence token⟩] }) := by
  have encrypted : (ChallengePacket.create sequence token).kind ≠ Packet.REQUEST :=
    (by decide : Packet.CHALLENGE ≠ Packet.REQUEST)
  obtain ⟨body,isBody,short,-⟩ := Packet.body_round_trip encrypted trivial
  refine ⟨_,(bind_of_ok rfl).trans
    ((bind_of_ok (encrypts_ok.mpr ⟨Packet.write_ok encrypted isBody short,rfl⟩)).trans (bind_of_ok rfl))⟩

section
variable [F64 F] {token : ConnectTokenPrivate}

/-- A challenge is sent as long as the counters last. -/
theorem send_challenge_ends :
    if s.Exhausted then ∃ s',send_challenge p token entity s = .error (.Panic .Overflow) s'
    else ∃ s',send_challenge p token entity s = .ok ⟨⟩ s' ∧ s'.challenge_sequence = s.challenge_sequence + 1 := by
  obtain ⟨encrypted,isEncrypted⟩ :=
    ChallengeToken.encrypt_ok p ⟨token.client_id,token.user_data⟩ s.challenge_sequence s.challenge_key
  obtain ⟨bytes,sends⟩ := send_challenge_packet (p := p) (s := s) entity token.server_to_client_key
    s.challenge_sequence encrypted
  have starts : send_challenge p token entity s =
    (send_netcode_packet p (ChallengePacket.create s.challenge_sequence encrypted)
      token.server_to_client_key entity >>= fun _ => modify (add token entity) >>= fun _ =>
        lift (checked_add s.challenge_sequence 1) >>= fun challenge_sequence =>
          modify fun self => { self with challenge_sequence } : Call Error (Server F) PUnit) s :=
    (bind_of_ok rfl).trans (bind_of_ok (lift_eq_ok.mpr ⟨from_error_eq_ok.mpr isEncrypted,rfl⟩))
  rw [starts]
  by_cases sequence : s.sequence.toNat + 1 < 2 ^ 64
  · have sent := sends.trans (bind_of_ok (lift_eq_ok.mpr ⟨if_pos sequence,rfl⟩))
    by_cases challenge_sequence : s.challenge_sequence.toNat + 1 < 2 ^ 64
    · rw [if_neg (show ¬s.Exhausted from not_or.mpr ⟨not_le.mpr sequence,not_le.mpr challenge_sequence⟩)]
      exact ⟨_,(bind_of_ok sent).trans
        ((bind_of_ok rfl).trans (bind_of_ok (lift_eq_ok.mpr ⟨if_pos challenge_sequence,rfl⟩))),rfl⟩
    · rw [if_pos (show s.Exhausted from .inr (not_lt.mp challenge_sequence))]
      exact ⟨_,(bind_of_ok sent).trans
        ((bind_of_ok rfl).trans (bind_of_error (lift_eq_error.mpr ⟨if_neg challenge_sequence,rfl⟩)))⟩
  · rw [if_pos (show s.Exhausted from .inl (not_lt.mp sequence))]
    exact ⟨_,bind_of_error (sends.trans (bind_of_error (lift_eq_error.mpr ⟨if_neg sequence,rfl⟩)))⟩

/-- A request that is admitted is answered with a challenge, whoever used its token before. -/
theorem process_connection_request_admitted {packet : RequestPacket} {server_addr : Option SocketAddr}
    (admitted : s.admits packet entity server_addr = some token) :
    if s.Exhausted then ∃ s',process_connection_request p packet entity server_addr s = .error (.Panic .Overflow) s'
    else ∃ s',process_connection_request p packet entity server_addr s = .ok ⟨⟩ s' ∧
      s'.challenge_sequence = s.challenge_sequence + 1 := by
  unfold admits at admitted
  split at admitted
  next parsed isParsed =>
    split at admitted
    next passes =>
      cases admitted
      simp only [Bool.and_eq_true,Option.isNone_iff_eq_none] at passes
      obtain ⟨⟨⟨expected,entity_free⟩,id_free⟩,unrefused⟩ := passes
      have starts : process_connection_request p packet entity server_addr s =
          process_expected_request p packet token entity s := by
        refine (bind_of_ok (lift_eq_ok.mpr ⟨from_error_eq_ok.mpr (returned_eq_ok.mpr isParsed),rfl⟩)).trans
          ((bind_of_ok rfl).trans ?_)
        rw [if_pos expected]
      have inserts : process_expected_request p packet token entity s = send_challenge p token entity { s with
          token_entries := (TokenEntries.find_or_insert s.token_entries ⟨s.time,packet.mac,entity⟩).2 } := by
        refine (bind_of_ok rfl).trans ((bind_of_ok (lift_eq_ok.mpr ⟨if_pos entity_free,rfl⟩)).trans ?_)
        have inserted := TokenEntries.find_or_insert_true s.token_entries ⟨s.time,packet.mac,entity⟩
        refine (bind_of_ok (lift_eq_ok.mpr ⟨if_pos id_free,rfl⟩)).trans ((bind_of_ok rfl).trans ?_)
        refine (bind_of_ok (lift_eq_ok.mpr ⟨if_pos inserted,rfl⟩)).trans ?_
        rw [unrefused]
        rfl
      rw [starts,inserts]
      exact send_challenge_ends (s := { s with token_entries := (TokenEntries.find_or_insert s.token_entries _).2 })
    next => cases admitted
  next => cases admitted

/-- What a request that is rejected leaves as it was. -/
structure Unanswered (s s' : Server F) : Prop where
  challenge_sequence : s'.challenge_sequence = s.challenge_sequence
  clients : s'.conn_cache.clients = s.conn_cache.clients
  client_id_map : s'.conn_cache.client_id_map = s.conn_cache.client_id_map

instance : Std.Refl (Unanswered (F := F)) := ⟨fun _ => ⟨rfl,rfl,rfl⟩⟩
instance : IsTrans (Server F) Unanswered := ⟨fun _ _ _ first second =>
  ⟨second.challenge_sequence.trans first.challenge_sequence,second.clients.trans first.clients,
    second.client_id_map.trans first.client_id_map⟩⟩

omit [F64 F] in
theorem send_netcode_packet_unanswered {packet : Packet} :
    Moves Unanswered (send_netcode_packet p packet key entity) s := by
  refine .get_bind (.bind (.lift_bind (Std.Refl.refl s) fun _ _ => .bind (.modify ⟨rfl,rfl,rfl⟩) fun _ _ _ => .pure _ _)
    ?_)
  intro bytes s' _
  exact .bind (.modify ⟨rfl,rfl,rfl⟩) fun _ queued _ => .lift_bind (Std.Refl.refl queued) fun _ _ =>
    .modify ⟨rfl,rfl,rfl⟩

/-- A request that is not admitted is answered by a denial at most. -/
theorem process_connection_request_unanswered {packet : RequestPacket} {server_addr : Option SocketAddr}
    (refused : s.admits packet entity server_addr = none) :
    Moves Unanswered (process_connection_request p packet entity server_addr) s := by
  refine .lift_bind (Std.Refl.refl s) fun token parsed => .get_bind ?_
  have isToken := returned_eq_ok.mp (from_error_eq_ok.mp parsed)
  by_cases expected : s.expects server_addr token = true
  · rw [if_pos expected]
    refine .get_bind (.lift_bind (Std.Refl.refl s) fun _ entity_passed =>
      .lift_bind (Std.Refl.refl s) fun _ id_passed => ?_)
    refine .bind (show Unanswered s _ from ⟨rfl,rfl,rfl⟩) fun inserted s' _ =>
      .lift_bind (Std.Refl.refl s') fun _ _ => ?_
    cases refusal : s.refusal token.client_id with
    | some denial => exact .bind send_netcode_packet_unanswered fun _ _ _ => .throw _ _
    | none =>
      have admitted : s.admits packet entity server_addr = some token := by
        simp only [admits,isToken,expected,require_ok entity_passed,require_ok id_passed,refusal,Option.isNone_none,
          Bool.and_self,↓reduceIte]
      cases refused.symm.trans admitted
  · rw [if_neg expected]
    exact .pure _ _

theorem recv_turn_after {buf : Bytes} {now : UInt64} {server_addr : Option SocketAddr} :
    after (recv_turn p buf now entity server_addr) s = match recv_packet p buf now entity server_addr s with
      | .ok _ s' => some s'
      | .error (.Err error) s' => some (s'.handle_client_error error)
      | .error (.Panic _) _ => none := by
  simp only [after,recv_turn]
  match recv_packet p buf now entity server_addr s with
  | .ok _ _ => rfl
  | .error (.Err _) _ => rfl
  | .error (.Panic _) _ => rfl

/-- A datagram with a request, by what is admitted before it. -/
theorem receive_request {packet : RequestPacket} {buf : Bytes} {now : UInt64} (server_addr : Option SocketAddr)
    (requests : s.packet_in p buf now entity = some (.Request packet)) :
    match s.admits packet entity server_addr with
    | none => ∀ s',s.step p (.Receive entity buf now server_addr) = some s' → Unanswered s s'
    | some _ =>
      if s.Exhausted then s.step p (.Receive entity buf now server_addr) = none
      else ∃ s',s.step p (.Receive entity buf now server_addr) = some s' ∧
        s'.challenge_sequence = s.challenge_sequence + 1 := by
  cases returned : read_packet p buf now entity s with
  | error failure s' =>
    rw [packet_in,returned] at requests
    cases requests
  | ok read s₁ =>
    rw [packet_in,returned] at requests
    cases requests
    obtain ⟨id,window,rfl⟩ := read_packet_moves.ok returned
    have receives : recv_packet p buf now entity server_addr s =
        process_packet p (.Request packet) entity server_addr (s.put_window id window) := bind_of_ok returned
    have kept : Unanswered s (s.put_window id window) := by
      unfold put_window
      split
      · split <;> exact ⟨rfl,rfl,rfl⟩
      · exact ⟨rfl,rfl,rfl⟩
    have counters : (s.put_window id window).Exhausted ↔ s.Exhausted := by
      unfold put_window
      split
      · split <;> rfl
      · rfl
    have same : (s.put_window id window).admits packet entity server_addr = s.admits packet entity server_addr :=
      s.admits_put_window id window packet server_addr
    cases admitted : s.admits packet entity server_addr with
    | none =>
      have moves := (process_connection_request_unanswered (p := p) (same.trans admitted)).then_pure fun _ =>
        (none : Option Bytes)
      intro s' stepped
      change after (recv_turn p buf now entity server_addr) s = some s' at stepped
      rw [recv_turn_after,receives] at stepped
      cases ended : process_packet p (.Request packet) entity server_addr (s.put_window id window) with
      | ok _ s₂ =>
        rw [ended] at stepped
        cases stepped
        exact IsTrans.trans s _ s' kept (moves.ok ended)
      | error failure s₂ =>
        rw [ended] at stepped
        cases failure with
        | Err error =>
          cases stepped
          have last := IsTrans.trans s _ s₂ kept (moves.err ended)
          exact ⟨last.challenge_sequence,last.clients,last.client_id_map⟩
        | Panic _ => cases stepped
    | some token =>
      have ends := process_connection_request_admitted (p := p) (same.trans admitted)
      have isStep : s.step p (.Receive entity buf now server_addr) =
          after (recv_turn p buf now entity server_addr) s := rfl
      rw [isStep,recv_turn_after,receives]
      dsimp only
      by_cases exhausted : s.Exhausted
      · rw [if_pos (counters.mpr exhausted)] at ends
        rw [if_pos exhausted]
        obtain ⟨s₂,ends⟩ := ends
        rw [show process_packet p (.Request packet) entity server_addr (s.put_window id window) = _ from
          (bind_of_ok rfl).trans (bind_of_error ends)]
      · rw [if_neg (mt counters.mp exhausted)] at ends
        rw [if_neg exhausted]
        obtain ⟨s₂,ends,counted⟩ := ends
        rw [show process_packet p (.Request packet) entity server_addr (s.put_window id window) = _ from
          (bind_of_ok rfl).trans (bind_of_ok ends)]
        exact ⟨s₂,rfl,counted.trans (congrArg (· + 1) kept.challenge_sequence)⟩

/-! ### Two uses of one token -/

omit [F64 F] in
/-- The sender of a connection request, and the MAC of its token. -/
def request_in (p : Platform) (s : Server F) : Event F → Option (Entity × Tag)
  | .Receive entity buf now _ =>
    match s.packet_in p buf now entity with
    | some (.Request packet) => some (entity,packet.mac)
    | _ => none
  | _ => none

/-- A request is accepted when it is answered with a challenge. -/
def Accepts (p : Platform) (s : Server F) (event : Event F) : Prop :=
  ∃ s',s.step p event = some s' ∧ s'.challenge_sequence = s.challenge_sequence + 1

/-- A request is rejected when there is no challenge, and the connections stay as they are. -/
def Rejects (p : Platform) (s : Server F) (event : Event F) : Prop := ∀ s',s.step p event = some s' → Unanswered s s'

/-- A token was accepted from one entity, is still remembered, and comes from another one. -/
def Reuses (p : Platform) (earlier later : Server F × Event F) : Prop :=
  ∃ owner thief mac,earlier.1.request_in p earlier.2 = some (owner,mac) ∧ Accepts p earlier.1 earlier.2 ∧
    later.1.request_in p later.2 = some (thief,mac) ∧ thief ≠ owner ∧
    ∃ entry ∈ later.1.token_entries,entry.mac = mac ∧ entry.entity = owner

/-- Such a request is rejected. -/
def SingleUse (p : Platform) (earlier later : Server F × Event F) :
    Prop := Reuses p earlier later → Rejects p later.1 later.2

/-- Such a request is not admitted for a reason other than its MAC, or there cannot be another challenge. -/
def OtherwiseRefused (p : Platform) (earlier later : Server F × Event F) : Prop :=
  Reuses p earlier later → later.1.admitted p later.2 = none ∨ later.1.Exhausted

/-- What decides about a request has nothing to do with its MAC. -/
theorem rejects_iff {event : Event F} (requests : s.request_in p event ≠ none) :
    Rejects p s event ↔ s.admitted p event = none ∨ s.Exhausted := by
  cases event with
  | Receive entity buf now server_addr =>
    cases received : s.packet_in p buf now entity with
    | none =>
      rw [request_in,received] at requests
      exact absurd rfl requests
    | some packet =>
      cases packet with
      | Request packet =>
        have receives := receive_request server_addr received
        have admitted : s.admitted p (.Receive entity buf now server_addr) =
            (s.admits packet entity server_addr).map fun token => (entity,token) := by rw [admitted,received]
        rw [admitted]
        cases admits : s.admits packet entity server_addr with
        | none =>
          rw [admits] at receives
          exact iff_of_true receives (.inl rfl)
        | some token =>
          rw [admits] at receives
          dsimp only at receives
          split at receives
          next exhausted => exact iff_of_true (fun s' stepped => by cases receives.symm.trans stepped) (.inr exhausted)
          next enough =>
            obtain ⟨s',stepped,counted⟩ := receives
            refine iff_of_false (fun rejects => ?_) (not_or.mpr ⟨Option.some_ne_none _,enough⟩)
            have next : s.challenge_sequence = s.challenge_sequence + 1 :=
              (rejects s' stepped).challenge_sequence.symm.trans counted
            simp at next
      | _ =>
        rw [request_in,received] at requests
        exact absurd rfl requests
  | _ => exact absurd rfl requests

/-- In a run every token is for one entity exactly if each request with a token of another entity is not admitted for
some other reason. -/
theorem single_use_iff (p : Platform) (start : Server F) (events : List (Event F)) :
    (turns (step p) start events).Pairwise (SingleUse p) ↔
      (turns (step p) start events).Pairwise (OtherwiseRefused p) := by
  refine List.Pairwise.iff fun earlier later => forall_congr' fun reuses => rejects_iff ?_
  obtain ⟨_,_,_,_,_,requests,_⟩ := reuses
  rw [requests]
  exact Option.some_ne_none _

end

/-- Two requests with one token from two entities that are both answered with a challenge. -/
def challenges_both (p : Platform) (start : Server Seconds) (first second : Event Seconds) : Bool :=
  (start.request_in p first).any fun (owner,mac) => (start.step p first).any fun middle =>
    (middle.request_in p second).any fun (thief,same) => (middle.step p second).any fun last =>
      same == mac && thief != owner && middle.token_entries.any (fun entry =>
        entry.mac == mac && entry.entity == owner) &&
        middle.challenge_sequence == start.challenge_sequence +
          1 && last.challenge_sequence != middle.challenge_sequence

theorem not_single_use {p : Platform} {start : Server Seconds} {first second : Event Seconds}
    (both : challenges_both p start first second = true) :
    ¬(turns (step p) start [first,second]).Pairwise (SingleUse p) := by
  unfold challenges_both at both
  obtain ⟨⟨owner,mac⟩,requests,both⟩ := Option.any_eq_true .. |>.mp both
  obtain ⟨middle,stepped,both⟩ := Option.any_eq_true .. |>.mp both
  obtain ⟨⟨thief,same⟩,repeats,both⟩ := Option.any_eq_true .. |>.mp both
  obtain ⟨last,answered,both⟩ := Option.any_eq_true .. |>.mp both
  simp only [Bool.and_eq_true,beq_iff_eq,bne_iff_ne,List.any_eq_true] at both
  obtain ⟨⟨⟨⟨rfl,differs⟩,entry,member,isMac,isOwner⟩,accepted⟩,challenged⟩ := both
  intro single
  simp only [turns,stepped,answered,Option.elim_some,List.pairwise_cons,List.mem_singleton] at single
  have used := single.1 _ rfl
    ⟨owner,thief,_,requests,⟨middle,stepped,accepted⟩,repeats,differs,entry,member,isMac,isOwner⟩
  exact challenged (used last answered).challenge_sequence

/-- The token of client 7 is accepted from entity 1, and then from entity 2. -/
theorem token_used_twice : ∃ events : List (Event Seconds),
    ¬(turns (step .shift) local_server events).Pairwise (SingleUse .shift) :=
  ⟨[receive 1 (local_request (local_client 7 3)),receive 2 (local_request (local_client 7 3))],
    not_single_use (by decide +kernel)⟩

end Server
end Lightyear.Netcode
