import Lightyear.Netcode.Client
import Lightyear.Netcode.ServerTables

/-!
The nonces of the client. Its counter only grows until a reset, and then the client is idle
until it is told to connect or to disconnect, which is when numbers are used again.
-/
namespace Lightyear.Netcode
open Calls Codec Runs

namespace Client

/-- The states in which the client sends packets by itself, and reacts to packets. -/
def Active (state : ClientState) : Prop :=
  state = .SendingConnectionRequest ∨ state = .SendingChallengeResponse ∨ state = .Connected

instance : DecidablePred Active := fun state => by unfold Active; infer_instance

theorem disconnected_idle : ¬Active .Disconnected := by decide

theorem denied_idle : ¬Active .ConnectionDenied := by decide

variable {F : Type}

/-- All numbers that were used are below the counter. -/
structure Live (s : Client F) : Prop where
  distinct : NoncesDistinct s.history
  below : ∀ entry ∈ s.history, entry.sequence.toNat < s.sequence.toNat
  stops : ¬Active s.should_disconnect_state

/-- The counter was set back, and the client waits to be told what to do. -/
structure Retired (s : Client F) : Prop where
  distinct : NoncesDistinct s.history
  sequence : s.sequence = 0
  idle : ¬Active s.state
  steady : s.should_disconnect = false
  stops : ¬Active s.should_disconnect_state

def Counted (s : Client F) : Prop := s.Live ∨ s.Retired

def KeepsLive (s s' : Client F) : Prop := s.Live → s'.Live

def KeepsCount (s s' : Client F) : Prop := s.Counted → s'.Counted

instance : Std.Refl (KeepsLive (F := F)) := ⟨fun _ live => live⟩
instance : IsTrans (Client F) KeepsLive := ⟨fun _ _ _ first second live => second (first live)⟩
instance : Std.Refl (KeepsCount (F := F)) := ⟨fun _ counted => counted⟩
instance : IsTrans (Client F) KeepsCount := ⟨fun _ _ _ first second counted => second (first counted)⟩

variable {s s' : Client F}

theorem Counted.live (counted : s.Counted) (active : Active s.state) : s.Live :=
  counted.resolve_right fun retired => retired.idle active

theorem Counted.live_of_unused (counted : s.Counted) (unused : s.sequence = 0 → s.history = []) : s.Live := by
  rcases counted with live | retired
  · exact live
  · refine ⟨retired.distinct,fun entry member => ?_,retired.stops⟩
    rw [unused retired.sequence] at member
    cases member

/-- What a client does as long as it is live. -/
theorem KeepsLive.count (keeps : KeepsLive s s') (active : Active s.state) : KeepsCount s s' :=
  fun counted => .inl (keeps (counted.live active))

section
variable {p : Platform} {packet : Packet}

/-- Nothing was encrypted, and the counter did not change. -/
structure SameCount (s s' : Client F) : Prop where
  history : s'.history = s.history
  sequence : s'.sequence = s.sequence
  stops : s'.should_disconnect_state = s.should_disconnect_state

theorem Live.same (live : s.Live) (same : SameCount s s') : s'.Live where
  distinct := same.history ▸ live.distinct
  below := by rw [same.history,same.sequence]; exact live.below
  stops := same.stops ▸ live.stops

/-- A packet is encrypted with the next number. -/
theorem Live.snoc {key : Key} {sequence : UInt64} (live : s.Live)
    (history : s'.history = s.history ++ [⟨key,s.sequence,packet⟩]) (next : sequence.toNat = s.sequence.toNat + 1)
    (counter : s'.sequence = sequence) (stops : s'.should_disconnect_state = s.should_disconnect_state) : s'.Live where
  distinct := by
    rw [history]
    refine live.distinct.snoc fun one member _ same => ?_
    have before := live.below one member
    rw [same] at before
    exact absurd before (Nat.lt_irrefl _)
  below entry member := by
    rw [history] at member
    rw [counter,next]
    rcases List.mem_append.mp member with old | new
    · exact Nat.lt_succ_of_lt (live.below entry old)
    · cases List.mem_singleton.mp new
      exact Nat.lt_succ_self _
  stops := stops ▸ live.stops

/-- A request is sent in the clear, and its number is left out. -/
theorem Live.skip {sequence : UInt64} (live : s.Live) (history : s'.history = s.history)
    (next : sequence.toNat = s.sequence.toNat + 1) (counter : s'.sequence = sequence)
    (stops : s'.should_disconnect_state = s.should_disconnect_state) : s'.Live where
  distinct := history ▸ live.distinct
  below entry member := by
    rw [history] at member
    rw [counter,next]
    exact Nat.lt_succ_of_lt (live.below entry member)
  stops := stops ▸ live.stops

/-- Handing bytes over does not touch the count. -/
def HandsOver (hand_over : Bytes → Client F → Client F) : Prop := ∀ bytes s, SameCount s (hand_over bytes s)

theorem push_hands_over : HandsOver (push : Bytes → Client F → Client F) := fun _ _ => ⟨rfl,rfl,rfl⟩

theorem enqueue_hands_over : HandsOver (enqueue : Bytes → Client F → Client F) := fun _ _ => ⟨rfl,rfl,rfl⟩

theorem encrypts_ok {written : Fallible Error Bytes} {bytes : Bytes} (ok : encrypts packet written s = .ok bytes s') :
    s' = s ∨ s' = { s with history := s.history ++ [⟨s.token.client_to_server_key,s.sequence,packet⟩] } := by
  cases written with
  | error failure => cases ok
  | ok written =>
    cases ok
    dsimp only
    split
    · exact .inl rfl
    · exact .inr rfl

theorem encrypts_error {written : Fallible Error Bytes} {failure : Failure Error}
    (failed : encrypts packet written s = .error failure s') : s' = s := by
  rcases bind_error.mp failed with failed | ⟨_,_,_,failed⟩
  · exact (lift_eq_error.mp failed).2
  · rcases bind_error.mp failed with failed | ⟨_,_,_,failed⟩
    · cases failed
    · cases failed

theorem send_with_moves {write : UInt64 → Key → UInt64 → Fallible Error Bytes} {hand_over : Bytes → Client F → Client F}
    (hands_over : HandsOver hand_over) : Moves KeepsLive (send_with packet write hand_over) s := by
  refine .get_bind (.intro (fun _ s' sent => ?_) (fun error s' failed => ?_))
  · obtain ⟨bytes,marked,encrypted,sent⟩ := bind_ok.mp sent
    obtain ⟨_,handed,modified,sent⟩ := bind_ok.mp sent
    cases modified
    obtain ⟨sequence,_,counted,sent⟩ := bind_ok.mp sent
    obtain ⟨isNext,rfl⟩ := lift_eq_ok.mp counted
    cases sent
    intro live
    have same := hands_over bytes marked
    rcases encrypts_ok encrypted with rfl | rfl
    · exact live.skip same.history (checked_add_ok isNext) rfl same.stops
    · exact live.snoc same.history (checked_add_ok isNext) rfl same.stops
  · rcases bind_error.mp failed with failed | ⟨bytes,marked,encrypted,failed⟩
    · rw [encrypts_error failed]
      exact fun live => live
    rcases bind_error.mp failed with failed | ⟨_,handed,modified,failed⟩
    · cases failed
    cases modified
    rcases bind_error.mp failed with failed | ⟨_,_,_,failed⟩
    · exact absurd (lift_eq_error.mp failed).1 checked_add_ne_err
    · cases failed

theorem send_moves {buf : Bytes} : Moves KeepsCount (send p buf) s := by
  refine .get_bind ?_
  split
  · exact Moves.pure _ s
  · next connected =>
    refine .lift_bind (fun counted => counted) fun _ _ => .mono (fun s' keeps => ?_) (send_with_moves push_hands_over)
    exact keeps.count (.inr (.inr (not_not.mp connected)))

theorem active_of_periodic (periodic : s.periodic_packet = some packet) : Active s.state := by
  unfold periodic_packet at periodic
  split at periodic
  · next isState => exact .inl isState
  · next isState => exact .inr (.inl isState)
  · next isState => exact .inr (.inr isState)
  · cases periodic

theorem send_packets_moves [F64 F] : Moves KeepsCount (send_packets p) s := by
  refine .get_bind ?_
  split
  · exact Moves.pure _ s
  · split
    · next packet periodic =>
      refine .mono (fun s' keeps => ?_) (send_with_moves enqueue_hands_over)
      exact keeps.count (active_of_periodic periodic)
    · exact Moves.pure _ s

end

section
variable {p : Platform} {packet : Packet}

/-- Nothing is encrypted while packets are received, and an idle client stays idle. -/
structure Listens (s s' : Client F) : Prop where
  history : s'.history = s.history
  sequence : s'.sequence = s.sequence
  idle : ¬Active s.state → ¬Active s'.state
  steady : ¬Active s.state → s'.should_disconnect = s.should_disconnect
  stops : ¬Active s.should_disconnect_state → ¬Active s'.should_disconnect_state

instance : Std.Refl (Listens (F := F)) := ⟨fun _ => ⟨rfl,rfl,fun isIdle => isIdle,fun _ => rfl,fun stops => stops⟩⟩

instance : IsTrans (Client F) Listens where
  trans _ _ _ first second := {
    history := second.history.trans first.history
    sequence := second.sequence.trans first.sequence
    idle := fun isIdle => second.idle (first.idle isIdle)
    steady := fun isIdle => (second.steady (first.idle isIdle)).trans (first.steady isIdle)
    stops := fun stops => second.stops (first.stops stops) }

theorem Listens.count (listens : Listens s s') : KeepsCount s s' := by
  rintro (live | retired)
  · refine .inl ⟨listens.history ▸ live.distinct,?_,listens.stops live.stops⟩
    rw [listens.history,listens.sequence]
    exact live.below
  · exact .inr ⟨listens.history ▸ retired.distinct,listens.sequence.trans retired.sequence,listens.idle retired.idle,
      (listens.steady retired.idle).trans retired.steady,listens.stops retired.stops⟩

theorem Listens.of_same (history : s'.history = s.history) (sequence : s'.sequence = s.sequence)
    (state : s'.state = s.state) (steady : s'.should_disconnect = s.should_disconnect)
    (stops : s'.should_disconnect_state = s.should_disconnect_state) : Listens s s' :=
  ⟨history,sequence,fun isIdle => state ▸ isIdle,fun _ => steady,fun isIdle => stops ▸ isIdle⟩

/-- What an active client does is no matter for an idle one. -/
theorem Listens.of_active (active : Active s.state) (history : s'.history = s.history)
    (sequence : s'.sequence = s.sequence)
    (stops : ¬Active s.should_disconnect_state → ¬Active s'.should_disconnect_state) : Listens s s' :=
  ⟨history,sequence,fun isIdle => absurd active isIdle,fun isIdle => absurd active isIdle,stops⟩

theorem process_packet_moves : Moves Listens (process_packet packet) s := by
  unfold process_packet Moves
  dsimp only
  split
  · next isState => exact .of_active (.inl isState) rfl rfl fun _ => denied_idle
  · next isState => exact .of_active (.inr (.inl isState)) rfl rfl fun _ => denied_idle
  · next isState => exact .of_active (.inl isState) rfl rfl fun stops => stops
  · next isState => exact .of_active (.inr (.inr isState)) rfl rfl fun stops => stops
  · next isState => exact .of_active (.inr (.inl isState)) rfl rfl fun stops => stops
  · next isState => exact .of_active (.inr (.inr isState)) rfl rfl fun stops => stops
  · next isState => exact .of_active (.inr (.inr isState)) rfl rfl fun _ => disconnected_idle
  · exact Moves.pure none s

theorem read_packet_moves {buf : Bytes} {now : UInt64} : Moves Listens (read_packet p buf now) s := by
  unfold read_packet Moves
  dsimp only
  split
  · exact Moves.pure none s
  · split
    · exact .of_same rfl rfl rfl rfl rfl
    · exact .of_same rfl rfl rfl rfl rfl
    · trivial

theorem recv_packets_moves {bufs : List Bytes} {now : Option UInt64} : Moves Listens (recv_packets p bufs now) s := by
  cases now with
  | none => exact Moves.throw _ s
  | some now =>
    refine Moves.forM (fun buf _ s => ?_) s
    refine Moves.then_pure (read_packet_moves.bind fun packet s' _ => ?_) _
    cases packet with
    | none => exact Moves.pure none s'
    | some packet => exact process_packet_moves

end

/-! ### The life of a client -/

section
variable [F64 F] {p : Platform}

theorem counted_of_token (token : ConnectToken) (cfg : ClientConfig F) : (of_token token cfg).Counted :=
  .inl ⟨List.Pairwise.nil,fun _ member => (nomatch member),disconnected_idle⟩

theorem Live.reset {state : ClientState} (live : s.Live) (idle : ¬Active state) : (s.reset state).Retired :=
  ⟨live.distinct,rfl,idle,rfl,disconnected_idle⟩

theorem Live.connect (live : s.Live) : s.connect.Live := ⟨live.distinct,live.below,disconnected_idle⟩

theorem Live.next_server_or {state : ClientState} (live : s.Live) (idle : ¬Active state) :
    (s.next_server_or state).Counted := by
  unfold Client.next_server_or connect_to_next_server
  split
  · next s' connected =>
    split at connected
    · cases connected
    · cases connected
      exact .inl (Live.connect ⟨live.distinct,live.below,live.stops⟩)
  · exact .inr (live.reset idle)

theorem Retired.update_state (retired : s.Retired) : s.update_state = s := by
  have ne_request : s.state ≠ .SendingConnectionRequest := fun isState => retired.idle (.inl isState)
  have ne_response : s.state ≠ .SendingChallengeResponse := fun isState => retired.idle (.inr (.inl isState))
  have ne_connected : s.state ≠ .Connected := fun isState => retired.idle (.inr (.inr isState))
  have not_pending : s.is_pending = false := by
    unfold is_pending
    rw [beq_false_of_ne ne_request,beq_false_of_ne ne_response]
    rfl
  unfold Client.update_state
  rw [not_pending,retired.steady]
  simp only [Bool.false_and,Bool.false_eq_true,if_false]
  split
  · next isState _ => exact absurd isState ne_request
  · next isState _ => exact absurd isState ne_response
  · next isState _ => exact absurd isState ne_connected
  · rfl

theorem Live.update_state (live : s.Live) : s.update_state.Counted := by
  unfold Client.update_state
  split
  · exact .inr (live.reset (by decide))
  · split
    · exact live.next_server_or live.stops
    · split
      · exact live.next_server_or (by decide)
      · exact live.next_server_or (by decide)
      · exact .inr (live.reset (by decide))
      · exact .inl live

theorem update_state_keeps : KeepsCount s s.update_state := by
  rintro (live | retired)
  · exact live.update_state
  · rw [retired.update_state]
    exact .inr retired

theorem try_update_moves {delta_ms : F} {bufs : List Bytes} {now : Option UInt64} :
    Moves KeepsCount (try_update p delta_ms bufs now) s := by
  have passed : KeepsCount s { s with time := F64.add s.time delta_ms } :=
    Listens.count (.of_same rfl rfl rfl rfl rfl)
  refine .bind (.modify passed) fun _ s₁ _ => ?_
  refine .bind (.mono (fun _ => Listens.count) recv_packets_moves) fun _ s₂ _ => ?_
  refine .bind send_packets_moves fun _ s₃ _ => ?_
  refine .bind (.modify update_state_keeps) fun _ s₄ _ => ?_
  exact Moves.pure s₄.state s₄

theorem disconnect_moves : Moves (fun s s' => s.Live → s'.Counted) (disconnect p) s := by
  refine .get_bind ?_
  refine Moves.seq KeepsLive (fun middle s' => s' = middle.reset .Disconnected)
    (fun s' keeps live => .inl (keeps live)) (fun middle s' keeps isReset live => ?_) ?_ (fun _ _ _ => .modify rfl)
  · rw [isReset]
    exact .inr ((keeps live).reset disconnected_idle)
  · exact Moves.forM (fun _ _ _ => send_with_moves enqueue_hands_over) s

/-- Once its counter was set back, a client that has encrypted a packet is not told to connect or to disconnect. -/
def NotResumed (before : Client F) (event : Event F) (_after : Client F) : Prop :=
  match event with
  | .Connect | .Disconnect => before.sequence = 0 → before.history = []
  | _ => True

instance (before : Client F) (event : Event F) (after : Client F) : Decidable (NotResumed before event after) := by
  unfold NotResumed
  split <;> infer_instance

theorem Counted.step {event : Event F} (counted : s.Counted) (stepped : Client.step p s event = some s')
    (notResumed : NotResumed s event s') : s'.Counted := by
  cases event with
  | Connect =>
    cases stepped
    exact .inl (counted.live_of_unused notResumed).connect
  | Update delta_ms bufs now => exact try_update_moves.after stepped counted
  | Send buf => exact send_moves.after stepped counted
  | DrainSendNetcodePackets =>
    cases stepped
    have listens : Listens s s.drain_send_netcode_packets := .of_same rfl rfl rfl rfl rfl
    exact listens.count counted
  | Disconnect => exact disconnect_moves.after stepped (counted.live_of_unused notResumed)

/-- Nonces are unique in runs in which a client that was reset is not used again. -/
theorem client_nonces_unique (p : Platform) (token : ConnectToken) (cfg : ClientConfig F) (s : Client F)
    (reached : Reaches (step p) NotResumed (of_token token cfg) s) : NoncesUnique s.history := by
  have counted : s.Counted := by
    refine reached.invariant Counted (counted_of_token token cfg) ?_
    intro before event after counted stepped notResumed
    exact counted.step stepped notResumed
  rcases counted with live | retired
  · exact live.distinct.unique
  · exact retired.distinct.unique

end

/-- The connect token of a client, whose private half is sealed with the private key of the local server. -/
def connect_token (token : ConnectTokenPrivate) : ConnectToken :=
  { version_info := NETCODE_VERSION, protocol_id := 42, create_timestamp := 0, expire_timestamp := 30, nonce := zeros 24
    private_data := ((token.encrypt .shift 42 30 (zeros 24) (zeros 32)).toOption).getD (zeros 1024)
    timeout_seconds := token.timeout_seconds, server_addresses := token.server_addresses
    client_to_server_key := token.client_to_server_key, server_to_client_key := token.server_to_client_key }

def local_start : Client Seconds := of_token (connect_token (local_client 7 3)) ⟨10,.of 0⟩

/-- An update with a packet from the server. -/
def update (packet : Packet) (sequence : UInt64) : Event Seconds :=
  .Update (.of 1) [written (packet.write .shift sequence (local_client 7 3).server_to_client_key 42)] (some 0)

/-- The events of a client that connects and sends a payload. -/
def plays (payload : Bytes) : List (Event Seconds) :=
  [.Connect,.Update (.of 1) [] (some 0),update (ChallengePacket.create 0 (zeros 300)) 0,
    update (KeepAlivePacket.create 7) 1,
    .Send payload]

/-- A client connects, sends a payload, and disconnects. -/
theorem client_nonces_unique_local :
    ∃ s : Client Seconds, Reaches (step .shift) NotResumed local_start s ∧ s.history.length = 13 ∧
      NoncesUnique s.history := by
  obtain ⟨s,reached,all⟩ := reaches_of_check (step .shift) NotResumed local_start
    (fun s => decide (s.history.length = 13)) (plays [1] ++ [.Disconnect]) (by decide +kernel)
  exact ⟨s,reached,of_decide_eq_true all,client_nonces_unique .shift (connect_token (local_client 7 3)) _ s reached⟩

/-- A client that connects again encrypts another payload with the nonce of the first one. -/
theorem client_nonce_used_twice :
    ∃ s : Client Seconds, Reaches (step .shift) (fun _ _ _ => True) local_start s ∧ ¬NoncesUnique s.history := by
  obtain ⟨s,reached,checked⟩ := reaches_of_check (step .shift) (fun _ _ _ => True) local_start
    (fun s => decide (⟨(local_client 7 3).client_to_server_key,3,.Payload ⟨[1]⟩⟩ ∈ s.history) &&
      decide (⟨(local_client 7 3).client_to_server_key,3,.Payload ⟨[2]⟩⟩ ∈ s.history))
    (plays [1] ++ [.Disconnect] ++ plays [2]) (by decide +kernel)
  rw [Bool.and_eq_true,decide_eq_true_eq,decide_eq_true_eq] at checked
  exact ⟨s,reached,fun unique => nomatch unique _ checked.1 _ checked.2 rfl rfl⟩

end Client

end Lightyear.Netcode
