import Lightyear.Netcode.ServerTables

/-!
The nonces of the server. Its own counter and the counters of the connections stay apart,
but the counter of a connection starts again whenever a connection is made: nonces are unique
as long as no connection is made with a key that another one has used.
-/
namespace Lightyear.Netcode
open Calls Codec Maps Runs

/-- Where the counters of the connections start. -/
abbrev FIRST_SEQUENCE : Nat := 2 ^ 62

namespace Sessions

/-- The place in `clients` of the session that a request adds or changes. -/
def place (s : Sessions) (entity : Entity) (id : ClientId) : ClientId := ((s.locate entity).map Prod.fst).getD id

/-- The numbers that were used are below their counters, and every session has a key of its own. -/
structure Counted (s : Sessions) : Prop where
  distinct : NoncesDistinct s.history
  below : ∀ entry ∈ s.history, entry.sequence.toNat < FIRST_SEQUENCE → entry.sequence.toNat < s.sequence.toNat
  above : ∀ id c, s.clients id = some c → FIRST_SEQUENCE ≤ c.sequence.toNat
  used : ∀ id c, s.clients id = some c → ∀ entry ∈ s.history, entry.key = c.send_key →
    FIRST_SEQUENCE ≤ entry.sequence.toNat → entry.sequence.toNat < c.sequence.toNat
  own : ∀ id c other c', s.clients id = some c → s.clients other = some c' → c.send_key = c'.send_key → id = other

theorem counted_new (max_clients : Nat) : (new max_clients).Counted where
  distinct := List.Pairwise.nil
  below _ member := nomatch member
  above _ _ known := nomatch known
  used _ _ known := nomatch known
  own _ _ _ _ known := nomatch known

section
variable {s : Sessions}

theorem Counted.announce (counted : s.Counted) (low : s.sequence.toNat < FIRST_SEQUENCE) (key : Key) (packet : Packet) :
    (s.announce key packet).Counted := by
  have next : (s.sequence + 1).toNat = s.sequence.toNat + 1 := by
    have bound : s.sequence.toNat < 2 ^ 62 := low
    rw [UInt64.toNat_add]
    exact Nat.mod_eq_of_lt (by change _ + 1 < _; omega)
  constructor
  · refine counted.distinct.snoc fun one member _ same => ?_
    have isLow : one.sequence.toNat < FIRST_SEQUENCE := by rw [same]; exact low
    have before := counted.below one member isLow
    rw [same] at before
    exact absurd before (Nat.lt_irrefl _)
  · intro entry member isLow
    change entry.sequence.toNat < (s.sequence + 1).toNat
    rw [next]
    rcases List.mem_append.mp member with old | new
    · exact Nat.lt_succ_of_lt (counted.below entry old isLow)
    · cases List.mem_singleton.mp new
      exact Nat.lt_succ_self _
  · exact counted.above
  · intro id c known entry member isKey isHigh
    rcases List.mem_append.mp member with old | new
    · exact counted.used id c known entry old isKey isHigh
    · cases List.mem_singleton.mp new
      exact absurd isHigh (Nat.not_le.mpr low)
  · exact counted.own

/-- A session is added or changed, with a key that no session has used for its packets. -/
theorem Counted.put {id : ClientId} {c : Session} (counted : s.Counted) (isHigh : FIRST_SEQUENCE ≤ c.sequence.toNat)
    (unused : ∀ entry ∈ s.history, entry.key = c.send_key → entry.sequence.toNat < FIRST_SEQUENCE)
    (alone : ∀ other c', s.clients other = some c' → c'.send_key = c.send_key → other = id) : (s.put id c).Counted := by
  have cases_of : ∀ {other c'}, (s.put id c).clients other = some c' →
      other = id ∧ c' = c ∨ other ≠ id ∧ s.clients other = some c' := by
    intro other c' known
    by_cases same : other = id
    · subst same
      cases (clients_put other c s).symm.trans known
      exact .inl ⟨rfl,rfl⟩
    · exact .inr ⟨same,(Function.update_of_ne same ..).symm.trans known⟩
  constructor
  · exact counted.distinct
  · exact counted.below
  · intro other c' known
    rcases cases_of known with ⟨rfl,rfl⟩ | ⟨_,known⟩
    · exact isHigh
    · exact counted.above other c' known
  · intro other c' known entry member isKey high
    rcases cases_of known with ⟨rfl,rfl⟩ | ⟨_,known⟩
    · exact absurd high (Nat.not_le.mpr (unused entry member isKey))
    · exact counted.used other c' known entry member isKey high
  · intro one c₁ other c₂ known₁ known₂ same
    rcases cases_of known₁ with ⟨rfl,rfl⟩ | ⟨_,before₁⟩
    · rcases cases_of known₂ with ⟨rfl,_⟩ | ⟨_,before₂⟩
      · rfl
      · exact (alone other c₂ before₂ same.symm).symm
    · rcases cases_of known₂ with ⟨rfl,rfl⟩ | ⟨_,before₂⟩
      · exact alone one c₁ before₁ same
      · exact counted.own one c₁ other c₂ before₁ before₂ same

/-- The tables of clients and windows do not matter, as long as there are no new sessions. -/
theorem Counted.fewer {s' : Sessions} (counted : s.Counted) (history : s'.history = s.history)
    (sequence : s'.sequence = s.sequence) (fewer : ∀ id c, s'.clients id = some c → s.clients id = some c) :
    s'.Counted where
  distinct := history ▸ counted.distinct
  below := by rw [history,sequence]; exact counted.below
  above id c known := counted.above id c (fewer id c known)
  used id c known := by rw [history]; exact counted.used id c (fewer id c known)
  own id c other c' known known' := counted.own id c other c' (fewer id c known) (fewer other c' known')

/-- A session sends a packet, whether or not it is connected from now on. -/
theorem Counted.send {id : ClientId} {c c' : Session} (counted : s.Counted) (known : s.clients id = some c)
    (isKey : c'.send_key = c.send_key) (isSequence : c'.sequence = c.sequence) (fits : c.sequence.toNat + 1 < 2 ^ 64)
    (packet : Packet) : (s.send id c' packet).Counted := by
  have next : (c'.sequence + 1).toNat = c.sequence.toNat + 1 := by
    rw [isSequence,UInt64.toNat_add]
    exact Nat.mod_eq_of_lt fits
  have high := counted.above id c known
  have cases_of : ∀ {other d}, (s.send id c' packet).clients other = some d →
      other = id ∧ d = { c' with sequence := c'.sequence + 1 } ∨ other ≠ id ∧ s.clients other = some d := by
    intro other d stored
    by_cases same : other = id
    · subst same
      cases (Function.update_self ..).symm.trans stored
      exact .inl ⟨rfl,rfl⟩
    · exact .inr ⟨same,(Function.update_of_ne same ..).symm.trans stored⟩
  constructor
  · refine counted.distinct.snoc fun one member same_key same => ?_
    have isHigh : FIRST_SEQUENCE ≤ one.sequence.toNat := by rw [same,isSequence]; exact high
    have before := counted.used id c known one member (same_key.trans isKey) isHigh
    rw [same,isSequence] at before
    exact absurd before (Nat.lt_irrefl _)
  · intro entry member isLow
    rcases List.mem_append.mp member with old | new
    · exact counted.below entry old isLow
    · cases List.mem_singleton.mp new
      rw [isSequence] at isLow
      exact absurd high (Nat.not_le.mpr isLow)
  · intro other d stored
    rcases cases_of stored with ⟨_,rfl⟩ | ⟨_,stored⟩
    · change FIRST_SEQUENCE ≤ (c'.sequence + 1).toNat
      rw [next]
      exact Nat.le_succ_of_le high
    · exact counted.above other d stored
  · intro other d stored entry member same_key isHigh
    rcases cases_of stored with ⟨_,rfl⟩ | ⟨differs,stored⟩
    · change entry.sequence.toNat < (c'.sequence + 1).toNat
      rw [next]
      rcases List.mem_append.mp member with old | new
      · exact Nat.lt_succ_of_lt (counted.used id c known entry old (same_key.trans isKey) isHigh)
      · cases List.mem_singleton.mp new
        rw [isSequence]
        exact Nat.lt_succ_self _
    · rcases List.mem_append.mp member with old | new
      · exact counted.used other d stored entry old same_key isHigh
      · cases List.mem_singleton.mp new
        exact absurd (counted.own other d id c stored known (same_key.symm.trans isKey)) differs
  · intro one d other d' stored stored' same_key
    rcases cases_of stored with ⟨rfl,rfl⟩ | ⟨_,before⟩
    · rcases cases_of stored' with ⟨rfl,_⟩ | ⟨_,before'⟩
      · rfl
      · exact counted.own one c other d' known before' (isKey.symm.trans same_key)
    · rcases cases_of stored' with ⟨rfl,rfl⟩ | ⟨_,before'⟩
      · exact counted.own one d other c before known (same_key.trans isKey)
      · exact counted.own one d other d' before before' same_key

theorem Counted.add {entity : Entity} {id : ClientId} {key : Key} (counted : s.Counted)
    (unused : ∀ entry ∈ s.history, entry.key = key → entry.sequence.toNat < FIRST_SEQUENCE)
    (alone : ∀ other c, s.clients other = some c → c.send_key = key → other = s.place entity id) :
    (s.add entity id key).Counted := by
  unfold Sessions.add
  unfold place at alone
  split
  · next old c located =>
    rw [located] at alone
    obtain ⟨_,_,found⟩ := Option.bind_eq_some_iff.mp located
    obtain ⟨c',known,same⟩ := Option.map_eq_some_iff.mp found
    cases same
    exact counted.put (c := { c with client_id := id, send_key := key }) (counted.above _ c known) unused alone
  · next unlocated =>
    rw [unlocated] at alone
    have added := @Counted.put s id ⟨false,id,entity,key,0x4000000000000000⟩ counted (Nat.le_refl _) unused alone
    exact added.fewer rfl rfl fun _ _ known => known

/-- The server has numbers left, and a request has a key that no session has used or has. -/
def FreshKeys (s : Sessions) : Action → Prop
  | .Announce _ _ => s.sequence.toNat < FIRST_SEQUENCE
  | .Admit entity id key _ => s.sequence.toNat < FIRST_SEQUENCE ∧
      (∀ entry ∈ s.history, entry.key = key → entry.sequence.toNat < FIRST_SEQUENCE) ∧
      ∀ other c, s.clients other = some c → c.send_key = key → other = s.place entity id
  | _ => True

theorem Counted.remove (counted : s.Counted) (callback : Callback) (id : ClientId) :
    ((s.notify callback).remove id).Counted :=
  counted.fewer (history_remove ..) (sequence_remove ..) fun _ _ known =>
    clients_remove (s := s.notify callback) known

theorem Counted.performs {s' : Sessions} {action : Action} (counted : s.Counted) (fresh : s.FreshKeys action)
    (performs : Performs action s s') : s'.Counted := by
  cases performs with
  | @announce _ key packet fits => exact counted.announce fresh key packet
  | @let_in _ entity id key packet fits entity_free id_free =>
    obtain ⟨low,unused,alone⟩ := fresh
    refine (counted.announce low key packet).add (fun entry member isKey => ?_) alone
    rcases List.mem_append.mp member with old | new
    · exact unused entry old isKey
    · cases List.mem_singleton.mp new
      exact low
  | @accept _ client_id c entity user_data known pending fits room =>
    have sent := @Counted.send s client_id c { c with connected := true } counted known rfl rfl fits
      (.KeepAlive ⟨client_id⟩)
    exact sent.fewer rfl rfl fun _ _ stored => stored
  | @send _ client_id c packet known fits => exact counted.send known rfl rfl fits packet
  | close known connected => exact counted.remove ..
  | leave located => exact counted.remove ..
  | restart => exact counted.fewer rfl rfl fun _ _ known => (nomatch known)

end

end Sessions

namespace Server

variable {F : Type}

/-- The place in `clients` of the connection that a request adds or changes. -/
def place (s : Server F) (entity : Entity) (id : ClientId) : ClientId :=
  ((s.conn_cache.mut_by_entity entity).map Prod.fst).getD id

/-- The server has not used up its own numbers, and the key of a request that is answered with a challenge was not used
    by a connection, and no other connection has it. -/
def FreshKeys (p : Platform) (before : Server F) (event : Event F) (_after : Server F) : Prop :=
  before.sequence.toNat < FIRST_SEQUENCE ∧ ∀ sender ∈ before.admitted p event,
    (∀ entry ∈ before.history, entry.key = sender.2.server_to_client_key → entry.sequence.toNat < FIRST_SEQUENCE) ∧
    ∀ entry ∈ before.conn_cache.clients.entries, entry.2.send_key = sender.2.server_to_client_key →
      entry.1 = before.place sender.1 sender.2.client_id

instance (p : Platform) (before : Server F) (event : Event F) (after : Server F) :
    Decidable (FreshKeys p before event after) := by
  unfold FreshKeys
  infer_instance

theorem FreshKeys.sessions {p : Platform} {before after : Server F} {event : Event F}
    (fresh : FreshKeys p before event after) {action : Sessions.Action} (allowed : before.Allows p event action) :
    before.sessions.FreshKeys action := by
  cases action with
  | Announce key packet => exact fresh.1
  | Admit entity id key packet =>
    obtain ⟨token,admitted,rfl,rfl⟩ := allowed
    obtain ⟨unused,alone⟩ := fresh.2 _ admitted
    refine ⟨fresh.1,unused,fun other c known isKey => ?_⟩
    obtain ⟨conn,stored,rfl⟩ := Option.map_eq_some_iff.mp known
    have isPlace := alone ⟨other,conn⟩ ((lookup_eq_some_iff ..).mp stored) isKey
    rw [Sessions.place,locate_sessions,Option.map_map]
    exact isPlace
  | _ => trivial

/-- Nonces are unique in runs in which every connection is made with a key of its own, and the server does not run out
    of numbers. -/
theorem nonces_unique [F64 F] (p : Platform) (protocol_id : UInt64) (private_key challenge_key : Key)
    (cfg : ServerConfig F) (s : Server F)
    (reached : Reaches (step p) (FreshKeys p) (with_config protocol_id private_key challenge_key cfg) s) :
    NoncesUnique s.history := by
  have counted : s.sessions.Counted := by
    refine invariant_of_actions Sessions.FreshKeys ?_ ?_ ?_ ?_ reached
    · rw [sessions_with_config]
      exact Sessions.counted_new _
    · rintro a action (sends | rfl)
      · cases action with
        | Announce key packet => exact sends.elim
        | Admit entity id key packet => exact sends.elim
        | _ => trivial
      · trivial
    · exact fun before event after fresh action allowed => FreshKeys.sessions fresh allowed
    · exact fun a action b counted fresh performs => counted.performs fresh performs
  exact counted.distinct.unique

/-- A client connects, is told to go, and connects again with another token. -/
theorem nonces_unique_local :
    ∃ s : Server Seconds, Reaches (step .shift) (FreshKeys .shift) local_server s ∧ s.history.length = 7 ∧
      NoncesUnique s.history := by
  obtain ⟨s,reached,seven⟩ := reaches_of_check (step .shift) (FreshKeys .shift) local_server
    (fun s => decide (s.history.length = 7))
    (connects 1 (local_client 7 3) 0 ++ [.Disconnect 7] ++ connects 1 (local_client 7 5) 1 ++ [.Send [1] 7])
    (by decide +kernel)
  exact ⟨s,reached,of_decide_eq_true seven,nonces_unique .shift 42 (zeros 32) (zeros 32) _ s reached⟩

/-- A client that connects again with the same token is sent a keep-alive packet with the nonce of the disconnect packet
    that it was sent before. -/
theorem nonce_used_twice :
    ∃ s : Server Seconds, Reaches (step .shift) (fun _ _ _ => True) local_server s ∧ ¬NoncesUnique s.history := by
  obtain ⟨s,reached,checked⟩ := reaches_of_check (step .shift) (fun _ _ _ => True) local_server
    (fun s => decide (⟨(local_client 7 3).server_to_client_key,0x4000000000000001,.Disconnect ⟨⟩⟩ ∈ s.history) &&
      decide (⟨(local_client 7 3).server_to_client_key,0x4000000000000001,.KeepAlive ⟨7⟩⟩ ∈ s.history))
    (connects 1 (local_client 7 3) 0 ++ [.Disconnect 7] ++ connects 1 (local_client 7 3) 1 ++ [.Send [1] 7])
    (by decide +kernel)
  rw [Bool.and_eq_true,decide_eq_true_eq,decide_eq_true_eq] at checked
  exact ⟨s,reached,fun unique => nomatch unique _ checked.1 _ checked.2 rfl rfl⟩

end Server

end Lightyear.Netcode
