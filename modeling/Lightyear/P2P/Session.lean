import Lightyear.Tick

/-!
The start of a deterministic session between peers, `session.rs`. Each peer advertises
the earliest tick at which it can start and acknowledges the greatest of these. A start
that times out leaves its messages in flight, which the number of the attempt tells
apart from those of the next one.
-/
namespace Lightyear.P2P
open Message

inductive P2PSessionState where
  | Stopped
  | Starting (start_tick : Option Tick)
  | Started (start_tick : Tick)
deriving DecidableEq, Repr

inductive P2PSessionMessage where
  | Ready (generation : BitVec 32) (roster_hash : BitVec 64) (earliest_start_tick : Tick)
  | StartAcknowledgement (generation : BitVec 32) (roster_hash : BitVec 64) (start_tick : Tick)
deriving DecidableEq, Repr

namespace P2PSessionMessage

def generation : P2PSessionMessage → BitVec 32
  | .Ready generation _ _ | .StartAcknowledgement generation _ _ => generation

def roster_hash : P2PSessionMessage → BitVec 64
  | .Ready _ roster_hash _ | .StartAcknowledgement _ roster_hash _ => roster_hash

end P2PSessionMessage

/-- What one remote peer of the frozen cohort has sent. -/
structure RemotePeerStart (Peer : Type) where
  peer_id : Peer
  ready_tick : Option Tick
  acknowledged_tick : Option Tick
deriving DecidableEq, Repr

namespace RemotePeerStart
variable {Peer : Type}

def new (peer_id : Peer) : RemotePeerStart Peer := ⟨peer_id,none,none⟩

/-- The first value of each kind stays. -/
def record (message : P2PSessionMessage) (self : RemotePeerStart Peer) : RemotePeerStart Peer :=
  match message with
  | .Ready _ _ earliest_start_tick => {self with ready_tick := self.ready_tick.or (some earliest_start_tick)}
  | .StartAcknowledgement _ _ start_tick => {self with acknowledged_tick := self.acknowledged_tick.or (some start_tick)}

end RemotePeerStart

/-- Times are in nanoseconds. -/
structure P2PSession (Peer : Type) where
  start_delay_ticks : BitVec 16
  start_timeout : Nat
  start_started_at : Option Nat
  state : P2PSessionState
  generation : BitVec 32
  local_ready_tick : Option Tick
  local_ready_sent : Bool
  local_acknowledgement_sent : Bool
  roster_hash : Option (BitVec 64)
  remote_peers : List (RemotePeerStart Peer)
  roster_mismatch : Bool
deriving DecidableEq, Repr

inductive AdvanceResult where
  | Waiting
  | Agreed (start_tick : Tick)
  | Failed
deriving DecidableEq, Repr

namespace P2PSession
variable {Peer : Type}

/-- A start is proposed 120 ticks ahead, and given up after five seconds. -/
def default : P2PSession Peer :=
  ⟨120,5_000_000_000,none,.Stopped,0,none,false,false,none,[],false⟩

def with_start_delay_ticks (ticks : BitVec 16) (self : P2PSession Peer) : P2PSession Peer :=
  {self with start_delay_ticks := ticks}

def with_start_timeout (timeout : Nat) (self : P2PSession Peer) :
    P2PSession Peer := {self with start_timeout := timeout}

/-- The tick at which the session starts or started, once it is agreed. -/
def start_tick (self : P2PSession Peer) : Option Tick :=
  match self.state with
  | .Starting start_tick => start_tick
  | .Started start_tick => some start_tick
  | .Stopped => none

def is_starting (self : P2PSession Peer) : Bool :=
  match self.state with
  | .Starting _ => true
  | _ => false

/-- `begin`: freezes the remote peers of a new attempt. -/
def begin_attempt (remote_peer_ids : List Peer) (roster_hash : BitVec 64) (started_at : Nat) (self : P2PSession Peer) :
    P2PSession Peer :=
  {self with
    generation := self.generation + 1
    start_started_at := some started_at
    local_ready_tick := none
    local_ready_sent := false
    local_acknowledgement_sent := false
    roster_hash := some roster_hash
    remote_peers := remote_peer_ids.map .new
    roster_mismatch := false
    state := .Starting none}

def clear_barrier_progress (self : P2PSession Peer) : P2PSession Peer :=
  {self with
    start_started_at := none
    local_ready_tick := none
    local_ready_sent := false
    local_acknowledgement_sent := false
    roster_hash := none
    remote_peers := []
    roster_mismatch := false}

def stop (self : P2PSession Peer) : P2PSession Peer := {self with state := .Stopped}.clear_barrier_progress

def timed_out_at (now : Nat) (self : P2PSession Peer) : Bool :=
  self.start_started_at.any fun started_at => self.start_timeout ≤ now - started_at

section
variable [DecidableEq Peer]

def contains_remote (peer_id : Peer) (self : P2PSession Peer) : Bool := self.remote_peers.any (·.peer_id = peer_id)

/-- Messages of other attempts, and of peers outside the cohort, are ignored. -/
def receive (peer_id : Peer) (message : P2PSessionMessage) (self : P2PSession Peer) : P2PSession Peer :=
  if message.generation ≠ self.generation then self
  else if !self.contains_remote peer_id then self
  else if self.roster_hash ≠ some message.roster_hash then {self with roster_mismatch := true}
  else {self with
    remote_peers := self.remote_peers.modify (self.remote_peers.findIdx (·.peer_id = peer_id)) (·.record message)}

end

/-- The greatest of the ticks that are advertised, once all are. -/
def latest_ready_tick (local_ready_tick : Tick) (self : P2PSession Peer) : Option Tick :=
  self.remote_peers.foldlM (fun latest peer => peer.ready_tick.map (max latest)) local_ready_tick

def advance (tick : Tick) (timeline_synced : Bool) (self : P2PSession Peer) : P2PSession Peer × AdvanceResult :=
  if !self.is_starting then (self,.Waiting)
  else if self.roster_mismatch then (self,.Failed)
  else
    let ready : P2PSession Peer :=
      if timeline_synced && self.local_ready_tick.isNone then
        {self with local_ready_tick := some (tick.add_signed self.start_delay_ticks.toNat)}
      else self
    match ready.local_ready_tick with
    | none => (ready,.Waiting)
    | some local_ready_tick =>
      match ready.latest_ready_tick local_ready_tick with
      | none => (ready,.Waiting)
      | some start_tick =>
        let starting : P2PSession Peer := {ready with state := .Starting (some start_tick)}
        if starting.remote_peers.any (·.acknowledged_tick.isNone) then (starting,.Waiting)
        else if starting.remote_peers.any (·.acknowledged_tick.any (· ≠ start_tick)) then (starting,.Failed)
        else if start_tick ≤ tick then (starting,.Failed)
        else (starting,.Agreed start_tick)

/-- The start tick, once every remote peer has acknowledged it. -/
def agreed_start_tick (self : P2PSession Peer) : Option Tick :=
  match self.state with
  | .Starting (some start_tick) =>
    if self.remote_peers.any (·.acknowledged_tick ≠ some start_tick) then none else some start_tick
  | _ => none

/-- The Ready message and the acknowledgement, each once. -/
def collect_outbound (self : P2PSession Peer) : P2PSession Peer × List P2PSessionMessage :=
  match self.roster_hash with
  | none => (self,[])
  | some roster_hash =>
    let ready := match self.local_ready_tick with
      | some earliest_start_tick =>
        if self.local_ready_sent then [] else [.Ready self.generation roster_hash earliest_start_tick]
      | none => []
    let acknowledgement := match self.start_tick with
      | some start_tick =>
        if self.local_acknowledgement_sent then [] else [.StartAcknowledgement self.generation roster_hash start_tick]
      | none => []
    ({self with
        local_ready_sent := self.local_ready_sent || self.local_ready_tick.isSome
        local_acknowledgement_sent := self.local_acknowledgement_sent || self.start_tick.isSome},
      ready ++ acknowledgement)

/-! ### What each operation changes -/

def peer_ids (self : P2PSession Peer) : List Peer := self.remote_peers.map (·.peer_id)

@[simp] theorem stop_is_starting (self : P2PSession Peer) : self.stop.is_starting = false := rfl

theorem starting_iff {self : P2PSession Peer} :
    self.is_starting = true ↔ ∃ start_tick,self.state = .Starting start_tick := by
  cases state : self.state <;> simp [is_starting,state]

section
variable [DecidableEq Peer]

@[simp] theorem contains_remote_iff {self : P2PSession Peer} {peer_id : Peer} :
    self.contains_remote peer_id = true ↔ peer_id ∈ self.peer_ids := by
  simp [contains_remote,peer_ids]

/-- A message changes what is known of its sender, or marks a mismatch. -/
theorem receive_eq (self : P2PSession Peer) (peer_id : Peer) (message : P2PSessionMessage) :
    ∃ remote_peers roster_mismatch,self.receive peer_id message = {self with remote_peers,roster_mismatch} ∧
      remote_peers.map (·.peer_id) = self.peer_ids ∧
      ∀ peer ∈ remote_peers,peer ∈ self.remote_peers ∨ message.generation = self.generation ∧
        ∃ known ∈ self.remote_peers,known.peer_id = peer_id ∧ peer = known.record message := by
  unfold receive
  split
  · exact ⟨_,_,rfl,rfl,fun _ known => .inl known⟩
  split
  · exact ⟨_,_,rfl,rfl,fun _ known => .inl known⟩
  split
  · exact ⟨_,_,rfl,rfl,fun _ known => .inl known⟩
  next current found _ =>
  refine ⟨_,_,rfl,?_,fun peer member => ?_⟩
  · rw [peer_ids]
    refine List.ext_getElem (by simp) fun i _ _ => ?_
    simp only [List.getElem_map,List.getElem_modify]
    split
    · cases message <;> rfl
    · rfl
  · rw [List.mem_iff_getElem] at member
    obtain ⟨i,inside,rfl⟩ := member
    rw [List.getElem_modify]
    rw [List.length_modify] at inside
    split
    · next same =>
      subst same
      refine Or.inr ⟨by simpa using current,_,List.getElem_mem inside,?_,rfl⟩
      have isFound := @List.findIdx_getElem _ (fun peer => decide (peer.peer_id = peer_id)) self.remote_peers inside
      simpa using isFound
    · exact Or.inl (List.getElem_mem inside)

end

/-- The tick that is chosen is the greatest of those that are advertised. -/
theorem latest_ready_tick_spec {self : P2PSession Peer} {local_ready_tick latest : Tick}
    (isLatest : self.latest_ready_tick local_ready_tick = some latest) :
    local_ready_tick ≤ latest ∧ (∀ peer ∈ self.remote_peers,∃ ready,peer.ready_tick = some ready ∧ ready ≤ latest) ∧
      (latest = local_ready_tick ∨ ∃ peer ∈ self.remote_peers,peer.ready_tick = some latest) := by
  unfold latest_ready_tick at isLatest
  generalize self.remote_peers = peers at isLatest ⊢
  induction peers generalizing local_ready_tick with
  | nil =>
    cases isLatest
    exact ⟨le_refl _,nofun,.inl rfl⟩
  | cons peer peers ih =>
    rw [List.foldlM_cons] at isLatest
    cases isReady : peer.ready_tick with
    | none => simp [isReady] at isLatest
    | some ready =>
      simp only [isReady,Option.map_some,bind,Option.bind_some] at isLatest
      obtain ⟨notBefore,others,isOne⟩ := ih isLatest
      refine ⟨le_trans (le_max_left _ _) notBefore,?_,?_⟩
      · intro other member
        rcases List.mem_cons.mp member with rfl | member
        · exact ⟨ready,isReady,le_trans (le_max_right _ _) notBefore⟩
        · exact others other member
      · rcases isOne with isMax | ⟨other,member,isTick⟩
        · rcases max_cases local_ready_tick ready with ⟨isLocal,-⟩ | ⟨isRemote,-⟩
          · exact Or.inl (isMax.trans isLocal)
          · exact Or.inr ⟨peer,List.mem_cons_self,by rw [isReady,isMax,isRemote]⟩
        · exact Or.inr ⟨other,List.mem_cons_of_mem _ member,isTick⟩

/-- The negotiation sets the local tick once, and a start tick when all ticks are known. -/
theorem advance_cases {self next : P2PSession Peer} {tick : Tick} {timeline_synced : Bool} {result : AdvanceResult}
    (advanced : self.advance tick timeline_synced = (next,result)) (starting : self.is_starting = true)
    (fine : result ≠ .Failed) :
    ∃ local_ready_tick state,next = {self with local_ready_tick,state} ∧
      (∀ ready,self.local_ready_tick = some ready → local_ready_tick = some ready) ∧
      (state = self.state ∨ ∃ ready latest,local_ready_tick = some ready ∧ self.latest_ready_tick ready = some latest ∧
        state = .Starting (some latest)) := by
  unfold advance at advanced
  rw [starting] at advanced
  simp only [Bool.not_true,Bool.false_eq_true,↓reduceIte] at advanced
  split at advanced
  · cases advanced
    exact absurd rfl fine
  have kept (known : Tick) (isKnown : self.local_ready_tick = some known) :
      (timeline_synced && self.local_ready_tick.isNone) = false := by simp [isKnown]
  have isReady : ∃ local_ready_tick,(if (timeline_synced && self.local_ready_tick.isNone) = true then
        {self with local_ready_tick := some (tick.add_signed self.start_delay_ticks.toNat)} else self) =
          {self with local_ready_tick} ∧ ∀ ready,self.local_ready_tick = some ready →
            local_ready_tick = some ready := by
    split
    · next unset =>
      refine ⟨_,rfl,fun ready isSet => ?_⟩
      rw [kept ready isSet] at unset
      exact nomatch unset
    · exact ⟨_,rfl,fun _ isSet => isSet⟩
  obtain ⟨local_ready_tick,isReady,kept⟩ := isReady
  rw [isReady] at advanced
  simp only at advanced
  split at advanced
  · cases advanced
    exact ⟨none,self.state,rfl,kept,.inl rfl⟩
  next ready =>
  have unchanged : latest_ready_tick ready {self with local_ready_tick := some ready} =
      self.latest_ready_tick ready := rfl
  rw [unchanged] at advanced
  split at advanced
  · cases advanced
    exact ⟨some ready,self.state,rfl,kept,.inl rfl⟩
  next latest isLatest =>
  have chosen : next = {self with local_ready_tick := some ready,state := .Starting (some latest)} := by
    split_ifs at advanced <;> exact (Prod.mk.inj advanced).1.symm
  exact ⟨some ready,_,chosen,kept,.inr ⟨ready,latest,rfl,isLatest,rfl⟩⟩

theorem agreed_start_tick_iff {self : P2PSession Peer} {start_tick : Tick} :
    self.agreed_start_tick = some start_tick ↔
      self.state = .Starting (some start_tick) ∧ ∀ peer ∈ self.remote_peers,peer.acknowledged_tick =
        some start_tick := by
  unfold agreed_start_tick
  split
  · next chosen state =>
    rw [state]
    constructor
    · intro agreed
      split at agreed
      · exact nomatch agreed
      next all =>
      cases agreed
      exact ⟨rfl,by simpa using all⟩
    · rintro ⟨same,all⟩
      cases same
      exact if_neg (by simpa using all)
  · next other =>
    simp only [reduceCtorEq,false_iff]
    rintro ⟨state,-⟩
    exact other start_tick state

theorem mem_collect_outbound {self : P2PSession Peer} {roster_hash : BitVec 64}
    (hash : self.roster_hash = some roster_hash)
    {message : P2PSessionMessage} : message ∈ self.collect_outbound.2 ↔
      (∃ tick,self.local_ready_tick = some tick ∧ self.local_ready_sent = false ∧
        message = .Ready self.generation roster_hash tick) ∨
      ∃ tick,self.start_tick = some tick ∧ self.local_acknowledgement_sent = false ∧
        message = .StartAcknowledgement self.generation roster_hash tick := by
  unfold collect_outbound
  rw [hash]
  cases self.local_ready_tick <;> cases self.local_ready_sent <;> cases self.start_tick <;>
    cases self.local_acknowledgement_sent <;> simp

/-- What is sent carries the number of the attempt. -/
theorem collect_outbound_generation {self : P2PSession Peer} {message : P2PSessionMessage}
    (member : message ∈ self.collect_outbound.2) : message.generation = self.generation := by
  cases hash : self.roster_hash with
  | none => simp [collect_outbound,hash] at member
  | some roster_hash =>
    rcases (mem_collect_outbound hash).mp member with ⟨_,-,-,rfl⟩ | ⟨_,-,-,rfl⟩ <;> rfl

theorem collect_outbound_current (self : P2PSession Peer) :
    self.collect_outbound.1.state = self.state ∧ self.collect_outbound.1.generation = self.generation ∧
      self.collect_outbound.1.peer_ids = self.peer_ids := by
  unfold collect_outbound
  split <;> exact ⟨rfl,rfl,rfl⟩

theorem collect_outbound_eq {self : P2PSession Peer} {roster_hash : BitVec 64}
    (hash : self.roster_hash = some roster_hash) :
    self.collect_outbound.1 = {self with
      local_ready_sent := self.local_ready_sent || self.local_ready_tick.isSome
      local_acknowledgement_sent := self.local_acknowledgement_sent || self.start_tick.isSome} := by
  rw [collect_outbound,hash]

end P2PSession
end Lightyear.P2P
