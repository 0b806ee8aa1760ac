import Lightyear.Deterministic.Checksum

/-!
The checksums of a peer-to-peer session that wait for their counterpart, `checksum.rs`.
A change of a pair of values is compared once, when both are there.
-/
namespace Lightyear.Checksum
open Message Maps

def CHECKSUM_HISTORY_TICKS : Nat := 30

structure PendingP2PChecksum (Peer : Type) where
  local_checksum : Option (BitVec 64)
  remote : List (Peer × BitVec 64)

/-- The checksums by tick. -/
abbrev PendingP2PChecksums (Peer : Type) := Map Tick (PendingP2PChecksum Peer)

/-- A call of the function `compare`. -/
structure Comparison (Peer : Type) where
  peer : Peer
  tick : Tick
  expected : BitVec 64
  actual : BitVec 64
deriving DecidableEq

namespace PendingP2PChecksum
variable {Peer : Type} [DecidableEq Peer]

def default : PendingP2PChecksum Peer := ⟨none,[]⟩

/-- The checksum of a peer. -/
def remote_checksum (self : PendingP2PChecksum Peer) (peer : Peer) : Option (BitVec 64) :=
  (self.remote.find? (·.1 = peer)).map (·.2)

/-- Sets the first entry of a peer, or adds one. -/
def set_remote (peer : Peer) (checksum : BitVec 64) : List (Peer × BitVec 64) → List (Peer × BitVec 64)
  | [] => [(peer,checksum)]
  | entry :: rest => if entry.1 = peer then (entry.1,checksum) :: rest else entry :: set_remote peer checksum rest

end PendingP2PChecksum

namespace PendingP2PChecksums
variable {Peer : Type} [DecidableEq Peer]

def record_local (self : PendingP2PChecksums Peer) (tick : Tick) (checksum : BitVec 64) :
    PendingP2PChecksums Peer × List (Comparison Peer) :=
  let pending := (self.lookup tick).getD .default
  if pending.local_checksum = some checksum then (self.insert tick pending,[]) else
    (self.insert tick {pending with local_checksum := some checksum},
      pending.remote.map fun (peer,remote) => ⟨peer,tick,checksum,remote⟩)

def record_remote (self : PendingP2PChecksums Peer) (peer : Peer) (message : ChecksumMessage) :
    PendingP2PChecksums Peer × List (Comparison Peer) :=
  let pending := (self.lookup message.tick).getD .default
  if pending.remote_checksum peer = some message.checksum then (self.insert message.tick pending,[]) else
    (self.insert message.tick
      {pending with remote := PendingP2PChecksum.set_remote peer message.checksum pending.remote},
      match pending.local_checksum with
      | some local_checksum => [⟨peer,message.tick,local_checksum,message.checksum⟩]
      | none => [])

def clean (self : PendingP2PChecksums Peer) (current_tick : Tick) : PendingP2PChecksums Peer :=
  let oldest_tick := current_tick.sub CHECKSUM_HISTORY_TICKS
  retain (fun tick _ => decide (oldest_tick ≤ tick)) self

end PendingP2PChecksums

inductive PendingEvent (Peer : Type) where
  | record_local (tick : Tick) (checksum : BitVec 64)
  | record_remote (peer : Peer) (message : ChecksumMessage)
  | clean (current_tick : Tick)

variable {Peer : Type} [DecidableEq Peer]

/-- An event, and the comparisons that it makes. -/
def PendingP2PChecksums.step (self : PendingP2PChecksums Peer) :
    PendingEvent Peer → PendingP2PChecksums Peer × List (Comparison Peer)
  | .record_local tick checksum => self.record_local tick checksum
  | .record_remote peer message => self.record_remote peer message
  | .clean current_tick => (self.clean current_tick,[])

/-- The checksums after a run that starts with none, and all comparisons of it in order. -/
def PendingP2PChecksums.run (events : List (PendingEvent Peer)) : PendingP2PChecksums Peer × List (Comparison Peer) :=
  events.foldl (fun (pending,reported) event => let (next,comparisons) := pending.step event;
    (next,reported ++ comparisons)) (∅,[])

namespace PendingP2PChecksums

/-- The local checksum of a tick. -/
def local_value (self : PendingP2PChecksums Peer) (tick : Tick) : Option (BitVec 64) :=
  (self.lookup tick).bind (·.local_checksum)

/-- The checksum of a peer for a tick. -/
def remote_value (self : PendingP2PChecksums Peer) (peer : Peer) (tick : Tick) : Option (BitVec 64) :=
  (self.lookup tick).bind (·.remote_checksum peer)

/-- The two checksums of a tick, if both are there. -/
def pair (self : PendingP2PChecksums Peer) (peer : Peer) (tick : Tick) : Option (BitVec 64 × BitVec 64) :=
  (self.local_value tick).bind fun expected => (self.remote_value peer tick).map (expected,·)

/-- No peer has two entries for a tick. -/
def Distinct (self : PendingP2PChecksums Peer) : Prop :=
  ∀ tick pending,self.lookup tick = some pending → (pending.remote.map Prod.fst).Nodup

/-- The local checksum after an event. -/
def local_after (self : PendingP2PChecksums Peer) (tick : Tick) : PendingEvent Peer → Option (BitVec 64)
  | .record_local recorded checksum => if tick = recorded then some checksum else self.local_value tick
  | .record_remote _ _ => self.local_value tick
  | .clean current_tick => if current_tick.sub CHECKSUM_HISTORY_TICKS ≤ tick then self.local_value tick else none

/-- The checksum of a peer after an event. -/
def remote_after (self : PendingP2PChecksums Peer) (peer : Peer) (tick : Tick) : PendingEvent Peer → Option (BitVec 64)
  | .record_local _ _ => self.remote_value peer tick
  | .record_remote recorded message =>
    if peer = recorded ∧ tick = message.tick then some message.checksum else self.remote_value peer tick
  | .clean current_tick => if current_tick.sub CHECKSUM_HISTORY_TICKS ≤ tick then self.remote_value peer tick else none

end PendingP2PChecksums

/-- The comparisons for a peer and a tick. -/
def compared (peer : Peer) (tick : Tick) (comparisons : List (Comparison Peer)) : List (Comparison Peer) :=
  comparisons.filter fun comparison => comparison.peer = peer ∧ comparison.tick = tick

/-- The comparison of a pair that is there and was not before. -/
def once (peer : Peer) (tick : Tick) (before after : Option (BitVec 64 × BitVec 64)) : List (Comparison Peer) :=
  match after with
  | none => []
  | some (expected,actual) => if before = some (expected,actual) then [] else [⟨peer,tick,expected,actual⟩]

namespace PendingP2PChecksum
variable {remote : List (Peer × BitVec 64)} {peer other : Peer} {checksum : BitVec 64}

theorem find_set_remote (remote : List (Peer × BitVec 64)) (peer other : Peer) (checksum : BitVec 64) :
    ((set_remote peer checksum remote).find? (·.1 = other)).map (·.2) =
      if other = peer then some checksum else (remote.find? (·.1 = other)).map (·.2) := by
  induction remote with
  | nil =>
    by_cases same : other = peer
    · simp [set_remote,same]
    · simp [set_remote,same,Ne.symm same]
  | cons entry rest ih =>
    rw [set_remote]
    by_cases isPeer : entry.1 = peer
    · rw [if_pos isPeer,List.find?_cons,List.find?_cons]
      by_cases same : other = peer
      · simp [same,isPeer]
      · simp [same,isPeer,Ne.symm same]
    · rw [if_neg isPeer,List.find?_cons,List.find?_cons]
      by_cases isOther : entry.1 = other
      · simp [isOther,show other ≠ peer from isOther ▸ isPeer]
      · simp [isOther,ih]

theorem nodup_set_remote (distinct : (remote.map Prod.fst).Nodup) (peer : Peer) (checksum : BitVec 64) :
    ((set_remote peer checksum remote).map Prod.fst).Nodup ∧
      ∀ other,other ∈ (set_remote peer checksum remote).map Prod.fst ↔ other = peer ∨ other ∈ remote.map Prod.fst := by
  induction remote with
  | nil => simp [set_remote]
  | cons entry rest ih =>
    rw [List.map_cons,List.nodup_cons] at distinct
    obtain ⟨nodup,members⟩ := ih distinct.2
    rw [set_remote]
    by_cases isPeer : entry.1 = peer
    · rw [if_pos isPeer]
      refine ⟨by simpa using distinct,fun other => ?_⟩
      simp only [List.map_cons,List.mem_cons,isPeer]
      tauto
    · rw [if_neg isPeer]
      refine ⟨?_,fun other => ?_⟩
      · rw [List.map_cons,List.nodup_cons,members]
        exact ⟨by rintro (same | member); exacts [isPeer same,distinct.1 member],nodup⟩
      · simp only [List.map_cons,List.mem_cons,members]
        tauto

/-- A new local checksum is compared once with that of each peer. -/
theorem compared_local (distinct : (remote.map Prod.fst).Nodup) (peer : Peer) (tick : Tick) (checksum : BitVec 64) :
    compared peer tick (remote.map fun (peer,remote) => ⟨peer,tick,checksum,remote⟩) =
      ((remote.find? (·.1 = peer)).map fun entry => (⟨peer,tick,checksum,entry.2⟩ : Comparison Peer)).toList := by
  induction remote with
  | nil => rfl
  | cons entry rest ih =>
    rw [List.map_cons,List.nodup_cons] at distinct
    have others := ih distinct.2
    rw [compared] at others
    rw [compared,List.map_cons,List.filter_cons,List.find?_cons,others]
    by_cases isPeer : entry.1 = peer
    · have absent : rest.find? (·.1 = peer) = none := by
        refine List.find?_eq_none.mpr fun other member => ?_
        simp only [decide_eq_true_eq]
        exact fun same => distinct.1 (isPeer.trans same.symm ▸ List.mem_map_of_mem member)
      simp [isPeer,absent]
    · simp [isPeer]

end PendingP2PChecksum

namespace PendingP2PChecksums
variable {self : PendingP2PChecksums Peer}

private theorem insert_values (self : PendingP2PChecksums Peer) (tick : Tick) (pending : PendingP2PChecksum Peer) :
    (∀ other,local_value (self.insert tick pending) other = if other = tick then pending.local_checksum
      else self.local_value other) ∧
      ∀ peer other,remote_value (self.insert tick pending) peer other =
        if other = tick then pending.remote_checksum peer else self.remote_value peer other := by
  refine ⟨fun other => ?_,fun peer other => ?_⟩
  all_goals
    simp only [local_value,remote_value,lookup_insert_ite]
    split <;> rfl

/-- The entry of a tick, which is empty if there is none. -/
private theorem entry_values (self : PendingP2PChecksums Peer) (tick : Tick) :
    ((self.lookup tick).getD .default).local_checksum = self.local_value tick ∧
      ∀ peer,((self.lookup tick).getD .default).remote_checksum peer = self.remote_value peer tick := by
  simp only [local_value,remote_value]
  cases self.lookup tick with
  | none => exact ⟨rfl,fun _ => rfl⟩
  | some pending => exact ⟨rfl,fun _ => rfl⟩

omit [DecidableEq Peer] in
private theorem Distinct.entry (distinct : Distinct self) (tick : Tick) :
    (((self.lookup tick).getD .default).remote.map Prod.fst).Nodup := by
  cases stored : self.lookup tick with
  | none => exact List.nodup_nil
  | some pending => exact distinct tick pending stored

omit [DecidableEq Peer] in
private theorem Distinct.insert (distinct : Distinct self) {tick : Tick} {pending : PendingP2PChecksum Peer}
    (nodup : (pending.remote.map Prod.fst).Nodup) : Distinct (self.insert tick pending) := by
  intro other stored isStored
  rw [lookup_insert_ite] at isStored
  split at isStored
  · exact Option.some.inj isStored ▸ nodup
  · exact distinct other stored isStored

/-- The values after an event. -/
theorem step_values (self : PendingP2PChecksums Peer) (event : PendingEvent Peer) :
    (∀ tick,(self.step event).1.local_value tick = self.local_after tick event) ∧
      ∀ peer tick,(self.step event).1.remote_value peer tick = self.remote_after peer tick event := by
  cases event with
  | record_local tick checksum =>
    obtain ⟨localValue,remoteValue⟩ := entry_values self tick
    simp only [step,record_local,local_after,remote_after]
    split_ifs with same
    all_goals
      refine ⟨fun other => ?_,fun peer other => ?_⟩
      · rw [(insert_values ..).1]
        try rw [same]
      · rw [(insert_values ..).2]
        refine ite_eq_right_iff.mpr fun isTick => ?_
        rw [isTick]
        exact remoteValue peer
  | record_remote peer message =>
    obtain ⟨localValue,remoteValue⟩ := entry_values self message.tick
    simp only [step,record_remote,local_after,remote_after]
    have written (peer' : Peer) (other : Tick) (pending : PendingP2PChecksum Peer)
        (reads : pending.remote_checksum peer' = if peer' = peer then some message.checksum
          else self.remote_value peer' message.tick) :
        remote_value (self.insert message.tick pending) peer' other =
          if peer' = peer ∧ other = message.tick then some message.checksum else self.remote_value peer' other := by
      rw [(insert_values ..).2]
      by_cases isTick : other = message.tick
      · simp [isTick,reads]
      · simp [isTick]
    split_ifs with same
    all_goals
      refine ⟨fun other => ?_,fun peer' other => written peer' other _ ?_⟩
      · rw [(insert_values ..).1]
        refine ite_eq_right_iff.mpr fun isTick => ?_
        rw [isTick]
        exact localValue
    · rw [remoteValue]
      split_ifs with isPeer
      · rw [isPeer,← remoteValue,same]
      · rfl
    · rw [← remoteValue]
      exact PendingP2PChecksum.find_set_remote _ peer peer' message.checksum
  | clean current_tick =>
    simp only [step,clean,local_after,remote_after,local_value,remote_value,lookup_retain]
    refine ⟨fun tick => ?_,fun peer tick => ?_⟩
    all_goals
      cases self.lookup tick with
      | none => simp
      | some pending => by_cases kept : current_tick.sub CHECKSUM_HISTORY_TICKS ≤ tick <;> simp [Option.filter,kept]

theorem Distinct.step (distinct : Distinct self) (event : PendingEvent Peer) : Distinct (self.step event).1 := by
  cases event with
  | record_local tick checksum =>
    simp only [PendingP2PChecksums.step,record_local]
    split_ifs
    all_goals exact distinct.insert (distinct.entry tick)
  | record_remote peer message =>
    simp only [PendingP2PChecksums.step,record_remote]
    split_ifs
    · exact distinct.insert (distinct.entry message.tick)
    · exact distinct.insert (PendingP2PChecksum.nodup_set_remote (distinct.entry message.tick) peer message.checksum).1
  | clean current_tick =>
    intro tick pending stored
    rw [PendingP2PChecksums.step,clean,lookup_retain,Option.filter_eq_some_iff] at stored
    exact distinct tick pending stored.1

/-- An event compares the checksums of a peer and a tick once if they are both there and were not the same before. -/
theorem step_compares (distinct : Distinct self) (event : PendingEvent Peer) (peer : Peer) (tick : Tick) :
    compared peer tick (self.step event).2 =
      once peer tick (self.pair peer tick) ((self.step event).1.pair peer tick) := by
  have localValue := (step_values self event).1 tick
  have remoteValue := (step_values self event).2 peer tick
  simp only [pair,localValue,remoteValue]
  cases event with
  | record_local recorded checksum =>
    obtain ⟨isLocal,isRemote⟩ := entry_values self recorded
    simp only [step,record_local,local_after,remote_after,isLocal]
    by_cases isTick : tick = recorded
    · subst isTick
      rw [if_pos rfl]
      by_cases same : self.local_value tick = some checksum
      · rw [if_pos same,same]
        cases self.remote_value peer tick <;> simp [compared,once]
      · rw [if_neg same,PendingP2PChecksum.compared_local (distinct.entry tick),← isRemote peer,
          PendingP2PChecksum.remote_checksum]
        cases ((self.lookup tick).getD .default).remote.find? (·.1 = peer) with
        | none => rfl
        | some entry => cases stored : self.local_value tick <;> simp_all [once]
    · have others : compared peer tick (if self.local_value recorded = some checksum then (self.insert recorded
          ((self.lookup recorded).getD .default),[]) else (self.insert recorded
            {((self.lookup recorded).getD .default) with local_checksum := some checksum},
            ((self.lookup recorded).getD .default).remote.map fun (peer,remote) =>
              (⟨peer,recorded,checksum,remote⟩ : Comparison Peer))).2 = [] := by
        split_ifs
        · rfl
        · exact List.filter_eq_nil_iff.mpr fun comparison member => by
            obtain ⟨entry,-,rfl⟩ := List.mem_map.mp member
            simp [Ne.symm isTick]
      rw [others,if_neg isTick]
      cases self.local_value tick <;> cases self.remote_value peer tick <;> simp [once]
  | record_remote recorded message =>
    obtain ⟨isLocal,isRemote⟩ := entry_values self message.tick
    simp only [step,record_remote,local_after,remote_after,isRemote,isLocal]
    by_cases isPair : peer = recorded ∧ tick = message.tick
    · obtain ⟨rfl,rfl⟩ := isPair
      simp only [and_self,if_true]
      split_ifs with same
      · rw [same]
        cases self.local_value message.tick <;> simp [compared,once]
      · cases self.local_value message.tick <;> cases stored : self.remote_value peer message.tick <;>
          simp_all [compared,once]
    · have others : ¬(recorded = peer ∧ message.tick = tick) := fun ⟨isPeer,isTick⟩ => isPair ⟨isPeer.symm,isTick.symm⟩
      rw [if_neg isPair]
      split_ifs
      all_goals
        cases self.local_value message.tick <;> cases self.local_value tick <;> cases self.remote_value peer tick <;>
          simp_all [compared,once]
  | clean current_tick =>
    simp only [step,local_after,remote_after]
    split_ifs <;> cases self.local_value tick <;> cases self.remote_value peer tick <;> simp [compared,once]

/-- The last comparison for each pair that is there used its values. -/
def Current (self : PendingP2PChecksums Peer) (reported : List (Comparison Peer)) : Prop :=
  ∀ peer tick expected actual,self.pair peer tick = some (expected,actual) →
    (compared peer tick reported).getLast? = some ⟨peer,tick,expected,actual⟩

private theorem run_snoc (events : List (PendingEvent Peer)) (event : PendingEvent Peer) :
    run (events ++ [event]) = (((run events).1.step event).1,(run events).2 ++ ((run events).1.step event).2) := by
  rw [run,List.foldl_append]
  rfl

theorem run_current (events : List (PendingEvent Peer)) :
    Distinct (run events).1 ∧ Current (run events).1 (run events).2 := by
  induction events using List.reverseRecOn with
  | nil =>
    exact ⟨fun tick pending stored => by simp [run] at stored,fun peer tick expected actual stored =>
      by simp [run,pair,local_value] at stored⟩
  | append_singleton events event ih =>
    obtain ⟨distinct,current⟩ := ih
    rw [run_snoc]
    refine ⟨distinct.step event,fun peer tick expected actual isPair => ?_⟩
    have compares := step_compares distinct event peer tick
    rw [isPair] at compares
    rw [compared,List.filter_append]
    rw [compared] at compares
    rw [compares,once]
    split_ifs with same
    · rw [List.append_nil]
      exact current peer tick expected actual same
    · exact List.getLast?_concat

end PendingP2PChecksums

/-- After every run the last comparison for a pair of checksums used their values, and every event compares a pair once
if it changes one of the two and both are there, and not at all otherwise. -/
theorem p2p_comparison_complete (events : List (PendingEvent Peer)) (event : PendingEvent Peer) :
    let (pending,reported) := PendingP2PChecksums.run events
    let (next,comparisons) := pending.step event
    pending.Current reported ∧
      (∀ tick,next.local_value tick = pending.local_after tick event) ∧
      (∀ peer tick,next.remote_value peer tick = pending.remote_after peer tick event) ∧
      ∀ peer tick,compared peer tick comparisons = once peer tick (pending.pair peer tick) (next.pair peer tick) := by
  obtain ⟨distinct,current⟩ := PendingP2PChecksums.run_current events
  obtain ⟨localValue,remoteValue⟩ := PendingP2PChecksums.step_values (PendingP2PChecksums.run events).1 event
  exact ⟨current,localValue,remoteValue,PendingP2PChecksums.step_compares distinct event⟩

end Lightyear.Checksum
