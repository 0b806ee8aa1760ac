import Lightyear.Prediction.Lifetimes
import Lightyear.Prediction.System

/-!
The despawns of a rollback over the runs of a client. Every rollback drains the queue
of the entities that were spawned in prediction, those before its target included: a
later rollback that goes deeper does not despawn these.
-/
namespace Lightyear.Prediction
open Message Lightyear.Core
open EntityMap (Entity)

def PredictionManager.get_rollback_start_tick (self : PredictionManager) : Option Tick :=
  match self.rollback with
  | .RollbackStart tick => some tick
  | .Default => none

variable {Kind : Type} [DecidableEq Kind] {Component : Kind → Type} [∀ kind,DecidableEq (Component kind)]

/-- The resources of prediction, with the entities of the local simulation. -/
structure Client (Kind : Type) (Component : Kind → Type) where
  world : World Kind Component
  lifetimes : Lifetimes Kind Component

inductive ClientEvent (Kind : Type) (Component : Kind → Type) where
  | prediction (event : Event Kind Component)
  | simulation (event : LocalEvent Kind Component)

/-- The entities that are spawned in a run. -/
def spawned_ids (events : List (ClientEvent Kind Component)) : List Entity :=
  events.filterMap fun
    | .simulation (.spawn _ spawned) => some spawned.id
    | _ => none

namespace Client

def start (rollback_policy : RollbackPolicy) : Client Kind Component := ⟨.start rollback_policy,.default⟩

variable (registry : PredictionRegistry Kind Component)

/-- `check_rollback` to its end. -/
def check_rollback (frame : Frame) (self : Client Kind Component) : Client Kind Component :=
  let forced_rollback_requested := self.world.state_metadata.forced_rollback_tick.isSome
  let world := Prediction.check_rollback registry frame self.world
  match world.prediction_manager.get_rollback_start_tick with
  | some rollback_tick => ⟨world,self.lifetimes.despawn_spawned_after rollback_tick forced_rollback_requested⟩
  | none => ⟨world,self.lifetimes⟩

/-- The local tick of an entity that is spawned is that of the tick that is simulated, in a replay that of
the replayed tick. -/
def step (self : Client Kind Component) : ClientEvent Kind Component → Client Kind Component
  | .prediction (.check_rollback frame) => self.check_rollback registry frame
  | .prediction event => {self with world := Prediction.step registry self.world event}
  | .simulation event => {self with lifetimes := self.lifetimes.step self.world.tick event}

def run (self : Client Kind Component) (events : List (ClientEvent Kind Component)) : Client Kind Component :=
  events.foldl (step registry) self

theorem run_snoc (self : Client Kind Component) (events : List (ClientEvent Kind Component))
    (event : ClientEvent Kind Component) :
    self.run registry (events ++ [event]) = (self.run registry events).step registry event := by
  simp [run]

/-- The target of the rollback that a frame starts. -/
def accepted (self : Client Kind Component) (frame : Frame) : Option Tick :=
  (self.check_rollback registry frame).world.prediction_manager.get_rollback_start_tick

end Client

section
variable (registry : PredictionRegistry Kind Component) (start : Client Kind Component)

/-- An entity that a replay spawns again is spawned at a tick of the run. -/
def SpawnedAt (events : List (ClientEvent Kind Component)) (id : Entity) (tick : Tick) : Prop :=
  ∃ before connected_receiver spawned after,
    events = before ++ .simulation (.spawn connected_receiver spawned) :: after ∧ spawned.id = id ∧
      (∃ deterministic_predicted ∈ spawned.deterministic_predicted,deterministic_predicted.skip_despawn = false) ∧
      (start.run registry before).world.tick = tick

/-- A rollback of the run went to the tick at which the entity was spawned, or to a later one. -/
def Passed (events : List (ClientEvent Kind Component)) (id : Entity) (tick : Tick) : Prop :=
  ∃ before frame after,events = before ++ .prediction (.check_rollback frame) :: after ∧
    SpawnedAt registry start before id tick ∧
    ∃ rollback_tick ∈ (start.run registry before).accepted registry frame,tick ≤ rollback_tick

/-- When a rollback starts, nothing is left that was spawned after its target. -/
def Clears (events : List (ClientEvent Kind Component)) : Prop :=
  ∀ before frame after,events = before ++ .prediction (.check_rollback frame) :: after →
    ∀ rollback_tick ∈ (start.run registry before).accepted registry frame,∀ id tick,
      SpawnedAt registry start before id tick →
        id ∈ (start.run registry (before ++ [.prediction (.check_rollback frame)])).lifetimes.ids → tick ≤ rollback_tick

/-- A rollback goes before the spawn of an entity that an earlier rollback has passed and that is left. -/
def Deepens (events : List (ClientEvent Kind Component)) : Prop :=
  ∃ before frame after,events = before ++ .prediction (.check_rollback frame) :: after ∧
    ∃ rollback_tick ∈ (start.run registry before).accepted registry frame,∃ id tick,
      Passed registry start before id tick ∧ id ∈ (start.run registry before).lifetimes.ids ∧ rollback_tick < tick

end

section
variable {registry : PredictionRegistry Kind Component} {start : Client Kind Component}
variable {events : List (ClientEvent Kind Component)} {event : ClientEvent Kind Component} {id : Entity} {tick : Tick}

theorem SpawnedAt.snoc (spawned : SpawnedAt registry start events id tick) :
    SpawnedAt registry start (events ++ [event]) id tick := by
  obtain ⟨before,connected_receiver,isSpawned,after,rfl,rest⟩ := spawned
  exact ⟨before,connected_receiver,isSpawned,after ++ [event],by simp,rest⟩

theorem Passed.snoc (passed : Passed registry start events id tick) :
    Passed registry start (events ++ [event]) id tick := by
  obtain ⟨before,frame,after,rfl,rest⟩ := passed
  exact ⟨before,frame,after ++ [event],by simp,rest⟩

/-- A spawn of a run is the last event, or one before. -/
theorem SpawnedAt.of_snoc (spawned : SpawnedAt registry start (events ++ [event]) id tick) :
    SpawnedAt registry start events id tick ∨
      ∃ connected_receiver isSpawned,event = .simulation (.spawn connected_receiver isSpawned) ∧ isSpawned.id = id ∧
        (∃ deterministic_predicted ∈ isSpawned.deterministic_predicted,deterministic_predicted.skip_despawn = false) ∧
        (start.run registry events).world.tick = tick := by
  obtain ⟨before,connected_receiver,isSpawned,after,split,rest⟩ := spawned
  rcases List.eq_nil_or_concat after with rfl | ⟨after,last,rfl⟩
  · obtain ⟨rfl,same⟩ := List.append_inj' split rfl
    exact .inr ⟨connected_receiver,isSpawned,List.singleton_inj.mp same,rest⟩
  · rw [List.concat_eq_append,← List.cons_append,← List.append_assoc] at split
    obtain ⟨rfl,-⟩ := List.append_inj' split rfl
    exact .inl ⟨before,connected_receiver,isSpawned,after,rfl,rest⟩

omit [∀ kind,DecidableEq (Component kind)] in
/-- What a frame does to the entities. -/
theorem check_rollback_lifetimes (registry : PredictionRegistry Kind Component) (frame : Frame)
    (self : Client Kind Component) :
    (self.accepted registry frame = none ∧ (self.check_rollback registry frame).lifetimes = self.lifetimes) ∨
      ∃ rollback_tick forced_rollback_requested,self.accepted registry frame = some rollback_tick ∧
        (self.check_rollback registry frame).lifetimes =
          self.lifetimes.despawn_spawned_after rollback_tick forced_rollback_requested := by
  cases started : (Prediction.check_rollback registry frame self.world).prediction_manager.get_rollback_start_tick with
  | none => exact .inl (by simp [Client.accepted,Client.check_rollback,started])
  | some rollback_tick =>
    exact .inr ⟨rollback_tick,self.world.state_metadata.forced_rollback_tick.isSome,
      by simp [Client.accepted,Client.check_rollback,started]⟩

/-- An event that is not a frame leaves the queue, and leaves no entity that was not there but one that is spawned. -/
theorem step_lifetimes (registry : PredictionRegistry Kind Component) (self : Client Kind Component)
    (event : ClientEvent Kind Component) :
    (∃ frame,event = .prediction (.check_rollback frame)) ∨
      self.lifetimes.deterministic_despawn ⊆ (self.step registry event).lifetimes.deterministic_despawn ∧
        ∀ id ∈ (self.step registry event).lifetimes.ids,id ∈ self.lifetimes.ids ∨
          ∃ connected_receiver spawned,event = .simulation (.spawn connected_receiver spawned) ∧ spawned.id = id := by
  cases event with
  | simulation event =>
    obtain ⟨queue,left⟩ := self.lifetimes.step_spec self.world.tick event
    refine .inr ⟨queue,fun id member => (left id member).imp_right ?_⟩
    rintro ⟨connected_receiver,spawned,rfl,same⟩
    exact ⟨connected_receiver,spawned,rfl,same⟩
  | prediction event =>
    cases event with
    | check_rollback frame => exact .inl ⟨frame,rfl⟩
    | _ => exact .inr ⟨List.Subset.refl _,fun _ member => .inl member⟩

theorem SpawnedAt.mem_spawned_ids (spawned : SpawnedAt registry start events id tick) : id ∈ spawned_ids events := by
  obtain ⟨before,connected_receiver,isSpawned,after,rfl,rfl,-⟩ := spawned
  exact List.mem_filterMap.mpr ⟨.simulation (.spawn connected_receiver isSpawned),by simp,rfl⟩

/-- An entity that is left is in the queue, or a rollback has passed it. No entity is spawned twice: Bevy allocates each
of them once. -/
theorem queued_or_passed (allocated : (spawned_ids events).Nodup) (spawned : SpawnedAt registry start events id tick)
    (left : id ∈ (start.run registry events).lifetimes.ids) :
    (tick,id) ∈ (start.run registry events).lifetimes.deterministic_despawn ∨ Passed registry start events id tick := by
  induction events using List.reverseRecOn with
  | nil =>
    obtain ⟨before,_,_,_,split,-⟩ := spawned
    exact absurd split (by simp)
  | append_singleton events event ih =>
    rw [Client.run_snoc] at left ⊢
    rw [spawned_ids,List.filterMap_append,List.nodup_append] at allocated
    obtain ⟨before,-,again⟩ := allocated
    rcases spawned.of_snoc with earlier | ⟨connected_receiver,isSpawned,rfl,rfl,⟨marker,isMarker,despawns⟩,rfl⟩
    · rcases step_lifetimes registry (start.run registry events) event with ⟨frame,rfl⟩ | ⟨queue,stays⟩
      · rcases check_rollback_lifetimes registry frame (start.run registry events) with
          ⟨-,same⟩ | ⟨rollback_tick,forced_rollback_requested,isAccepted,same⟩
        · simp only [Client.step,same] at left ⊢
          exact (ih before earlier left).imp_right Passed.snoc
        · simp only [Client.step,same] at left
          obtain ⟨was,despawned⟩ := Lifetimes.despawn_spawned_after_spec rollback_tick forced_rollback_requested left
          rcases ih before earlier was with queued | passed
          · exact .inr ⟨events,frame,[],rfl,earlier,rollback_tick,isAccepted,despawned tick queued⟩
          · exact .inr passed.snoc
      · rcases stays id left with was | ⟨connected_receiver,isSpawned,rfl,rfl⟩
        · exact (ih before earlier was).imp (queue ·) Passed.snoc
        · exact absurd rfl (again _ earlier.mem_spawned_ids isSpawned.id (by simp))
    · exact .inl ((Lifetimes.spawn_spec _ connected_receiver isSpawned).2.2 marker isMarker despawns)

/-- In a run without a rollback that goes deeper than one that has passed an entity before, each rollback despawns what
was spawned after its target. -/
theorem spawned_after_despawned (registry : PredictionRegistry Kind Component) (start : Client Kind Component)
    (events : List (ClientEvent Kind Component)) (allocated : (spawned_ids events).Nodup)
    (shallow : ¬Deepens registry start events) : Clears registry start events := by
  rintro before frame after rfl rollback_tick isAccepted id tick spawned left
  rw [Client.run_snoc,Client.step] at left
  rcases check_rollback_lifetimes registry frame (start.run registry before) with
    ⟨rejected,-⟩ | ⟨target,forced_rollback_requested,isTarget,same⟩
  · exact nomatch rejected.symm.trans isAccepted
  · obtain rfl : target = rollback_tick := Option.some.inj (isTarget.symm.trans isAccepted)
    rw [same] at left
    obtain ⟨was,despawned⟩ := Lifetimes.despawn_spawned_after_spec target forced_rollback_requested left
    have unused : (spawned_ids before).Nodup := by
      rw [spawned_ids,List.filterMap_append] at allocated
      exact (List.nodup_append.mp allocated).1
    rcases queued_or_passed unused spawned was with queued | passed
    · exact despawned tick queued
    · exact not_lt.mp fun later => shallow ⟨before,frame,after,rfl,target,isTarget,id,tick,passed,was,later⟩

end

/-- No components. -/
private def no_registry : PredictionRegistry Empty fun _ => Unit := ⟨[],fun kind => nomatch kind⟩

/-- A bullet that a replay fires again. -/
private def bullet : Spawned Empty fun _ => Unit := ⟨1,false,some ⟨false,20⟩,false,fun kind => nomatch kind⟩

/-- A frame without anything from the server. -/
private def offline : Frame := ⟨0,false,none,none,none,false⟩

/-- The bullet is fired at tick 10, and at tick 14 an input of tick 13 is corrected. -/
private def firing : List (ClientEvent Empty fun _ => Unit) :=
  [.prediction (.set_tick 10),.simulation (.spawn false bullet),.prediction (.set_tick 14),
    .prediction (.receive_inputs ⟨13,true⟩),.prediction (.check_rollback offline)]

/-- At tick 15 an input of tick 9 is corrected. -/
private def corrected : List (ClientEvent Empty fun _ => Unit) :=
  [.prediction .end_rollback,.prediction (.set_tick 15),.prediction (.receive_inputs ⟨9,true⟩)]

theorem spawned_after_despawned_once : Clears no_registry (.start .default) firing := by
  refine spawned_after_despawned no_registry (.start .default) firing (by decide) ?_
  -- there is one frame in the run
  rintro ⟨before,frame,after,split,_,_,_,_,⟨first,earlier,rest,rfl,-⟩,-⟩
  have frames := congrArg (List.countP fun | .prediction (.check_rollback _) => true | _ => false) split
  have one : firing.countP (fun | .prediction (.check_rollback _) => true | _ => false) = 1 := by decide
  simp only [one,List.countP_append,List.countP_cons_of_pos] at frames
  omega

/-- The rollback to tick 12 has taken the bullet from the queue. The one to tick 8 leaves it. -/
theorem deeper_rollback_leaves :
    ¬∀ events : List (ClientEvent Empty fun _ => Unit),(spawned_ids events).Nodup →
      Clears no_registry (.start .default) events := by
  intro clears
  have cleared := clears (firing ++ corrected ++ [.prediction (.check_rollback offline)]) (by decide)
    (firing ++ corrected) offline [] rfl 8
    (by decide) 1 10 ⟨[.prediction (.set_tick 10)],false,bullet,_,rfl,rfl,⟨_,rfl,rfl⟩,by decide⟩ (by decide)
  exact absurd cleared (by decide)

end Lightyear.Prediction
