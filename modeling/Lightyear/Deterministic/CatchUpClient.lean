import Lightyear.Deterministic.CatchUp
import Lightyear.Prediction.Rollback

/-!
The client side of the late join, `late_join/client.rs`. The client asks until it holds a snapshot, waits until the
snapshot can be used, and forces a rollback to its tick. The observers are told once the rollback is prepared.
-/
namespace Lightyear.CatchUp
open Message
open EntityMap (Entity)
open Prediction (World PredictionRegistry Rollback Request check_rollback do_rollback)

inductive CatchUpMode where
  | InputOnly
  | StateBasedCatchUp
deriving DecidableEq, Repr

def CATCH_UP_REQUEST_RETRY_TICKS : Int := 16
def CATCH_UP_MAX_REQUESTS : Nat := 10

structure PendingCatchUpSnapshot where
  server_tick : Tick
  replicon_tick : RepliconTick
deriving DecidableEq, Repr

/-- The event of a snapshot. -/
def PendingCatchUpSnapshot.ready (self : PendingCatchUpSnapshot) :
    CatchUpSnapshotReady := ⟨self.replicon_tick,self.server_tick⟩

structure CatchUpManager where
  completed : Bool
  pending_snapshot : Option PendingCatchUpSnapshot
  activating_snapshot : Option PendingCatchUpSnapshot
  requests_sent : Nat
  request_sent_at_tick : Option Tick
  suppress_checksums : Bool
deriving DecidableEq, Repr

namespace CatchUpManager

def default : CatchUpManager := ⟨false,none,none,0,none,false⟩

def suppresses_checksums (self : CatchUpManager) : Bool := self.suppress_checksums

def initial_catchup_is_active (mode : CatchUpMode) (self : CatchUpManager) :
    Bool := mode != .InputOnly && !self.completed

def catchup_snapshot_is_activating (self : CatchUpManager) : Bool := !self.completed && self.activating_snapshot.isSome

end CatchUpManager

structure LastConfirmedInput where
  tick : Tick
  received_for_all_clients : Bool
deriving DecidableEq, Repr

/-- The largest tick stands for none. -/
def LastConfirmedInput.get (self : LastConfirmedInput) :
    Option Tick := if self.tick = .MAX then none else some self.tick

/-- What the systems of a client send, request and trigger. -/
inductive Output where
  | CatchUpRequest (request : CatchUpRequest)
  | Rollback (request : Request)
  | CatchUpSnapshotReady (event : CatchUpSnapshotReady)
  | Disconnect

/-- A client with the entities that are gated, those that no rollback despawns yet, and the world of the prediction. -/
structure Client (Kind : Type) (Component : Kind → Type) where
  manager : CatchUpManager
  gated : List Entity
  deterministic_skip_despawn : List (Tick × Entity)
  world : World Kind Component
  outputs : List Output

/-- What reaches the observers of a client. -/
inductive Received where
  | CatchUpSnapshotReady (event : CatchUpSnapshotReady)
  | CatchUpGated (entity : Entity)

variable {Kind : Type} {Component : Kind → Type}

namespace Client

def output (output : Output) (self : Client Kind Component) : Client Kind Component :=
  {self with outputs := self.outputs ++ [output]}

def complete_catch_up (self : Client Kind Component) : Client Kind Component :=
  {self with
    gated := []
    manager := {self.manager with
      completed := true
      pending_snapshot := none
      requests_sent := 0
      request_sent_at_tick := none
      activating_snapshot := none
      suppress_checksums := false}}

def receive_catch_up_snapshot_ready (event : CatchUpSnapshotReady) (self : Client Kind Component) :
    Client Kind Component :=
  if self.manager.completed then self else
  if event.is_not_required then (self.output (.CatchUpSnapshotReady event)).complete_catch_up else
  if self.manager.pending_snapshot.all (·.server_tick < event.server_tick) then
    {self with manager := {self.manager with pending_snapshot := some ⟨event.server_tick,event.replicon_tick⟩}}
  else self

/-- The component is there when its observer runs. -/
def on_receive_catchup_gated (entity : Entity) (self : Client Kind Component) : Client Kind Component :=
  if self.manager.completed then self.output (.CatchUpSnapshotReady ⟨self.world.tick,self.world.tick⟩)
  else {self with gated := self.gated ++ [entity],manager := {self.manager with suppress_checksums := true}}

def receive (self : Client Kind Component) : Received → Client Kind Component
  | .CatchUpSnapshotReady event => self.receive_catch_up_snapshot_ready event
  | .CatchUpGated entity => self.on_receive_catchup_gated entity

/-- There is no client after too many requests. -/
def send_catchup_request (last_confirmed_input : LastConfirmedInput) (self : Client Kind Component) :
    Option (Client Kind Component) :=
  if self.manager.completed then some self else
  if !last_confirmed_input.received_for_all_clients then some self else
    match last_confirmed_input.get with
    | none => some self
    | some input_safe_tick =>
      if self.gated = [] ∨ self.manager.pending_snapshot.isSome ∨ self.manager.activating_snapshot.isSome then
        some self else
      if self.manager.request_sent_at_tick.any (self.world.tick.diff · < CATCH_UP_REQUEST_RETRY_TICKS) then
        some self else
        let requests_sent := self.manager.requests_sent + 1
        if requests_sent > CATCH_UP_MAX_REQUESTS then none
        else some {self.output (.CatchUpRequest ⟨input_safe_tick⟩) with
          manager := {self.manager with
            requests_sent
            request_sent_at_tick := some self.world.tick
            suppress_checksums := true}}

def trigger_snapshot_rollback (maximum_predicted_ticks : UInt16) (last_confirmed_input : LastConfirmedInput)
    (server_mutate_ticks : RepliconTick → Bool) (self : Client Kind Component) : Client Kind Component :=
  if self.manager.completed then self else
  if self.manager.activating_snapshot.isSome then self else
    match self.manager.pending_snapshot with
    | none => self
    | some snapshot =>
      let rollback_delta := self.world.tick.diff snapshot.server_tick
      if rollback_delta < 0 then self else
      if rollback_delta > (self.world.prediction_manager.rollback_policy.effective_max_rollback_ticks
          maximum_predicted_ticks).toNat then
        self.output .Disconnect
      else if !last_confirmed_input.received_for_all_clients then self else
      if last_confirmed_input.get.getD self.world.tick < snapshot.server_tick then self else
      if !server_mutate_ticks snapshot.replicon_tick then self else
        {self with
          world := {self.world with
            state_metadata := (self.world.state_metadata.request_forced_rollback
              snapshot.server_tick).clear_mismatch_history}
          manager := {self.manager with pending_snapshot := none,activating_snapshot := some snapshot}}

/-- The resource `Rollback`: the one that was inserted last in this frame. -/
def rollback (self : Client Kind Component) : Option Rollback :=
  self.world.requests.reverse.findSome? fun
    | .rollback_requested _ rollback => some rollback
    | _ => none

/-- The system cannot run without a rollback. -/
def trigger_catch_up_snapshot_activation (self : Client Kind Component) : Option (Client Kind Component) :=
  match self.rollback with
  | none => none
  | some rollback =>
    if self.manager.completed ∨ rollback ≠ .FromState then some self else
      match self.manager.activating_snapshot with
      | none => some self
      | some snapshot => some (self.output (.CatchUpSnapshotReady snapshot.ready))

/-- `try_remove::<DisableRollback>` -/
def enable_rollback (entity : Entity) (world : World Kind Component) : World Kind Component :=
  {world with entities := world.entities.map fun replicated =>
    if replicated.id = entity then {replicated with disable_rollback := false} else replicated}

def finish_catch_up_snapshot_activation (self : Client Kind Component) : Client Kind Component :=
  if self.manager.completed ∨ self.manager.activating_snapshot.isNone then self else
    complete_catch_up {self with
      world := self.deterministic_skip_despawn.foldl (fun world entry => enable_rollback entry.2 world) self.world
      deterministic_skip_despawn := []}

end Client

/-- What a frame finds: the world and its local tick, whether the timeline is synced, and what the observers receive
before the systems of the late join run. The two systems before the rollback run in either order. -/
structure ClientFrame (Kind : Type) (Component : Kind → Type) where
  world : World Kind Component
  deterministic_skip_despawn : List (Tick × Entity)
  synced : Bool
  received : List Received
  last_confirmed_input : LastConfirmedInput
  server_mutate_ticks : RepliconTick → Bool
  request_first : Bool
  rollback : Prediction.Frame

namespace Client
variable [DecidableEq Kind] (registry : PredictionRegistry Kind Component) (mode : CatchUpMode)

/-- The systems that need a synced timeline are skipped without one. -/
def send (frame : ClientFrame Kind Component) (self : Client Kind Component) : Option (Client Kind Component) :=
  if frame.synced then self.send_catchup_request frame.last_confirmed_input else some self

def trigger (frame : ClientFrame Kind Component) (self : Client Kind Component) : Client Kind Component :=
  self.trigger_snapshot_rollback frame.rollback.maximum_predicted_ticks frame.last_confirmed_input
    frame.server_mutate_ticks

/-- `CatchUpSystems::SendCatchUpRequest` and `CatchUpSystems::TriggerCatchUpRollback` -/
def catch_up (frame : ClientFrame Kind Component) (self : Client Kind Component) : Option (Client Kind Component) :=
  if self.manager.initial_catchup_is_active mode then
    if frame.request_first then (self.send frame).map (trigger frame) else (self.trigger frame).send frame
  else some self

def check (frame : ClientFrame Kind Component) (self : Client Kind Component) : Client Kind Component :=
  let world := if frame.synced then check_rollback registry frame.rollback self.world
    else {self.world with requests := []}
  {self with world,outputs := self.outputs ++ world.requests.map .Rollback}

/-- `CatchUpSystems::ActivateCatchUp` -/
def activate (self : Client Kind Component) : Option (Client Kind Component) :=
  if self.manager.catchup_snapshot_is_activating then
    self.trigger_catch_up_snapshot_activation.map finish_catch_up_snapshot_activation
  else some self

/-- The client as a frame finds it, after its observers. -/
def observe (frame : ClientFrame Kind Component) (self : Client Kind Component) : Client Kind Component :=
  frame.received.foldl receive
    {self with world := frame.world,deterministic_skip_despawn := frame.deterministic_skip_despawn}

/-- A frame of the client. -/
def step (self : Client Kind Component) (frame : ClientFrame Kind Component) : Option (Client Kind Component) := do
  let self ← (self.observe frame).catch_up mode frame
  (self.check registry frame).activate

end Client
end Lightyear.CatchUp
