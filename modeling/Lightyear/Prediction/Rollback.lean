import Lightyear.Prediction.Registry

/-!
The decision to roll back, `check_rollback` of `rollback.rs`. A forced rollback comes
first, then a mismatch with the authoritative state, then one of the inputs.
-/
namespace Lightyear.Prediction
open Message Lightyear.Core
open EntityMap (Entity)

abbrev RepliconTick := BitVec 32

section
variable (Kind : Type) (Component : Kind → Type)

/-- The components that are both predicted and replicated, with their rollback conditions. -/
structure PredictionRegistry where
  prediction_map : List Kind
  should_rollback : (kind : Kind) → Component kind → Component kind → Bool

/-- An entity that receives updates. Of its `ConfirmHistory` there is what `contains` answers. `Predicted` is kept with
the two components that exclude the entity from the rollback check. -/
structure ReplicatedEntity where
  id : Entity
  predicted : Bool
  deterministic_predicted : Bool
  disable_rollback : Bool
  confirm_history : RepliconTick → Bool
  held : (kind : Kind) → Held (Component kind)

end

inductive Rollback where
  | FromState
  | FromInputs
deriving DecidableEq, Repr

/-- What `do_rollback` reports of a request. -/
inductive Request where
  | input_rollback_rejected_before_floor (rollback_tick : Tick)
  | rollback_rejected (rollback_tick : Tick) (rollback : Rollback)
  | rollback_requested (rollback_tick : Tick) (rollback : Rollback)
deriving DecidableEq, Repr

/-- What a frame's `check_rollback` reads: the configuration, the inputs that were received, the checkpoints, and
whether an entity awaits a catch-up. -/
structure Frame where
  maximum_predicted_ticks : UInt16
  received_input : Bool
  previous_frame : Option Tick
  last_confirmed_tick : Option Tick
  last_confirmed_replicon_tick : Option RepliconTick
  has_pending_catchup : Bool
deriving DecidableEq, Repr

variable {Kind : Type} {Component : Kind → Type}

/-- The resources and entities, with the requests that the current frame has made. -/
structure World (Kind : Type) (Component : Kind → Type) where
  tick : Tick
  prediction_manager : PredictionManager
  state_metadata : StateRollbackMetadata
  entities : List (ReplicatedEntity Kind Component)
  requests : List Request

variable (frame : Frame)

/-- `check_rollback::do_rollback` -/
def do_rollback (rollback_tick : Tick) (rollback : Rollback) (world : World Kind Component) : World Kind Component :=
  let manager := world.prediction_manager
  let max_rollback_ticks := manager.rollback_policy.effective_max_rollback_ticks frame.maximum_predicted_ticks
  let delta := world.tick.diff rollback_tick
  if rollback = .FromInputs ∧ ¬manager.input_rollback_is_allowed rollback_tick then
    {world with
      prediction_manager := manager.set_non_rollback
      requests := world.requests ++ [.input_rollback_rejected_before_floor rollback_tick]}
  else if delta < 0 ∨ delta > max_rollback_ticks.toNat then
    {world with
      prediction_manager := manager.set_non_rollback
      requests := world.requests ++ [.rollback_rejected rollback_tick rollback]}
  else
    {world with
      prediction_manager := manager.set_rollback_tick rollback_tick
      requests := world.requests ++ [.rollback_requested rollback_tick rollback]}

/-- The match on `rollback_policy.input`. -/
def check_inputs (world : World Kind Component) : World Kind Component :=
  match world.prediction_manager.rollback_policy.input with
  | .Always =>
    match frame.previous_frame with
    | some rollback_tick =>
      if !world.prediction_manager.is_rollback && frame.received_input then
        do_rollback frame rollback_tick .FromInputs world
      else world
    | none => world
  | .Check =>
    if !world.prediction_manager.is_rollback && world.prediction_manager.earliest_mismatch_input.has_mismatches then
      do_rollback frame (world.prediction_manager.earliest_mismatch_input.tick.sub 1) .FromInputs world
    else world
  | .Disabled => world

/-- The completed tick that a frame has to process, with its checkpoint. -/
def completed_tick (world : World Kind Component) : Option (Tick × RepliconTick) := do
  let server_confirmed_tick ← frame.last_confirmed_tick
  let server_confirmed_replicon_tick ← frame.last_confirmed_replicon_tick
  if !world.prediction_manager.is_rollback && world.state_metadata.has_confirmed_tick_advanced server_confirmed_tick &&
      !(world.tick < server_confirmed_tick) then
    some (server_confirmed_tick,server_confirmed_replicon_tick)
  else none

/-- The completed tick that `RollbackMode::Check` processes in a frame, if no forced rollback and no catch-up
comes first. -/
def processed_tick (world : World Kind Component) : Option (Tick × RepliconTick) :=
  if world.state_metadata.forced_rollback_tick.isNone && !frame.has_pending_catchup then completed_tick frame world
    else none

/-- A world in which some requests were made. They change whether there is a rollback, and nothing else. -/
def World.ask (self : World Kind Component) (rollback : RollbackState) (requests : List Request) :
    World Kind Component :=
  {self with
    prediction_manager := {self.prediction_manager with rollback}
    requests := self.requests ++ requests}

section
variable {world : World Kind Component} {rollback_tick : Tick} {rollback : Rollback}

@[simp] theorem ask_state_metadata (state : RollbackState) (requests : List Request) :
    (world.ask state requests).state_metadata = world.state_metadata := rfl

@[simp]
theorem ask_tick (state : RollbackState) (requests : List Request) : (world.ask state requests).tick = world.tick := rfl

@[simp] theorem ask_entities (state : RollbackState) (requests : List Request) :
    (world.ask state requests).entities = world.entities := rfl

@[simp] theorem ask_requests (state : RollbackState) (requests : List Request) :
    (world.ask state requests).requests = world.requests ++ requests := rfl

@[simp] theorem ask_policy (state : RollbackState) (requests : List Request) :
    (world.ask state requests).prediction_manager.rollback_policy = world.prediction_manager.rollback_policy := rfl

@[simp] theorem ask_is_rollback (state : RollbackState) (requests : List Request) :
    (world.ask state requests).prediction_manager.is_rollback = (state != .Default) := rfl

theorem ask_ask (first second : RollbackState) (requests more : List Request) :
    (world.ask first requests).ask second more = world.ask second (requests ++ more) := by
  simp [World.ask]

theorem ask_nothing (world : World Kind Component) : world.ask world.prediction_manager.rollback [] = world := by
  simp [World.ask]

/-- A rollback of some ticks is within the bound of the policy. -/
def Reaches (frame : Frame) (world : World Kind Component) (rollback_tick : Tick) : Prop :=
  0 ≤ world.tick.diff rollback_tick ∧ world.tick.diff rollback_tick ≤
    (world.prediction_manager.rollback_policy.effective_max_rollback_ticks frame.maximum_predicted_ticks).toNat

theorem reaches_iff {frame : Frame} (past : rollback_tick ≤ world.tick) :
    Reaches frame world rollback_tick ↔ world.tick.toNat - rollback_tick.toNat ≤
      (world.prediction_manager.rollback_policy.effective_max_rollback_ticks frame.maximum_predicted_ticks).toNat := by
  have bound := UInt16.toNat_lt
    (world.prediction_manager.rollback_policy.effective_max_rollback_ticks frame.maximum_predicted_ticks)
  rw [Tick.le_iff] at past
  unfold Reaches Tick.diff
  omega

theorem processed_tick_spec {frame : Frame} {server_confirmed_tick : Tick} {replicon_tick : RepliconTick}
    (processed : processed_tick frame world = some (server_confirmed_tick,replicon_tick)) :
    server_confirmed_tick ∈ frame.last_confirmed_tick ∧ world.prediction_manager.rollback = .Default ∧
      server_confirmed_tick ≤ world.tick := by
  unfold processed_tick at processed
  split at processed
  case isFalse => exact nomatch processed
  simp only [completed_tick,Option.bind_eq_bind,Option.bind_eq_some_iff,Bool.and_eq_true] at processed
  obtain ⟨tick,isCompleted,checkpoint,isCheckpoint,processed⟩ := processed
  split at processed
  next conditions =>
    cases processed
    simp only [PredictionManager.is_rollback,Bool.not_eq_true',bne_eq_false_iff_eq,decide_eq_false_iff_not,
      not_lt] at conditions
    exact ⟨isCompleted,conditions.1.1,conditions.2⟩
  next => exact nomatch processed

/-- A request is granted, or there is no rollback and it says why. -/
theorem do_rollback_cases (frame : Frame) (rollback_tick : Tick) (rollback : Rollback) (world : World Kind Component) :
    do_rollback frame rollback_tick rollback world =
        world.ask (.RollbackStart rollback_tick) [.rollback_requested rollback_tick rollback] ∨
      ∃ request,do_rollback frame rollback_tick rollback world = world.ask .Default [request] ∧
        ∀ tick kind,request ≠ .rollback_requested tick kind := by
  unfold do_rollback
  simp only
  split
  · exact .inr ⟨_,rfl,fun _ _ same => nomatch same⟩
  · split
    · exact .inr ⟨_,rfl,fun _ _ same => nomatch same⟩
    · exact .inl rfl

theorem do_rollback_granted (reaches : Reaches frame world rollback_tick) :
    do_rollback frame rollback_tick .FromState world =
      world.ask (.RollbackStart rollback_tick) [.rollback_requested rollback_tick .FromState] := by
  unfold Reaches at reaches
  unfold do_rollback
  rw [if_neg (by simp),if_neg (by omega)]
  rfl

theorem do_rollback_rejected (beyond : ¬Reaches frame world rollback_tick) :
    do_rollback frame rollback_tick .FromState world =
      world.ask .Default [.rollback_rejected rollback_tick .FromState] := by
  unfold Reaches at beyond
  unfold do_rollback
  rw [if_neg (by simp),if_pos (by omega)]
  rfl

/-- A request that is made ends in `rollback` as it is reported. -/
theorem do_rollback_asks (frame : Frame) (rollback_tick : Tick) (rollback : Rollback) (world : World Kind Component) :
    ∃ state request,do_rollback frame rollback_tick rollback world = world.ask state [request] ∧
      (state ≠ .Default → request = .rollback_requested rollback_tick rollback) := by
  rcases do_rollback_cases frame rollback_tick rollback world with granted | ⟨request,rejected,-⟩
  · exact ⟨_,_,granted,fun _ => rfl⟩
  · exact ⟨_,_,rejected,fun state => absurd rfl state⟩

/-- The check of the inputs starts no rollback from a state. -/
theorem check_inputs_asks (frame : Frame) (world : World Kind Component) :
    ∃ state requests,check_inputs frame world = world.ask state requests ∧
      ∀ tick,.rollback_requested tick .FromState ∉ requests := by
  have asks (rollback_tick : Tick) : ∃ state requests,
      do_rollback frame rollback_tick .FromInputs world = world.ask state requests ∧
        ∀ tick,.rollback_requested tick .FromState ∉ requests := by
    rcases do_rollback_cases frame rollback_tick .FromInputs world with granted | ⟨request,rejected,other⟩
    · exact ⟨_,_,granted,fun tick member => nomatch List.mem_singleton.mp member⟩
    · exact ⟨_,_,rejected,fun tick member => other tick .FromState (List.mem_singleton.mp member).symm⟩
  have nothing : ∃ state requests,world = world.ask state requests ∧
      ∀ tick,.rollback_requested tick .FromState ∉ requests :=
    ⟨_,[],(ask_nothing world).symm,fun _ => List.not_mem_nil⟩
  unfold check_inputs
  split
  · split
    · split
      · exact asks _
      · exact nothing
    · exact nothing
  · split
    · exact asks _
    · exact nothing
  · exact nothing

end

variable [DecidableEq Kind]

namespace ReplicatedEntity

def set (self : ReplicatedEntity Kind Component) (kind : Kind) (held : Held (Component kind)) :
    ReplicatedEntity Kind Component :=
  {self with held := Function.update self.held kind held}

/-- The filter of the query `predicted_entities`. -/
def is_checked (registry : PredictionRegistry Kind Component) (self : ReplicatedEntity Kind Component) : Bool :=
  self.predicted && !self.deterministic_predicted && !self.disable_rollback &&
    registry.prediction_map.any fun kind => (self.held kind).predicted.isSome

end ReplicatedEntity

variable (registry : PredictionRegistry Kind Component) {world : World Kind Component}

/-- The loop over the components of an entity, up to the first that differs. -/
def check_components (confirmed_tick : Tick) :
    List Kind → ReplicatedEntity Kind Component → ReplicatedEntity Kind Component × Bool
  | [],entity => (entity,false)
  | kind :: kinds,entity =>
    let checked := check_rollback_for_unchanged_component (registry.should_rollback kind) confirmed_tick
      (entity.held kind)
    if checked.2 then (entity.set kind checked.1,true) else check_components confirmed_tick kinds
      (entity.set kind checked.1)

variable (frame : Frame)

section
variable (confirmed_tick : Tick) (replicon_tick : RepliconTick) (deferred_check_entities : List Entity)

/-- An entity that Replicon confirmed at the completed tick is skipped, unless its check was deferred. -/
def check_entity (entity : ReplicatedEntity Kind Component) (world : World Kind Component) :
    ReplicatedEntity Kind Component × World Kind Component :=
  if world.prediction_manager.is_rollback || !entity.is_checked registry then (entity,world)
  else if entity.confirm_history replicon_tick && !deferred_check_entities.contains entity.id then (entity,world)
  else
    let checked := check_components registry confirmed_tick registry.prediction_map entity
    (checked.1,if checked.2 then do_rollback frame confirmed_tick .FromState world else world)

/-- The scan of the entities at a completed tick. -/
def check_entities :
    List (ReplicatedEntity Kind Component) → World Kind Component →
      List (ReplicatedEntity Kind Component) × World Kind Component
  | [],world => ([],world)
  | entity :: entities,world =>
    let checked := check_entity registry frame confirmed_tick replicon_tick deferred_check_entities entity world
    let rest := check_entities entities checked.2
    (checked.1 :: rest.1,rest.2)

end

/-- `RollbackMode::Check` at a completed tick that is not ahead of the local timeline. -/
def process_completed_tick (server_confirmed_tick : Tick) (replicon_tick : RepliconTick)
    (world : World Kind Component) :
    World Kind Component :=
  let (deferred_check_entities,pending_entity_state_checks) :=
    world.prediction_manager.pending_entity_state_checks.take_through server_confirmed_tick
  let world := {world with prediction_manager := {world.prediction_manager with pending_entity_state_checks}}
  let world := match world.state_metadata.pending_mismatch_at_or_before server_confirmed_tick with
    | some _ => do_rollback frame server_confirmed_tick .FromState
        {world with state_metadata := world.state_metadata.clear_mismatch_history}
    | none =>
      let scanned := check_entities registry frame server_confirmed_tick replicon_tick deferred_check_entities
        world.entities world
      {scanned.2 with entities := scanned.1}
  let state_metadata := world.state_metadata.set_last_processed_tick server_confirmed_tick
  {world with
    state_metadata := if world.prediction_manager.is_rollback then state_metadata.clear_mismatch_history
      else state_metadata}

/-- The match on `rollback_policy.state`. -/
def check_state (world : World Kind Component) : World Kind Component :=
  match world.prediction_manager.rollback_policy.state with
  | .Always =>
    match frame.last_confirmed_tick with
    | some server_confirmed_tick =>
      if world.state_metadata.received_messages_this_frame && world.entities.any (·.is_checked registry) then
        do_rollback frame server_confirmed_tick .FromState world
      else world
    | none => world
  | .Check =>
    match completed_tick frame world with
    | some (server_confirmed_tick,replicon_tick) =>
      process_completed_tick registry frame server_confirmed_tick replicon_tick world
    | none => world
  | .Disabled => world

def check_rollback (world : World Kind Component) : World Kind Component :=
  let world := {world with requests := []}
  match world.state_metadata.forced_rollback_tick with
  | some forced_tick =>
    do_rollback frame forced_tick .FromState
      {world with state_metadata := {world.state_metadata with forced_rollback_tick := none}}
  | none =>
    if frame.has_pending_catchup then world
    else check_inputs frame (check_state registry frame world)

theorem check_entity_asks (confirmed_tick : Tick) (replicon_tick : RepliconTick) (deferred : List Entity)
    (entity : ReplicatedEntity Kind Component) (world : World Kind Component) :
    ∃ state requests,
      (check_entity registry frame confirmed_tick replicon_tick deferred entity world).2 = world.ask state requests ∧
        (state ≠ .Default → world.prediction_manager.rollback ≠ .Default ∨
          .rollback_requested confirmed_tick .FromState ∈ requests) := by
  have nothing : ∃ state requests,world = world.ask state requests ∧
      (state ≠ .Default → world.prediction_manager.rollback ≠ .Default ∨
        Request.rollback_requested confirmed_tick .FromState ∈ requests) := ⟨_,[],(ask_nothing world).symm,.inl⟩
  unfold check_entity
  split
  · exact nothing
  split
  · exact nothing
  simp only
  split
  · obtain ⟨state,request,asked,isRequest⟩ := do_rollback_asks frame confirmed_tick .FromState world
    exact ⟨state,_,asked,fun rolls => .inr (List.mem_singleton.mpr (isRequest rolls).symm)⟩
  · exact nothing

/-- A scan makes requests. Where it ends in a rollback, that was granted in it. -/
theorem check_entities_asks (confirmed_tick : Tick) (replicon_tick : RepliconTick) (deferred : List Entity)
    (entities : List (ReplicatedEntity Kind Component)) (world : World Kind Component) :
    ∃ state requests,
      (check_entities registry frame confirmed_tick replicon_tick deferred entities world).2 =
        world.ask state requests ∧
        (state ≠ .Default → world.prediction_manager.rollback ≠ .Default ∨
          .rollback_requested confirmed_tick .FromState ∈ requests) := by
  induction entities generalizing world with
  | nil => exact ⟨_,[],(ask_nothing world).symm,.inl⟩
  | cons entity entities ih =>
    obtain ⟨first,requests,asked,granted⟩ :=
      check_entity_asks registry frame confirmed_tick replicon_tick deferred entity world
    obtain ⟨state,more,rest,later⟩ := ih (world.ask first requests)
    refine ⟨state,requests ++ more,?_,fun rolls => ?_⟩
    · rw [check_entities,asked,rest,ask_ask]
    · rcases later rolls with earlier | inMore
      · exact (granted earlier).imp_right (List.mem_append_left _)
      · exact .inr (List.mem_append_right _ inMore)

/-- A mismatch that the completed tick has reached is forgotten, whatever becomes of the request. -/
theorem process_reached (world : World Kind Component) {server_confirmed_tick : Tick} (replicon_tick : RepliconTick)
    (reached : world.state_metadata.Keeps server_confirmed_tick) :
    let after := process_completed_tick registry frame server_confirmed_tick replicon_tick world
    after.state_metadata.earliest_pending_mismatch_tick = none ∧
      (Reaches frame world server_confirmed_tick →
        after.requests = world.requests ++ [.rollback_requested server_confirmed_tick .FromState]) ∧
      (¬Reaches frame world server_confirmed_tick →
        after.requests = world.requests ++ [.rollback_rejected server_confirmed_tick .FromState]) := by
  obtain ⟨mismatch,isPending⟩ := Option.ne_none_iff_exists'.mp
    (mt StateRollbackMetadata.pending_mismatch_at_or_before_eq_none.mp (not_not_intro reached))
  simp only [process_completed_tick,PendingEntityStateChecks.take_through,isPending]
  refine ⟨?_,fun reaches => ?_,fun beyond => ?_⟩
  · obtain ⟨state,request,asked,-⟩ := do_rollback_asks frame server_confirmed_tick .FromState _
    rw [asked]
    split <;> rfl
  · rw [do_rollback_granted]
    · rfl
    · exact reaches
  · rw [do_rollback_rejected]
    · rfl
    · exact beyond

/-- A mismatch that the completed tick has not reached is kept, unless the scan ends in a rollback. -/
theorem process_ahead (world : World Kind Component) {server_confirmed_tick : Tick} {replicon_tick : RepliconTick}
    (ahead : ¬world.state_metadata.Keeps server_confirmed_tick) (idle : world.prediction_manager.rollback = .Default) :
    let after := process_completed_tick registry frame server_confirmed_tick replicon_tick world
    after.state_metadata.earliest_pending_mismatch_tick = world.state_metadata.earliest_pending_mismatch_tick ∨
      .rollback_requested server_confirmed_tick .FromState ∈ after.requests := by
  simp only [process_completed_tick,PendingEntityStateChecks.take_through,
    StateRollbackMetadata.pending_mismatch_at_or_before_eq_none.mpr ahead]
  obtain ⟨state,requests,asked,granted⟩ := check_entities_asks registry frame server_confirmed_tick replicon_tick
    ((world.prediction_manager.pending_entity_state_checks.by_tick.filter (·.1 ≤ server_confirmed_tick)).map Prod.snd)
    world.entities {world with
      prediction_manager := {world.prediction_manager with
        pending_entity_state_checks :=
          ⟨world.prediction_manager.pending_entity_state_checks.by_tick.filter (server_confirmed_tick < ·.1)⟩}}
  rw [asked]
  by_cases rolls : state = .Default
  · exact .inl (by simp [rolls,StateRollbackMetadata.set_last_processed_tick])
  · exact .inr (List.mem_append_right _ ((granted rolls).resolve_left (not_not_intro idle)))

/-- The policy is not changed by a frame. -/
theorem check_rollback_policy (world : World Kind Component) :
    (check_rollback registry frame world).prediction_manager.rollback_policy =
      world.prediction_manager.rollback_policy := by
  have asked (rollback_tick : Tick) (rollback : Rollback) (world : World Kind Component) :
      (do_rollback frame rollback_tick rollback world).prediction_manager.rollback_policy =
        world.prediction_manager.rollback_policy := by
    obtain ⟨state,request,asked,-⟩ := do_rollback_asks frame rollback_tick rollback world
    rw [asked,ask_policy]
  have processed (server_confirmed_tick : Tick) (replicon_tick : RepliconTick) (world : World Kind Component) :
      (process_completed_tick registry frame server_confirmed_tick replicon_tick
        world).prediction_manager.rollback_policy =
        world.prediction_manager.rollback_policy := by
    simp only [process_completed_tick,PendingEntityStateChecks.take_through]
    split
    · exact asked _ _ _
    · obtain ⟨state,requests,scanned,-⟩ := check_entities_asks registry frame server_confirmed_tick replicon_tick _ _ _
      rw [scanned]
      rfl
  have state (world : World Kind Component) : (check_state registry frame world).prediction_manager.rollback_policy =
      world.prediction_manager.rollback_policy := by
    unfold check_state
    split
    · split
      · split
        · exact asked _ _ _
        · rfl
      · rfl
    · split
      · exact processed _ _ _
      · rfl
    · rfl
  unfold check_rollback
  simp only
  split
  · exact asked _ _ _
  · split
    · rfl
    · obtain ⟨_,_,inputs,-⟩ := check_inputs_asks frame (check_state registry frame {world with requests := []})
      rw [inputs,ask_policy]
      exact state _

/-- In `RollbackMode::Check` a frame processes a completed tick, and then looks at the inputs. -/
theorem check_rollback_processed {server_confirmed_tick : Tick} {replicon_tick : RepliconTick}
    (check : world.prediction_manager.rollback_policy.state = .Check)
    (processed : processed_tick frame world = some (server_confirmed_tick,replicon_tick)) :
    ∃ state requests,check_rollback registry frame world =
      (process_completed_tick registry frame server_confirmed_tick replicon_tick {world with requests := []}).ask
        state requests ∧ ∀ tick,.rollback_requested tick .FromState ∉ requests := by
  unfold processed_tick at processed
  split at processed
  next conditions =>
    simp only [Bool.and_eq_true,Option.isNone_iff_eq_none,Bool.not_eq_true'] at conditions
    have completed : completed_tick frame {world with requests := []} = some (server_confirmed_tick,replicon_tick) :=
      processed
    have state : check_state registry frame {world with requests := []} =
        process_completed_tick registry frame server_confirmed_tick replicon_tick {world with requests := []} := by
      unfold check_state
      rw [check,completed]
    simp only [check_rollback,conditions.1,conditions.2,Bool.false_eq_true,if_false,state]
    exact check_inputs_asks frame _
  next => exact nomatch processed

/-- Without a completed tick to process a frame keeps the mismatches. -/
theorem check_rollback_unprocessed (check : world.prediction_manager.rollback_policy.state = .Check)
    (unprocessed : processed_tick frame world = none) :
    (check_rollback registry frame world).state_metadata.earliest_pending_mismatch_tick =
      world.state_metadata.earliest_pending_mismatch_tick := by
  unfold check_rollback
  simp only
  split
  · obtain ⟨_,_,asked,-⟩ := do_rollback_asks frame _ .FromState _
    rw [asked]
    rfl
  next unforced =>
    split
    · rfl
    next caught =>
      have completed : completed_tick frame {world with requests := []} = none := by
        simp only [processed_tick,unforced,caught] at unprocessed
        exact unprocessed
      obtain ⟨_,_,inputs,-⟩ := check_inputs_asks frame (check_state registry frame {world with requests := []})
      rw [inputs,ask_state_metadata,check_state,check,completed]

end Lightyear.Prediction
