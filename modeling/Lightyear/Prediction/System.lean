import Lightyear.Prediction.Rollback

/-!
The runs of the system around `check_rollback`. Updates and removals arrive in any
order, the local timeline may be anywhere, Replicon may confirm any checkpoint of an
entity, and what the local simulation, a replay or pruning leave of a component can
change at any time.
-/
namespace Lightyear.Prediction
open Message Lightyear.Core
open EntityMap (Entity)

inductive Event (Kind : Type) (Component : Kind → Type) where
  | set_tick (tick : Tick)
  | spawn (entity : ReplicatedEntity Kind Component)
  | despawn (id : Entity)
  | mark (id : Entity) (predicted deterministic_predicted disable_rollback : Bool)
  | confirm (id : Entity) (confirm_history : RepliconTick → Bool)
  | change (id : Entity) (kind : Kind) (held : Held (Component kind))
  | write_history (id : Entity) (kind : Kind) (tick : Tick) (component : Component kind) (materialize_initial : Bool)
  | remove_history (id : Entity) (kind : Kind) (tick : Tick)
  | record_mismatch (tick : Tick)
  | request_forced_rollback (tick : Tick)
  | receive_messages (received : Bool)
  | receive_inputs (earliest_mismatch_input : EarliestMismatchedInput)
  | set_input_rollback_floor (floor : Option Tick)
  | reset_connection_state
  | check_rollback (frame : Frame)
  | end_rollback

variable {Kind : Type} [DecidableEq Kind] {Component : Kind → Type} [∀ kind,DecidableEq (Component kind)]

namespace World

def start (rollback_policy : RollbackPolicy) : World Kind Component :=
  ⟨0,{PredictionManager.default with rollback_policy},.default,[],[]⟩

def find (self : World Kind Component) (id : Entity) : Option (ReplicatedEntity Kind Component) :=
  self.entities.find? (·.id = id)

def update (self : World Kind Component) (id : Entity)
    (change : ReplicatedEntity Kind Component → ReplicatedEntity Kind Component) : World Kind Component :=
  {self with entities := self.entities.map fun entity => if entity.id = id then change entity else entity}

end World

variable (registry : PredictionRegistry Kind Component)

section
variable (id : Entity) (kind : Kind) (tick : Tick)

/-- The check is left out for a tick that is processed already, or once a mismatch at or before it is known. -/
def add_resolved_confirmed_to_history_inner (confirmed_component : Option (Component kind))
    (check_state_rollback materialized_initial : Bool) (entity : ReplicatedEntity Kind Component)
    (world : World Kind Component) : World Kind Component × Bool :=
  let should_check := world.prediction_manager.rollback_policy.state = .Check
  let check_state_rollback := check_state_rollback && world.state_metadata.should_check_mismatch_at tick
  let recorded := record_confirmed_and_maybe_check (registry.should_rollback kind) tick confirmed_component
    (entity.held kind)
    (check_state_rollback && should_check) world.tick materialized_initial
  let world := world.update id (·.set kind recorded.held)
  if recorded.deferred then
    ({world with
      prediction_manager := {world.prediction_manager with
        pending_entity_state_checks := world.prediction_manager.pending_entity_state_checks.record tick id}},
      recorded.should_rollback)
  else (world,recorded.should_rollback)

def record_mismatch_if (recorded : World Kind Component × Bool) : World Kind Component :=
  if recorded.2 then {recorded.1 with state_metadata := recorded.1.state_metadata.record_mismatch tick} else recorded.1

/-- `write_history_inner`, once the message's tick is resolved; `write_history_diff_inner` does the same with
each value. -/
def write_history_inner (component : Component kind) (materialize_initial : Bool) (world : World Kind Component) :
    World Kind Component :=
  match world.find id with
  | none => world
  | some entity =>
    let held := entity.held kind
    let materialized_initial := materialize_initial && held.is_fresh
    let entity := if materialized_initial then entity.set kind {held with live := some component} else entity
    record_mismatch_if tick (add_resolved_confirmed_to_history_inner registry id kind tick (some component)
      (!materialized_initial) materialized_initial entity world)

def remove_history (world : World Kind Component) : World Kind Component :=
  match world.find id with
  | none => world
  | some entity =>
    record_mismatch_if tick (add_resolved_confirmed_to_history_inner registry id kind tick none true false entity world)

end

def step (world : World Kind Component) : Event Kind Component → World Kind Component
  | .set_tick tick => {world with tick}
  | .spawn entity => {world with entities := world.entities ++ [entity]}
  | .despawn id => {world with entities := world.entities.filter (·.id ≠ id)}
  | .mark id predicted deterministic_predicted disable_rollback =>
    world.update id fun entity => {entity with predicted,deterministic_predicted,disable_rollback}
  | .confirm id confirm_history => world.update id fun entity => {entity with confirm_history}
  | .change id kind held => world.update id (·.set kind held)
  | .write_history id kind tick component materialize_initial =>
    write_history_inner registry id kind tick component materialize_initial world
  | .remove_history id kind tick => remove_history registry id kind tick world
  | .record_mismatch tick => {world with state_metadata := world.state_metadata.record_mismatch tick}
  | .request_forced_rollback tick => {world with state_metadata := world.state_metadata.request_forced_rollback tick}
  | .receive_messages received =>
    {world with state_metadata :=
      {world.state_metadata.reset_frame_state with received_messages_this_frame := received}}
  | .receive_inputs earliest_mismatch_input =>
    {world with prediction_manager := {world.prediction_manager with earliest_mismatch_input}}
  | .set_input_rollback_floor floor =>
    {world with prediction_manager := {world.prediction_manager with input_rollback_floor := floor}}
  | .reset_connection_state =>
    {world with
      state_metadata := world.state_metadata.reset_connection_state
      prediction_manager := {world.prediction_manager with pending_entity_state_checks := .default}}
  | .check_rollback frame => check_rollback registry frame world
  | .end_rollback => {world with prediction_manager := world.prediction_manager.set_non_rollback}

def run (world : World Kind Component) (events : List (Event Kind Component)) : World Kind Component :=
  events.foldl (step registry) world

@[simp] theorem run_nil (world : World Kind Component) : run registry world [] = world := rfl

theorem run_snoc (world : World Kind Component) (events : List (Event Kind Component)) (event : Event Kind Component) :
    run registry world (events ++ [event]) = step registry (run registry world events) event := by
  simp [run]

/-! ### What the steps keep -/

section
variable {registry} {world : World Kind Component}

variable (registry) in
/-- What is recorded of the component, and whether it differs. -/
theorem add_resolved_records (id : Entity) (kind : Kind) (tick : Tick) (confirmed_component : Option (Component kind))
    (check_state_rollback materialized_initial : Bool) (entity : ReplicatedEntity Kind Component)
    (world : World Kind Component) :
    let added := add_resolved_confirmed_to_history_inner registry id kind tick confirmed_component check_state_rollback
      materialized_initial entity world
    let recorded := record_confirmed_and_maybe_check (registry.should_rollback kind) tick confirmed_component
      (entity.held kind) (check_state_rollback && world.state_metadata.should_check_mismatch_at tick &&
        world.prediction_manager.rollback_policy.state = .Check) world.tick materialized_initial
    added.1.entities = (world.update id (·.set kind recorded.held)).entities ∧ added.2 = recorded.should_rollback := by
  simp only [add_resolved_confirmed_to_history_inner]
  split <;> exact ⟨rfl,rfl⟩

theorem add_resolved_frame (id : Entity) (kind : Kind) (tick : Tick) (confirmed_component : Option (Component kind))
    (check_state_rollback materialized_initial : Bool) (entity : ReplicatedEntity Kind Component) :
    let after := (add_resolved_confirmed_to_history_inner registry id kind tick confirmed_component check_state_rollback
      materialized_initial entity world).1
    after.state_metadata = world.state_metadata ∧
      after.prediction_manager.rollback_policy = world.prediction_manager.rollback_policy := by
  simp only [add_resolved_confirmed_to_history_inner]
  split <;> exact ⟨rfl,rfl⟩

omit [DecidableEq Kind] [∀ kind,DecidableEq (Component kind)] in
private theorem record_mismatch_if_policy (tick : Tick) (recorded : World Kind Component × Bool) :
    (record_mismatch_if tick recorded).prediction_manager.rollback_policy =
      recorded.1.prediction_manager.rollback_policy := by
  unfold record_mismatch_if
  split <;> rfl

omit [DecidableEq Kind] [∀ kind,DecidableEq (Component kind)] in
private theorem record_mismatch_if_keeps {tick mismatch : Tick} {recorded : World Kind Component × Bool}
    (keeps : recorded.1.state_metadata.Keeps mismatch) :
    (record_mismatch_if tick recorded).state_metadata.Keeps mismatch := by
  unfold record_mismatch_if
  split
  · exact keeps.record_mismatch tick
  · exact keeps

namespace StateRollbackMetadata.Keeps
variable {mismatch : Tick}

theorem write_history (keeps : world.state_metadata.Keeps mismatch) (id : Entity) (kind : Kind) (tick : Tick)
    (component : Component kind) (materialize_initial : Bool) :
    (write_history_inner registry id kind tick component materialize_initial world).state_metadata.Keeps mismatch := by
  unfold write_history_inner
  split
  · exact keeps
  · refine record_mismatch_if_keeps ?_
    rwa [(add_resolved_frame ..).1]

theorem remove_history (keeps : world.state_metadata.Keeps mismatch) (id : Entity) (kind : Kind) (tick : Tick) :
    (Prediction.remove_history registry id kind tick world).state_metadata.Keeps mismatch := by
  unfold Prediction.remove_history
  split
  · exact keeps
  · refine record_mismatch_if_keeps ?_
    rwa [(add_resolved_frame ..).1]

end StateRollbackMetadata.Keeps

theorem step_policy (event : Event Kind Component) :
    (step registry world event).prediction_manager.rollback_policy = world.prediction_manager.rollback_policy := by
  cases event with
  | check_rollback frame => exact check_rollback_policy registry frame world
  | write_history id kind tick component materialize_initial =>
    rw [step,write_history_inner]
    split
    · rfl
    · rw [record_mismatch_if_policy,(add_resolved_frame ..).2]
  | remove_history id kind tick =>
    rw [step,remove_history]
    split
    · rfl
    · rw [record_mismatch_if_policy,(add_resolved_frame ..).2]
  | _ => rfl

theorem run_policy (events : List (Event Kind Component)) :
    (run registry world events).prediction_manager.rollback_policy = world.prediction_manager.rollback_policy := by
  induction events using List.reverseRecOn with
  | nil => rfl
  | append_singleton events event ih => rw [run_snoc,step_policy,ih]

end
end Lightyear.Prediction
