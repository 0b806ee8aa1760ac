import Lightyear.EntityMap
import Lightyear.Prediction.Replay

/-!
The entities of the local simulation and what is kept of the ticks at which they were
spawned and despawned: the queues of `PredictionManager` and `PreSpawnedReceiver`, and
`PredictionDisable`. A rollback despawns with them what its replay spawns again.
-/
namespace Lightyear.Prediction
open Message Lightyear.Core Sorted
open EntityMap (Entity)

structure DeterministicPredicted where
  skip_despawn : Bool
  enable_rollback_after : UInt8
deriving DecidableEq, Repr

section
variable (Kind : Type) (Component : Kind → Type)

/-- An entity of the local simulation, with its components that have a prediction history. `prediction_disable` has the
tick of the `PredictionDisable` component. -/
structure LocalEntity where
  id : Entity
  predicted : Bool
  deterministic_predicted : Option DeterministicPredicted
  pre_spawned : Bool
  disable_rollback : Bool
  prediction_disable : Option Tick
  components : (kind : Kind) → Option (Replayed (Component kind))

/-- What an entity is spawned with. -/
structure Spawned where
  id : Entity
  predicted : Bool
  deterministic_predicted : Option DeterministicPredicted
  pre_spawned : Bool
  values : (kind : Kind) → Option (Component kind)

end

structure PreSpawnedReceiver where
  unmatched_prespawn_spawn_tick_to_entities : List (Tick × Entity)
  matched_prespawn_spawn_tick_to_entities : List (Tick × Entity)
deriving DecidableEq, Repr

namespace PreSpawnedReceiver

def default : PreSpawnedReceiver := ⟨[],[]⟩

def register_unmatched_entity (tick : Tick) (entity : Entity) (self : PreSpawnedReceiver) : PreSpawnedReceiver :=
  if self.unmatched_prespawn_spawn_tick_to_entities.any (·.2 = entity) then self
  else {self with
    unmatched_prespawn_spawn_tick_to_entities := self.unmatched_prespawn_spawn_tick_to_entities ++ [(tick,entity)]}

def cleanup_despawned_prespawn (entity : Entity) (self : PreSpawnedReceiver) : PreSpawnedReceiver :=
  ⟨self.unmatched_prespawn_spawn_tick_to_entities.filter (·.2 ≠ entity),
    self.matched_prespawn_spawn_tick_to_entities.filter (·.2 ≠ entity)⟩

/-- The entities that are despawned, with the receiver without them. -/
def despawn_prespawned_after_with (tick : Tick) (should_keep : Entity → Bool) (self : PreSpawnedReceiver) :
    List Entity × PreSpawnedReceiver :=
  let despawned : Tick × Entity → Bool := fun entry => decide (tick ≤ entry.1) && !should_keep entry.2
  ((self.unmatched_prespawn_spawn_tick_to_entities.filter despawned ++
      self.matched_prespawn_spawn_tick_to_entities.filter despawned).map Prod.snd,
    ⟨self.unmatched_prespawn_spawn_tick_to_entities.filter (!despawned ·),
      self.matched_prespawn_spawn_tick_to_entities.filter (!despawned ·)⟩)

/-- The observer `cleanup_matched_prespawn`, of the receiver. -/
def match_entity (entity : Entity) (self : PreSpawnedReceiver) : PreSpawnedReceiver :=
  match self.unmatched_prespawn_spawn_tick_to_entities.find? (·.2 = entity) with
  | some (spawn_tick,_) =>
    ⟨self.unmatched_prespawn_spawn_tick_to_entities.eraseP (·.2 = entity),
      self.matched_prespawn_spawn_tick_to_entities ++ [(spawn_tick,entity)]⟩
  | none => self

/-- The entities that have expired at a tick, with the receiver without them. -/
def drain_expired (tick : Tick) (self : PreSpawnedReceiver) : List Entity × PreSpawnedReceiver :=
  let split_idx := partition_point (·.1 < tick.sub 50) self.unmatched_prespawn_spawn_tick_to_entities
  ((self.unmatched_prespawn_spawn_tick_to_entities.take split_idx).map Prod.snd,
    {self with
      unmatched_prespawn_spawn_tick_to_entities := self.unmatched_prespawn_spawn_tick_to_entities.drop split_idx})

end PreSpawnedReceiver

variable {Kind : Type} {Component : Kind → Type}

/-- The entity as it is spawned. -/
def Spawned.entity (self : Spawned Kind Component) : LocalEntity Kind Component where
  id := self.id
  predicted := self.predicted
  deterministic_predicted := self.deterministic_predicted
  pre_spawned := self.pre_spawned
  disable_rollback := false
  prediction_disable := none
  components kind := (self.values kind).map fun value => ⟨self.predicted,some value,true,.default,none⟩

namespace LocalEntity

/-- The markers of the entities that a prediction disables instead of despawning them. -/
def is_predicted (self : LocalEntity Kind Component) : Bool :=
  self.predicted || self.deterministic_predicted.isSome || self.pre_spawned

/-- A system over the components of an entity, if its query has the entity. -/
def each (selects : LocalEntity Kind Component → Bool) (system : {C : Type} → Replayed C → Replayed C)
    (self : LocalEntity Kind Component) : LocalEntity Kind Component :=
  if selects self then {self with components := fun kind => (self.components kind).map system} else self

end LocalEntity

/-- The entities, with what `PredictionManager` and `PreSpawnedReceiver` keep of them. -/
structure Lifetimes (Kind : Type) (Component : Kind → Type) where
  entities : List (LocalEntity Kind Component)
  deterministic_despawn : List (Tick × Entity)
  deterministic_skip_despawn : List (Tick × Entity)
  prespawned_receiver : PreSpawnedReceiver

namespace Lifetimes

def default : Lifetimes Kind Component := ⟨[],[],[],.default⟩

def find (self : Lifetimes Kind Component) (id : Entity) : Option (LocalEntity Kind Component) :=
  self.entities.find? (·.id = id)

/-- Changes the entities of a list. -/
def update (ids : List Entity) (change : LocalEntity Kind Component → LocalEntity Kind Component)
    (self : Lifetimes Kind Component) : Lifetimes Kind Component :=
  {self with entities := self.entities.map fun entity => if entity.id ∈ ids then change entity else entity}

/-- The `despawn` command, with the observer of `PreSpawned`. -/
def despawn (self : Lifetimes Kind Component) (id : Entity) : Lifetimes Kind Component :=
  {self with
    entities := self.entities.filter (·.id ≠ id)
    prespawned_receiver := self.prespawned_receiver.cleanup_despawned_prespawn id}

def despawn_all (ids : List Entity) (self : Lifetimes Kind Component) :
    Lifetimes Kind Component := ids.foldl despawn self

/-- `DeterministicPredicted::on_add` -/
def on_add (tick : Tick) (id : Entity) (deterministic_predicted : DeterministicPredicted)
    (self : Lifetimes Kind Component) :
    Lifetimes Kind Component :=
  if !deterministic_predicted.skip_despawn then
    {self with deterministic_despawn := self.deterministic_despawn ++ [(tick,id)]}
  else
    {self with
      deterministic_skip_despawn := self.deterministic_skip_despawn ++
        [(tick.add_signed deterministic_predicted.enable_rollback_after.toNat,id)]}

/-- `PreSpawnedPlugin::register_prespawn`: only a conventional client that is connected tracks its entities. -/
def register_prespawn (tick : Tick) (connected_receiver : Bool) (id : Entity) (self : Lifetimes Kind Component) :
    Lifetimes Kind Component :=
  if connected_receiver then
    {self with prespawned_receiver := self.prespawned_receiver.register_unmatched_entity tick id}
  else self

/-- An entity is spawned with its components. -/
def spawn (tick : Tick) (connected_receiver : Bool) (spawned : Spawned Kind Component)
    (self : Lifetimes Kind Component) :
    Lifetimes Kind Component :=
  let added := {self with entities := self.entities ++ [spawned.entity]}
  let added := match spawned.deterministic_predicted with
    | some deterministic_predicted => added.on_add tick spawned.id deterministic_predicted
    | none => added
  if spawned.pre_spawned then added.register_prespawn tick connected_receiver spawned.id else added

/-- `PreSpawnedPlugin::cleanup_matched_prespawn`. The query leaves out the entities that are disabled. -/
def cleanup_matched_prespawn (id : Entity) (self : Lifetimes Kind Component) : Lifetimes Kind Component :=
  if (self.find id).any (fun entity => entity.pre_spawned && entity.prediction_disable.isNone) then
    {self with prespawned_receiver := self.prespawned_receiver.match_entity id}
  else self

/-- `PreSpawnedPlugin::pre_spawned_player_object_cleanup` -/
def pre_spawned_player_object_cleanup (tick : Tick) (self : Lifetimes Kind Component) : Lifetimes Kind Component :=
  let (expired,prespawned_receiver) := self.prespawned_receiver.drain_expired tick
  {self with prespawned_receiver}.despawn_all expired

/-- `PredictionDespawnCommand` -/
def prediction_despawn (tick : Tick) (id : Entity) (self : Lifetimes Kind Component) : Lifetimes Kind Component :=
  self.update [id] fun entity => if entity.is_predicted then {entity with prediction_disable := some tick} else entity

def remove_prediction_disable (self : Lifetimes Kind Component) : Lifetimes Kind Component :=
  {self with
    entities := self.entities.map fun entity => if entity.is_predicted then {entity with prediction_disable := none}
      else entity}

def finalize_deterministic_despawns (tick : Tick) (max_rollback_ticks : UInt16) (self : Lifetimes Kind Component) :
    Lifetimes Kind Component :=
  let expired := self.entities.filter fun entity =>
    entity.deterministic_predicted.isSome && entity.prediction_disable.any fun disabled =>
      decide (tick.diff disabled > max_rollback_ticks.toNat)
  self.despawn_all (expired.map LocalEntity.id)

/-- The queue of the entities that a rollback may not despawn. For those whose ticks of protection are not over,
it disables rollbacks. -/
def disable_rollbacks (rollback_tick : Tick) (forced_rollback_requested : Bool) (self : Lifetimes Kind Component) :
    Lifetimes Kind Component :=
  let queue := self.deterministic_skip_despawn
  if forced_rollback_requested then
    {self.update (queue.map Prod.snd) ({· with disable_rollback := false}) with deterministic_skip_despawn := []}
  else
    let split_idx := partition_point (·.1 ≤ rollback_tick) queue
    let should_disable_rollback := queue.drop split_idx
    let disabled := self.update (should_disable_rollback.map Prod.snd) ({· with disable_rollback := true})
    {disabled.update ((queue.take split_idx).map Prod.snd) ({· with disable_rollback := false}) with
      deterministic_skip_despawn := should_disable_rollback}

/-- The end of `check_rollback`, when a rollback starts. The query of the entities that it keeps leaves out those
that are disabled. -/
def despawn_spawned_after (rollback_tick : Tick) (forced_rollback_requested : Bool) (self : Lifetimes Kind Component) :
    Lifetimes Kind Component :=
  let protected_prespawn_entities := (self.deterministic_skip_despawn.filter (rollback_tick < ·.1)).map Prod.snd
  let should_keep (id : Entity) : Bool := id ∈ protected_prespawn_entities || (forced_rollback_requested &&
    (self.find id).any fun entity =>
      entity.prediction_disable.isNone && entity.deterministic_predicted.any (·.skip_despawn))
  let (prespawned,prespawned_receiver) :=
    self.prespawned_receiver.despawn_prespawned_after_with (rollback_tick.add 1) should_keep
  let deterministic := (self.deterministic_despawn.filter (rollback_tick < ·.1)).map Prod.snd
  ({self with prespawned_receiver,deterministic_despawn := []}.despawn_all
    (prespawned ++ deterministic)).disable_rollbacks
    rollback_tick forced_rollback_requested

/-- `finish_catch_up_snapshot_activation`, of the queue. -/
def finish_catch_up (self : Lifetimes Kind Component) : Lifetimes Kind Component :=
  {self.update (self.deterministic_skip_despawn.map Prod.snd) ({· with disable_rollback := false}) with
    deterministic_skip_despawn := []}

/-- `prepare_rollback` of a rollback from the inputs, for every component. -/
def prepare_rollback (current_tick rollback_tick : Tick) (self : Lifetimes Kind Component) : Lifetimes Kind Component :=
  {self with
    entities := self.entities.map (·.each (fun entity => !entity.disable_rollback && entity.prediction_disable.isNone)
      (·.prepare_rollback false current_tick rollback_tick))}

def update_prediction_history (max_rollback_ticks : UInt16) (tick : Tick) (self : Lifetimes Kind Component) :
    Lifetimes Kind Component :=
  {self with
    entities := self.entities.map (·.each (·.prediction_disable.isNone)
      (·.update_prediction_history max_rollback_ticks tick))}

end Lifetimes

/-- What happens to the entities outside of a rollback's start. Systems and observers leave out the entities
that are disabled. -/
inductive LocalEvent (Kind : Type) (Component : Kind → Type) where
  | spawn (connected_receiver : Bool) (spawned : Spawned Kind Component)
  | despawn (id : Entity)
  | prediction_despawn (id : Entity)
  | match_prespawn (id : Entity)
  | change (id : Entity) (kind : Kind) (change : Change (Component kind))
  | update_prediction_history (max_rollback_ticks : UInt16)
  | finalize_deterministic_despawns (max_rollback_ticks : UInt16)
  | pre_spawned_player_object_cleanup
  | finish_catch_up

/-- An event at a local tick. -/
def Lifetimes.step [DecidableEq Kind] (tick : Tick) (self : Lifetimes Kind Component) :
    LocalEvent Kind Component → Lifetimes Kind Component
  | .spawn connected_receiver spawned => self.spawn tick connected_receiver spawned
  | .despawn id => self.despawn id
  | .prediction_despawn id => self.prediction_despawn tick id
  | .match_prespawn id => self.cleanup_matched_prespawn id
  | .change id kind change => self.update [id] fun entity =>
    if entity.prediction_disable.isSome then entity
    else {entity with
      components := Function.update entity.components kind ((entity.components kind).map (·.change tick change))}
  | .update_prediction_history max_rollback_ticks => self.update_prediction_history max_rollback_ticks tick
  | .finalize_deterministic_despawns max_rollback_ticks => self.finalize_deterministic_despawns tick max_rollback_ticks
  | .pre_spawned_player_object_cleanup => self.pre_spawned_player_object_cleanup tick
  | .finish_catch_up => self.finish_catch_up

/-! ### The entities that are left -/

namespace Lifetimes
section
variable {self : Lifetimes Kind Component}

def ids (self : Lifetimes Kind Component) : List Entity := self.entities.map LocalEntity.id

@[simp] theorem ids_update (ids : List Entity) {change : LocalEntity Kind Component → LocalEntity Kind Component}
    (same : ∀ entity,(change entity).id = entity.id) : (self.update ids change).ids = self.ids := by
  simp only [Lifetimes.ids,update,List.map_map]
  refine List.map_congr_left fun entity _ => ?_
  simp only [Function.comp_apply]
  split
  · exact same entity
  · rfl

theorem ids_mapped {change : LocalEntity Kind Component → LocalEntity Kind Component}
    (same : ∀ entity,(change entity).id = entity.id) :
    ({self with entities := self.entities.map change} : Lifetimes Kind Component).ids = self.ids := by
  simp only [ids,List.map_map]
  exact List.map_congr_left fun entity _ => same entity

theorem mem_ids_despawn {id other : Entity} : id ∈ (self.despawn other).ids ↔ id ∈ self.ids ∧ id ≠ other := by
  simp only [ids,despawn,List.mem_map,List.mem_filter,decide_eq_true_eq]
  constructor
  · rintro ⟨entity,⟨member,ne⟩,rfl⟩
    exact ⟨⟨entity,member,rfl⟩,ne⟩
  · rintro ⟨⟨entity,member,rfl⟩,ne⟩
    exact ⟨entity,⟨member,ne⟩,rfl⟩

@[simp] theorem deterministic_despawn_despawn_all (ids : List Entity) :
    (self.despawn_all ids).deterministic_despawn = self.deterministic_despawn := by
  induction ids generalizing self with
  | nil => rfl
  | cons id ids ih => exact @ih (self.despawn id)

theorem mem_ids_despawn_all {id : Entity} (ids : List Entity) :
    id ∈ (self.despawn_all ids).ids ↔ id ∈ self.ids ∧ id ∉ ids := by
  induction ids generalizing self with
  | nil => simp [despawn_all]
  | cons first ids ih =>
    have rest : id ∈ ((self.despawn first).despawn_all ids).ids ↔ id ∈ self.ids ∧ id ∉ first :: ids := by
      rw [ih,mem_ids_despawn,List.mem_cons]
      tauto
    exact rest

@[simp] theorem ids_queued (queue : List (Tick × Entity)) :
    {self with deterministic_skip_despawn := queue}.ids = self.ids := rfl

@[simp] theorem ids_disable_rollbacks (rollback_tick : Tick) (forced_rollback_requested : Bool) :
    (self.disable_rollbacks rollback_tick forced_rollback_requested).ids = self.ids := by
  unfold disable_rollbacks
  simp only
  split <;> simp

/-- What a rollback finds in the queue is despawned if it was spawned after the target. -/
theorem despawn_spawned_after_spec (rollback_tick : Tick) (forced_rollback_requested : Bool) {id : Entity}
    (left : id ∈ (self.despawn_spawned_after rollback_tick forced_rollback_requested).ids) :
    id ∈ self.ids ∧ ∀ tick,(tick,id) ∈ self.deterministic_despawn → tick ≤ rollback_tick := by
  simp only [despawn_spawned_after,ids_disable_rollbacks,mem_ids_despawn_all,List.mem_append] at left
  refine ⟨left.1,fun tick queued => not_lt.mp fun later => left.2 (.inr ?_)⟩
  exact List.mem_map.mpr ⟨(tick,id),List.mem_filter.mpr ⟨queued,decide_eq_true later⟩,rfl⟩

theorem spawn_spec (tick : Tick) (connected_receiver : Bool) (spawned : Spawned Kind Component) :
    (self.spawn tick connected_receiver spawned).ids = self.ids ++ [spawned.id] ∧
      self.deterministic_despawn ⊆ (self.spawn tick connected_receiver spawned).deterministic_despawn ∧
      ∀ deterministic_predicted ∈ spawned.deterministic_predicted,deterministic_predicted.skip_despawn = false →
        (tick,spawned.id) ∈ (self.spawn tick connected_receiver spawned).deterministic_despawn := by
  have registers (added : Lifetimes Kind Component) :
      let registered := if spawned.pre_spawned then added.register_prespawn tick connected_receiver spawned.id
        else added
      registered.ids = added.ids ∧ registered.deterministic_despawn = added.deterministic_despawn := by
    unfold register_prespawn
    dsimp only
    split
    · split <;> exact ⟨rfl,rfl⟩
    · exact ⟨rfl,rfl⟩
  simp only [spawn,registers]
  cases marker : spawned.deterministic_predicted with
  | none => exact ⟨by simp [ids,Spawned.entity],List.Subset.refl _,fun _ isMarker => nomatch isMarker⟩
  | some deterministic_predicted =>
    simp only [on_add]
    cases skips : deterministic_predicted.skip_despawn with
    | true =>
      refine ⟨by simp [ids,Spawned.entity],by simp,fun marker isMarker skipped => ?_⟩
      cases isMarker
      exact nomatch skips.symm.trans skipped
    | false => exact ⟨by simp [ids,Spawned.entity],by simp,fun _ _ _ => by simp⟩

/-- No event but a rollback takes an entity from the queue. -/
theorem step_spec [DecidableEq Kind] (tick : Tick) (event : LocalEvent Kind Component) :
    self.deterministic_despawn ⊆ (self.step tick event).deterministic_despawn ∧
      ∀ id ∈ (self.step tick event).ids,id ∈ self.ids ∨ ∃ connected_receiver spawned,event =
        .spawn connected_receiver spawned ∧ spawned.id = id := by
  have same {after : Lifetimes Kind Component} (queue : after.deterministic_despawn = self.deterministic_despawn)
      (left : ∀ id ∈ after.ids,id ∈ self.ids) : self.deterministic_despawn ⊆ after.deterministic_despawn ∧
        ∀ id ∈ after.ids,id ∈ self.ids ∨
          ∃ connected_receiver spawned,event = .spawn connected_receiver spawned ∧ spawned.id = id :=
    ⟨queue ▸ List.Subset.refl _,fun id member => .inl (left id member)⟩
  cases event with
  | spawn connected_receiver spawned =>
    obtain ⟨left,queue,-⟩ := self.spawn_spec tick connected_receiver spawned
    refine ⟨queue,fun id member => ?_⟩
    rw [step,left,List.mem_append,List.mem_singleton] at member
    exact member.imp_right fun isSpawned => ⟨_,_,rfl,isSpawned.symm⟩
  | despawn id => exact same rfl fun id member => (mem_ids_despawn.mp member).1
  | prediction_despawn id =>
    refine same rfl fun other member => ?_
    rwa [step,prediction_despawn,ids_update _ fun entity => by split <;> rfl] at member
  | match_prespawn id =>
    simp only [step,cleanup_matched_prespawn]
    split <;> exact same rfl fun _ member => member
  | change id kind change =>
    refine same rfl fun other member => ?_
    rwa [step,ids_update _ fun entity => by split <;> rfl] at member
  | update_prediction_history max_rollback_ticks =>
    refine same rfl fun other member => ?_
    rwa [step,update_prediction_history,ids_mapped fun entity => by unfold LocalEntity.each; split <;> rfl] at member
  | finalize_deterministic_despawns max_rollback_ticks =>
    exact same (deterministic_despawn_despawn_all _) fun id member => ((mem_ids_despawn_all _).mp member).1
  | pre_spawned_player_object_cleanup =>
    exact same (deterministic_despawn_despawn_all _) fun id member => ((mem_ids_despawn_all _).mp member).1
  | finish_catch_up =>
    refine same rfl fun id member => ?_
    simpa [step,finish_catch_up] using member

end
end Lifetimes
end Lightyear.Prediction
