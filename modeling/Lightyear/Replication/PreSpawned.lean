import Lightyear.Prediction.Shift
import Lightyear.Runs

/-!
The bookkeeping of prespawned entities, `prespawn.rs`. The unmatched ones expire in the
order of their spawn ticks, while an entity is registered at the local tick, which goes
back in a replay.
-/
namespace Lightyear.Prediction
open Message Lightyear.Core Sorted Runs
open EntityMap (Entity)

namespace PreSpawnedReceiver

def cleanup_unmatched_entity (entity : Entity) (self : PreSpawnedReceiver) : PreSpawnedReceiver :=
  {self with
    unmatched_prespawn_spawn_tick_to_entities := self.unmatched_prespawn_spawn_tick_to_entities.filter (·.2 ≠ entity)}

end PreSpawnedReceiver

/-- The receiver, with the components of the entities that its observers ask for. -/
structure PreSpawns where
  receiver : PreSpawnedReceiver
  tick : Tick
  pre_spawned : Entity → Bool
  confirm_history : Entity → Bool

/-- `enabled` is false for an entity that the queries leave out, since its prediction is disabled. -/
inductive PreSpawnEvent where
  | set_tick (tick : Tick)
  | add_prespawned (id : Entity) (enabled connected_receiver : Bool)
  | add_confirm_history (id : Entity) (enabled : Bool)
  | remove_prespawned (id : Entity)
  | remove_confirm_history (id : Entity)
  | despawn (id : Entity)
  | rollback (rollback_tick : Tick) (should_keep : Entity → Bool)
  | shift (delta : Int)
  | cleanup

namespace PreSpawns

def new : PreSpawns := ⟨.default,0,fun _ => false,fun _ => false⟩

/-- The observer `register_prespawn` registers the entity. -/
def registers (self : PreSpawns) (id : Entity) (enabled connected_receiver : Bool) : Bool :=
  !self.pre_spawned id && enabled && !self.confirm_history id && connected_receiver

def despawn (id : Entity) (self : PreSpawns) : PreSpawns where
  receiver := self.receiver.cleanup_despawned_prespawn id
  tick := self.tick
  pre_spawned := Function.update self.pre_spawned id false
  confirm_history := Function.update self.confirm_history id false

def step (self : PreSpawns) : PreSpawnEvent → Option PreSpawns
  | .set_tick tick => some {self with tick}
  | .add_prespawned id enabled connected_receiver =>
    some {self with
      receiver :=
        if self.registers id enabled connected_receiver then self.receiver.register_unmatched_entity self.tick id
          else self.receiver
      pre_spawned := Function.update self.pre_spawned id true}
  | .add_confirm_history id enabled =>
    some {self with
      receiver :=
        if !self.confirm_history id && self.pre_spawned id && enabled then self.receiver.match_entity id
          else self.receiver
      confirm_history := Function.update self.confirm_history id true}
  | .remove_prespawned id =>
    some {self with
      receiver := self.receiver.cleanup_unmatched_entity id
      pre_spawned := Function.update self.pre_spawned id false}
  | .remove_confirm_history id => some {self with confirm_history := Function.update self.confirm_history id false}
  | .despawn id => some (self.despawn id)
  | .rollback rollback_tick should_keep =>
    let (despawned,receiver) := self.receiver.despawn_prespawned_after_with (rollback_tick.add 1) should_keep
    some (despawned.foldl (fun world id => world.despawn id) {self with receiver})
  | .shift delta =>
    some {self with receiver := self.receiver.handle_local_timeline_shift delta,tick := self.tick.add_signed delta}
  | .cleanup =>
    let (expired,receiver) := self.receiver.drain_expired self.tick
    some (expired.foldl (fun world id => world.despawn id) {self with receiver})

/-- An entity is registered at a tick that is not before those of the unmatched ones, and it is not a matched one. -/
def InOrder (self : PreSpawns) : PreSpawnEvent → PreSpawns → Prop
  | .add_prespawned id enabled connected_receiver, _ =>
    self.registers id enabled connected_receiver = true →
      self.receiver.unmatched_prespawn_spawn_tick_to_entities.all (·.1 ≤ self.tick) = true ∧
        id ∉ self.receiver.matched_prespawn_spawn_tick_to_entities.map Prod.snd
  | _, _ => True

instance (self after : PreSpawns) : ∀ event, Decidable (self.InOrder event after)
  | .add_prespawned id enabled connected_receiver =>
    inferInstanceAs (Decidable (self.registers id enabled connected_receiver = true →
      self.receiver.unmatched_prespawn_spawn_tick_to_entities.all (·.1 ≤ self.tick) = true ∧
        id ∉ self.receiver.matched_prespawn_spawn_tick_to_entities.map Prod.snd))
  | .set_tick _ | .add_confirm_history .. | .remove_prespawned _ | .remove_confirm_history _ | .despawn _ |
    .rollback .. | .shift _ | .cleanup => .isTrue trivial

end PreSpawns

/-- The unmatched entities are in the order of their spawn ticks, each of them once, none of them is matched, and those
that a cleanup despawns are those whose spawn tick is more than 50 ticks before. -/
structure PreSpawnedReceiver.Tidy (receiver : PreSpawnedReceiver) : Prop where
  ascending : receiver.unmatched_prespawn_spawn_tick_to_entities.Pairwise fun a b => a.1 ≤ b.1
  distinct : (receiver.unmatched_prespawn_spawn_tick_to_entities.map Prod.snd).Nodup
  apart : ∀ id ∈ receiver.unmatched_prespawn_spawn_tick_to_entities.map Prod.snd,
    id ∉ receiver.matched_prespawn_spawn_tick_to_entities.map Prod.snd
  expires : ∀ tick,(receiver.drain_expired tick).1 =
    (receiver.unmatched_prespawn_spawn_tick_to_entities.filter (·.1 < tick.sub 50)).map Prod.snd

namespace PreSpawnedReceiver
variable {self : PreSpawnedReceiver}

private theorem tidy (ascending : self.unmatched_prespawn_spawn_tick_to_entities.Pairwise fun a b => a.1 ≤ b.1)
    (distinct : (self.unmatched_prespawn_spawn_tick_to_entities.map Prod.snd).Nodup)
    (apart : ∀ id ∈ self.unmatched_prespawn_spawn_tick_to_entities.map Prod.snd,
      id ∉ self.matched_prespawn_spawn_tick_to_entities.map Prod.snd) : self.Tidy := by
  refine ⟨ascending,distinct,apart,fun tick => congrArg (List.map Prod.snd) (take_partition_point ascending ?_)⟩
  intro a b le before
  exact decide_eq_true (le.trans_lt (of_decide_eq_true before))

/-- Less entries, and no new ones. -/
theorem Tidy.sublist (tidy : self.Tidy) {after : PreSpawnedReceiver}
    (unmatched : after.unmatched_prespawn_spawn_tick_to_entities.Sublist self.unmatched_prespawn_spawn_tick_to_entities)
    (matched : after.matched_prespawn_spawn_tick_to_entities.Sublist self.matched_prespawn_spawn_tick_to_entities) :
    after.Tidy := by
  refine PreSpawnedReceiver.tidy (tidy.ascending.sublist unmatched) (tidy.distinct.sublist (unmatched.map Prod.snd)) ?_
  exact fun id member isMatched =>
    tidy.apart id ((unmatched.map Prod.snd).subset member) ((matched.map Prod.snd).subset isMatched)

theorem Tidy.match_entity (tidy : self.Tidy) (id : Entity) : (self.match_entity id).Tidy := by
  unfold PreSpawnedReceiver.match_entity
  split
  next spawn_tick found isFound =>
    obtain ⟨isEntity,front,back,parts,others⟩ := List.find?_eq_some_iff_append.mp isFound
    obtain rfl : found = id := by simpa using isEntity
    have erased : self.unmatched_prespawn_spawn_tick_to_entities.eraseP (·.2 = found) = front ++ back := by
      rw [parts,List.eraseP_append_right _ fun entry member => by simpa using others entry member]
      simp
    have unmatched : (front ++ back).Sublist self.unmatched_prespawn_spawn_tick_to_entities :=
      parts ▸ (List.Sublist.refl front).append (List.sublist_cons_self _ back)
    have distinct := tidy.distinct
    rw [parts,List.map_append,List.map_cons,List.nodup_middle,← List.map_append,List.nodup_cons] at distinct
    rw [erased]
    refine PreSpawnedReceiver.tidy (tidy.ascending.sublist unmatched) distinct.2 fun other member isMatched => ?_
    rw [List.map_append] at isMatched
    rcases List.mem_append.mp isMatched with old | new
    · exact tidy.apart other ((unmatched.map Prod.snd).subset member) old
    · obtain rfl : other = found := by simpa using new
      exact distinct.1 member
  · exact tidy

theorem Tidy.register (tidy : self.Tidy) {tick : Tick} {id : Entity}
    (newest : ∀ entry ∈ self.unmatched_prespawn_spawn_tick_to_entities,entry.1 ≤ tick)
    (unmatched : id ∉ self.matched_prespawn_spawn_tick_to_entities.map Prod.snd) :
    (self.register_unmatched_entity tick id).Tidy := by
  unfold PreSpawnedReceiver.register_unmatched_entity
  split
  · exact tidy
  next fresh =>
    have absent : id ∉ self.unmatched_prespawn_spawn_tick_to_entities.map Prod.snd := by simpa using fresh
    refine PreSpawnedReceiver.tidy ?_ ?_ ?_
    · refine List.pairwise_append.mpr ⟨tidy.ascending,List.pairwise_singleton _ _,fun entry member last isLast => ?_⟩
      rw [List.mem_singleton.mp isLast]
      exact newest entry member
    · rw [List.map_append,List.nodup_append]
      refine ⟨tidy.distinct,List.nodup_singleton id,fun other member last isLast same => absent ?_⟩
      obtain rfl : last = id := by simpa using isLast
      rwa [← same]
    · intro other member
      rw [List.map_append] at member
      rcases List.mem_append.mp member with old | new
      · exact tidy.apart other old
      · rw [List.mem_singleton.mp new]
        exact unmatched

theorem Tidy.shift (tidy : self.Tidy) (delta : Int) : (self.handle_local_timeline_shift delta).Tidy := by
  refine PreSpawnedReceiver.tidy ?_ ?_ ?_
  · exact List.pairwise_map.mpr (tidy.ascending.imp Tick.add_signed_le)
  · simpa [handle_local_timeline_shift] using tidy.distinct
  · simpa [handle_local_timeline_shift] using tidy.apart

end PreSpawnedReceiver

namespace PreSpawns
variable {self after : PreSpawns} {event : PreSpawnEvent}

private theorem despawn_tidy (tidy : self.receiver.Tidy) (id : Entity) : (self.despawn id).receiver.Tidy :=
  tidy.sublist List.filter_sublist List.filter_sublist

private theorem despawns_tidy (tidy : self.receiver.Tidy) (ids : List Entity) :
    (ids.foldl (fun world id => world.despawn id) self).receiver.Tidy := by
  induction ids generalizing self with
  | nil => exact tidy
  | cons id ids ih => exact ih (despawn_tidy tidy id)

theorem step_tidy (tidy : self.receiver.Tidy) (executed : self.step event = some after)
    (inOrder : self.InOrder event after) :
    after.receiver.Tidy := by
  cases event with
  | set_tick tick => cases executed; exact tidy
  | add_prespawned id enabled connected_receiver =>
    cases executed
    dsimp only
    split
    next registers =>
      obtain ⟨newest,unmatched⟩ := inOrder registers
      exact tidy.register (fun entry member => of_decide_eq_true (List.all_eq_true.mp newest entry member)) unmatched
    · exact tidy
  | add_confirm_history id enabled =>
    cases executed
    dsimp only
    split
    · exact tidy.match_entity id
    · exact tidy
  | remove_prespawned id => cases executed; exact tidy.sublist List.filter_sublist (List.Sublist.refl _)
  | remove_confirm_history id => cases executed; exact tidy
  | despawn id => cases executed; exact despawn_tidy tidy id
  | rollback rollback_tick should_keep =>
    cases executed
    refine despawns_tidy (tidy.sublist ?_ ?_) _ <;> exact List.filter_sublist
  | shift delta => cases executed; exact tidy.shift delta
  | cleanup =>
    cases executed
    refine despawns_tidy (tidy.sublist ?_ ?_) _
    · exact List.drop_sublist _ _
    · exact List.Sublist.refl _

/-- In a run in which no entity is registered before one that is unmatched, or while it is matched, the
bookkeeping stays tidy. -/
theorem prespawn_timeout {world : PreSpawns} (reached : Runs.Reaches step InOrder new world) : world.receiver.Tidy := by
  refine reached.invariant (fun world => world.receiver.Tidy) ?_ fun _ _ _ tidy executed inOrder =>
    step_tidy tidy executed inOrder
  exact ⟨List.Pairwise.nil,List.nodup_nil,fun _ member => (nomatch member),fun _ => rfl⟩

/-- An entity is spawned at each of two ticks, the first of them is matched, and the timeline is shifted. -/
theorem prespawn_timeout_two :
    ∃ world,Runs.Reaches step InOrder new world ∧ world.receiver.unmatched_prespawn_spawn_tick_to_entities = [(9,2)] ∧
      world.receiver.Tidy := by
  obtain ⟨world,reached,unmatched⟩ := reaches_of_check step InOrder new
    (fun world => decide (world.receiver.unmatched_prespawn_spawn_tick_to_entities = [(9,2)]))
    [.set_tick 10,.add_prespawned 1 true true,.set_tick 11,.add_prespawned 2 true true,.add_confirm_history 1 true,
      .shift (-2),
      .cleanup] (by decide +kernel)
  exact ⟨world,reached,of_decide_eq_true unmatched,prespawn_timeout reached⟩

/-- An entity that a rollback keeps is followed by one that the replay spawns at a tick before. -/
theorem replayed_spawn_unsorted : ¬∀ world,Runs.Reaches step (fun _ _ _ => True) new world → world.receiver.Tidy := by
  intro tidy
  obtain ⟨world,reached,unmatched⟩ := reaches_of_check step (fun _ _ _ => True) new
    (fun world => decide (world.receiver.unmatched_prespawn_spawn_tick_to_entities = [(10,1),(6,2)]))
    [.set_tick 10,.add_prespawned 1 true true,.rollback 5 fun _ => true,.set_tick 6,.add_prespawned 2 true true]
    (by decide +kernel)
  have ascending := (tidy world reached).ascending
  rw [of_decide_eq_true unmatched] at ascending
  exact absurd ascending (by decide)

/-- A cleanup after tick 6 + 50 takes the first entity with the second. -/
example : (PreSpawnedReceiver.drain_expired 57 ⟨[(10,1),(6,2)],[]⟩).1 = [1,2] := by decide

end PreSpawns

end Lightyear.Prediction
