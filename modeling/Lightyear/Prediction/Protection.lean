import Lightyear.Prediction.Despawns

/-!
The entities that a rollback may not despawn. Until their tick of protection is over,
rollbacks are disabled for them. The queue is split by a binary search for the first of
these ticks after the target, which needs them in order; the queue is in the order of
spawns.
-/
namespace Lightyear.Prediction
open Message Lightyear.Core Sorted
open EntityMap (Entity)

variable {Kind : Type} {Component : Kind → Type}

/-- The entry that a spawn adds to the queue: the tick after which rollbacks are enabled again. -/
def protection (tick : Tick) (spawned : Spawned Kind Component) : List (Tick × Entity) :=
  match spawned.deterministic_predicted with
  | some deterministic_predicted =>
    if deterministic_predicted.skip_despawn then
      [(tick.add_signed deterministic_predicted.enable_rollback_after.toNat,spawned.id)]
    else []
  | none => []

theorem mem_protection {tick at_tick : Tick} {id : Entity} {spawned : Spawned Kind Component}
    (entry : (tick,id) ∈ protection at_tick spawned) : id = spawned.id := by
  unfold protection at entry
  split at entry
  · split at entry
    · cases List.mem_singleton.mp entry
      rfl
    · cases entry
  · cases entry

/-- The entries up to a tick come before those after it. -/
def Partitioned (rollback_tick : Tick) (queue : List (Tick × Entity)) : Prop :=
  ∃ front back,queue = front ++ back ∧ (∀ entry ∈ front,entry.1 ≤ rollback_tick) ∧
    ∀ entry ∈ back,rollback_tick < entry.1

theorem Partitioned.split {rollback_tick : Tick} {front back : List (Tick × Entity)}
    (upTo : ∀ entry ∈ front,entry.1 ≤ rollback_tick)
    (beyond : ∀ entry ∈ back,rollback_tick < entry.1) :
    (front ++ back).take (partition_point (·.1 ≤ rollback_tick) (front ++ back)) = front ∧
      (front ++ back).drop (partition_point (·.1 ≤ rollback_tick) (front ++ back)) = back := by
  have point : partition_point (·.1 ≤ rollback_tick) (front ++ back) = front.length :=
    partition_point_append (fun entry member => decide_eq_true (upTo entry member)) fun entry member =>
      decide_eq_false (not_le.mpr (beyond entry member))
  rw [point]
  exact ⟨List.take_left,List.drop_left⟩

namespace Lifetimes
variable {self : Lifetimes Kind Component} {entity : LocalEntity Kind Component}

@[simp] theorem skip_despawn_despawn_all (ids : List Entity) :
    (self.despawn_all ids).deterministic_skip_despawn = self.deterministic_skip_despawn := by
  induction ids generalizing self with
  | nil => rfl
  | cons id ids ih => exact @ih (self.despawn id)

theorem despawn_all_entities (ids : List Entity) (left : entity ∈ (self.despawn_all ids).entities) :
    entity ∈ self.entities := by
  induction ids generalizing self with
  | nil => exact left
  | cons id ids ih => exact (List.mem_filter.mp (@ih (self.despawn id) left)).1

/-- The part of the queue that a rollback leaves, and the part whose entities it enables again. -/
def protected_part (rollback_tick : Tick) (self : Lifetimes Kind Component) : List (Tick × Entity) :=
  self.deterministic_skip_despawn.drop (partition_point (·.1 ≤ rollback_tick) self.deterministic_skip_despawn)

def released_part (rollback_tick : Tick) (self : Lifetimes Kind Component) : List (Tick × Entity) :=
  self.deterministic_skip_despawn.take (partition_point (·.1 ≤ rollback_tick) self.deterministic_skip_despawn)

theorem released_upTo {rollback_tick : Tick} (parted : Partitioned rollback_tick self.deterministic_skip_despawn) :
    ∀ entry ∈ self.released_part rollback_tick,entry.1 ≤ rollback_tick := by
  obtain ⟨front,back,isQueue,upTo,beyond⟩ := parted
  rw [released_part,isQueue,(Partitioned.split upTo beyond).1]
  exact upTo

theorem released_protected (rollback_tick : Tick) :
    self.released_part rollback_tick ++ self.protected_part rollback_tick = self.deterministic_skip_despawn :=
  List.take_append_drop ..

private theorem update_marks (ids : List Entity) (mark : Bool)
    (left : entity ∈ (self.update ids ({· with disable_rollback := mark})).entities) :
    ∃ was ∈ self.entities,was.id = entity.id ∧ entity.disable_rollback =
      if entity.id ∈ ids then mark else was.disable_rollback := by
  obtain ⟨was,stored,rfl⟩ := List.mem_map.mp left
  refine ⟨was,stored,?_⟩
  by_cases marked : was.id ∈ ids
  · simp [marked]
  · simp [marked]

/-- A rollback that is not forced leaves one part of the queue, and each entity with the mark of its part. -/
private theorem disable_rollbacks_marks (rollback_tick : Tick)
    (left : entity ∈ (self.disable_rollbacks rollback_tick false).entities) :
    ∃ was ∈ self.entities,was.id = entity.id ∧ entity.disable_rollback =
      if entity.id ∈ (self.released_part rollback_tick).map Prod.snd then false
      else if entity.id ∈ (self.protected_part rollback_tick).map Prod.snd then true else was.disable_rollback := by
  obtain ⟨marked,stored,same,mark⟩ := update_marks _ false left
  obtain ⟨was,stored,same',mark'⟩ := update_marks _ true stored
  refine ⟨was,stored,same'.trans same,?_⟩
  rw [mark,mark',same]
  rfl

theorem despawn_spawned_after_protects (rollback_tick : Tick) :
    (self.despawn_spawned_after rollback_tick false).deterministic_skip_despawn = self.protected_part rollback_tick ∧
      ∀ entity ∈ (self.despawn_spawned_after rollback_tick false).entities,
        ∃ was ∈ self.entities,was.id = entity.id ∧ entity.disable_rollback =
          if entity.id ∈ (self.released_part rollback_tick).map Prod.snd then false
          else if entity.id ∈ (self.protected_part rollback_tick).map Prod.snd then true else was.disable_rollback := by
  obtain ⟨despawned,despawns,queue,stays⟩ : ∃ despawned : Lifetimes Kind Component,
      self.despawn_spawned_after rollback_tick false = despawned.disable_rollbacks rollback_tick false ∧
        despawned.deterministic_skip_despawn = self.deterministic_skip_despawn ∧
        ∀ entity ∈ despawned.entities,entity ∈ self.entities := by
    refine ⟨_,rfl,skip_despawn_despawn_all _,fun entity left => ?_⟩
    have stays := despawn_all_entities _ left
    exact stays
  rw [despawns]
  constructor
  · rw [protected_part,← queue]
    rfl
  · intro entity left
    obtain ⟨was,stored,same,marks⟩ := disable_rollbacks_marks rollback_tick left
    rw [released_part,protected_part,queue] at marks
    exact ⟨was,stays was stored,same,marks⟩

theorem spawn_protection (self : Lifetimes Kind Component) (tick : Tick) (connected_receiver : Bool)
    (spawned : Spawned Kind Component) :
    (self.spawn tick connected_receiver spawned).deterministic_skip_despawn =
        self.deterministic_skip_despawn ++ protection tick spawned ∧
      (self.spawn tick connected_receiver spawned).entities = self.entities ++ [spawned.entity] := by
  have registers (added : Lifetimes Kind Component) :
      let registered := if spawned.pre_spawned then added.register_prespawn tick connected_receiver spawned.id
        else added
      registered.deterministic_skip_despawn = added.deterministic_skip_despawn ∧
        registered.entities = added.entities := by
    unfold register_prespawn
    dsimp only
    split
    · split <;> exact ⟨rfl,rfl⟩
    · exact ⟨rfl,rfl⟩
  simp only [spawn,registers,protection]
  cases spawned.deterministic_predicted with
  | none => exact ⟨by simp,rfl⟩
  | some deterministic_predicted =>
    cases skips : deterministic_predicted.skip_despawn <;> simp [on_add,skips]

/-- No other event takes an entry from the queue or marks an entity. -/
theorem step_queue [DecidableEq Kind] (tick : Tick) (event : LocalEvent Kind Component)
    (other : event ≠ .finish_catch_up) :
    (self.step tick event).deterministic_skip_despawn = self.deterministic_skip_despawn ++
      (match event with
        | .spawn _ spawned => protection tick spawned
        | _ => []) ∧
    ∀ entity ∈ (self.step tick event).entities,entity.disable_rollback = true →
      ∃ was ∈ self.entities,was.id = entity.id ∧ was.disable_rollback = true := by
  have same {after : Lifetimes Kind Component}
    (queue : after.deterministic_skip_despawn = self.deterministic_skip_despawn)
      (stays : ∀ entity ∈ after.entities,∃ was ∈ self.entities,was.id = entity.id ∧
        was.disable_rollback = entity.disable_rollback) :
      after.deterministic_skip_despawn = self.deterministic_skip_despawn ++ [] ∧
        ∀ entity ∈ after.entities,entity.disable_rollback = true →
          ∃ was ∈ self.entities,was.id = entity.id ∧ was.disable_rollback = true := by
    refine ⟨by rw [queue,List.append_nil],fun entity left marked => ?_⟩
    obtain ⟨was,stored,isSame,mark⟩ := stays entity left
    exact ⟨was,stored,isSame,mark.trans marked⟩
  have mapped (change : LocalEntity Kind Component → LocalEntity Kind Component)
      (keeps : ∀ entity,(change entity).id = entity.id ∧ (change entity).disable_rollback = entity.disable_rollback) :
      ∀ entity ∈ self.entities.map change,∃ was ∈ self.entities,was.id = entity.id ∧
        was.disable_rollback = entity.disable_rollback := by
    intro entity left
    obtain ⟨was,stored,rfl⟩ := List.mem_map.mp left
    exact ⟨was,stored,(keeps was).1.symm,(keeps was).2.symm⟩
  have despawned (ids : List Entity) (entity : LocalEntity Kind Component)
    (left : entity ∈ (self.despawn_all ids).entities) :
      ∃ was ∈ self.entities,was.id = entity.id ∧ was.disable_rollback = entity.disable_rollback :=
    ⟨entity,despawn_all_entities ids left,rfl,rfl⟩
  cases event with
  | spawn connected_receiver spawned =>
    obtain ⟨queue,entities⟩ := self.spawn_protection tick connected_receiver spawned
    refine ⟨queue,fun entity left marked => ?_⟩
    rw [step,entities,List.mem_append,List.mem_singleton] at left
    rcases left with stored | rfl
    · exact ⟨entity,stored,rfl,marked⟩
    · cases marked
  | despawn id => exact same rfl fun entity left => ⟨entity,(List.mem_filter.mp left).1,rfl,rfl⟩
  | prediction_despawn id => exact same rfl (mapped _ fun entity => by dsimp only; split_ifs <;> exact ⟨rfl,rfl⟩)
  | match_prespawn id =>
    have kept : (self.cleanup_matched_prespawn id).deterministic_skip_despawn = self.deterministic_skip_despawn ∧
        (self.cleanup_matched_prespawn id).entities = self.entities := by
      unfold cleanup_matched_prespawn
      split <;> exact ⟨rfl,rfl⟩
    exact same kept.1 fun entity left => ⟨entity,kept.2 ▸ left,rfl,rfl⟩
  | change id kind change => exact same rfl (mapped _ fun entity => by dsimp only; split_ifs <;> exact ⟨rfl,rfl⟩)
  | update_prediction_history max_rollback_ticks =>
    exact same rfl (mapped _ fun entity => by unfold LocalEntity.each; split <;> exact ⟨rfl,rfl⟩)
  | finalize_deterministic_despawns max_rollback_ticks => exact same (skip_despawn_despawn_all _) (despawned _)
  | pre_spawned_player_object_cleanup =>
    refine same (skip_despawn_despawn_all _) fun entity left => ?_
    have stays := despawn_all_entities _ left
    exact ⟨entity,stays,rfl,rfl⟩
  | finish_catch_up => exact absurd rfl other

end Lifetimes

/-! ### Runs -/

variable [DecidableEq Kind] [∀ kind,DecidableEq (Component kind)]

/-- No rollback is forced, and no catch-up ends. -/
def Client.unforced (self : Client Kind Component) : ClientEvent Kind Component → Bool
  | .prediction (.check_rollback _) => self.world.state_metadata.forced_rollback_tick.isNone
  | .simulation .finish_catch_up => false
  | _ => true

/-- The rollbacks of a run come from the policies. -/
def policy_driven (registry : PredictionRegistry Kind Component) :
    Client Kind Component → List (ClientEvent Kind Component) → Bool
  | _, [] => true
  | client, event :: rest => client.unforced event && policy_driven registry (client.step registry event) rest

section
variable (registry : PredictionRegistry Kind Component) (start : Client Kind Component)

/-- An entity is spawned in a run with a tick up to which it is protected. -/
def ProtectedAt (events : List (ClientEvent Kind Component)) (id : Entity) (tick : Tick) : Prop :=
  ∃ before connected_receiver spawned after,events =
    before ++ .simulation (.spawn connected_receiver spawned) :: after ∧
    (tick,id) ∈ protection (start.run registry before).world.tick spawned

/-- A rollback of the run went to the tick of protection of an entity, or to a later one. -/
def Reached (events : List (ClientEvent Kind Component)) (id : Entity) (tick : Tick) : Prop :=
  ∃ before frame after,events = before ++ .prediction (.check_rollback frame) :: after ∧
    ProtectedAt registry start before id tick ∧
    ∃ rollback_tick ∈ (start.run registry before).accepted registry frame,tick ≤ rollback_tick

/-- Just the entities that are protected after a tick have rollbacks disabled and are in the queue. -/
def Exact (protected_at : Entity → Tick → Prop) (rollback_tick : Tick) (left : Lifetimes Kind Component) : Prop :=
  (∀ id tick,(tick,id) ∈ left.deterministic_skip_despawn ↔ protected_at id tick ∧ rollback_tick < tick) ∧
    ∀ entity ∈ left.entities,entity.disable_rollback = true ↔ ∃ tick,protected_at entity.id tick ∧ rollback_tick < tick

/-- So it is after each rollback that is accepted. -/
def Protects (events : List (ClientEvent Kind Component)) : Prop :=
  ∀ before frame after,events = before ++ .prediction (.check_rollback frame) :: after →
    ∀ rollback_tick ∈ (start.run registry before).accepted registry frame,
      Exact (ProtectedAt registry start before) rollback_tick
        (start.run registry (before ++ [.prediction (.check_rollback frame)])).lifetimes

/-- Each accepted rollback finds the queue parted at its target, and does not go before a tick of protection that an
earlier one has reached. -/
def Orderly (events : List (ClientEvent Kind Component)) : Prop :=
  ∀ before frame after,events = before ++ .prediction (.check_rollback frame) :: after →
    ∀ rollback_tick ∈ (start.run registry before).accepted registry frame,
      Partitioned rollback_tick (start.run registry before).lifetimes.deterministic_skip_despawn ∧
        ∀ id tick,Reached registry start before id tick → tick ≤ rollback_tick

/-- What a run keeps of the queue. -/
structure Queued (events : List (ClientEvent Kind Component)) : Prop where
  ids : ((start.run registry events).lifetimes.deterministic_skip_despawn.map Prod.snd).Sublist (spawned_ids events)
  entries : ∀ id tick,(tick,id) ∈ (start.run registry events).lifetimes.deterministic_skip_despawn →
    ProtectedAt registry start events id tick
  marks : ∀ entity ∈ (start.run registry events).lifetimes.entities,entity.disable_rollback = true →
    entity.id ∈ (start.run registry events).lifetimes.deterministic_skip_despawn.map Prod.snd

end

section
variable {registry : PredictionRegistry Kind Component} {start : Client Kind Component}
variable {events : List (ClientEvent Kind Component)} {event : ClientEvent Kind Component} {id : Entity} {tick : Tick}

theorem policy_driven_append {client : Client Kind Component} {events rest : List (ClientEvent Kind Component)}
    (driven : policy_driven registry client (events ++ rest) = true) :
    policy_driven registry client events = true ∧ policy_driven registry (client.run registry events) rest = true := by
  induction events generalizing client with
  | nil => exact ⟨rfl,driven⟩
  | cons event events ih =>
    rw [List.cons_append,policy_driven,Bool.and_eq_true] at driven
    obtain ⟨first,last⟩ := ih driven.2
    exact ⟨by rw [policy_driven,driven.1,first]; rfl,last⟩

theorem ProtectedAt.append (isProtected : ProtectedAt registry start events id tick)
    (rest : List (ClientEvent Kind Component)) :
    ProtectedAt registry start (events ++ rest) id tick := by
  obtain ⟨before,connected_receiver,spawned,after,rfl,entry⟩ := isProtected
  exact ⟨before,connected_receiver,spawned,after ++ rest,by simp,entry⟩

theorem Reached.append (reached : Reached registry start events id tick) (rest : List (ClientEvent Kind Component)) :
    Reached registry start (events ++ rest) id tick := by
  obtain ⟨before,frame,after,rfl,reaches⟩ := reached
  exact ⟨before,frame,after ++ rest,by simp,reaches⟩

theorem ProtectedAt.mem_spawned_ids (isProtected : ProtectedAt registry start events id tick) :
    id ∈ spawned_ids events := by
  obtain ⟨before,connected_receiver,spawned,after,rfl,entry⟩ := isProtected
  exact List.mem_filterMap.mpr ⟨.simulation (.spawn connected_receiver spawned),by simp,by rw [mem_protection entry]⟩

/-- A spawn of a run is the last event, or one before. -/
theorem ProtectedAt.of_snoc (isProtected : ProtectedAt registry start (events ++ [event]) id tick) :
    ProtectedAt registry start events id tick ∨ ∃ connected_receiver spawned,
      event = .simulation (.spawn connected_receiver spawned) ∧
        (tick,id) ∈ protection (start.run registry events).world.tick spawned := by
  obtain ⟨before,connected_receiver,spawned,after,split,entry⟩ := isProtected
  rcases List.eq_nil_or_concat after with rfl | ⟨after,last,rfl⟩
  · obtain ⟨rfl,same⟩ := List.append_inj' split rfl
    exact .inr ⟨connected_receiver,spawned,List.singleton_inj.mp same,entry⟩
  · rw [List.concat_eq_append,← List.cons_append,← List.append_assoc] at split
    obtain ⟨rfl,-⟩ := List.append_inj' split rfl
    exact .inl ⟨before,connected_receiver,spawned,after,rfl,entry⟩

/-- What a frame does to the entities without forced rollbacks. -/
theorem check_rollback_unforced (registry : PredictionRegistry Kind Component) {frame : Frame}
    {self : Client Kind Component}
    (unforced : self.unforced (.prediction (.check_rollback frame)) = true) :
    (self.step registry (.prediction (.check_rollback frame))).lifetimes =
      match self.accepted registry frame with
      | some rollback_tick => self.lifetimes.despawn_spawned_after rollback_tick false
      | none => self.lifetimes := by
  have policy : self.world.state_metadata.forced_rollback_tick.isSome = false := by
    simpa [Client.unforced] using unforced
  simp only [Client.step,Client.check_rollback,Client.accepted,policy]
  split <;> simp_all

/-- What another event does to the entities. -/
theorem step_protection (registry : PredictionRegistry Kind Component) {self : Client Kind Component}
    (unforced : self.unforced event = true) :
    (∃ frame,event = .prediction (.check_rollback frame)) ∨
      (self.step registry event).lifetimes.deterministic_skip_despawn = self.lifetimes.deterministic_skip_despawn ++
        (match event with
          | .simulation (.spawn _ spawned) => protection self.world.tick spawned
          | _ => []) ∧
      ∀ entity ∈ (self.step registry event).lifetimes.entities,entity.disable_rollback = true →
        ∃ was ∈ self.lifetimes.entities,was.id = entity.id ∧ was.disable_rollback = true := by
  cases event with
  | simulation event =>
    right
    have other : event ≠ .finish_catch_up := by
      rintro rfl
      exact nomatch unforced
    obtain ⟨queue,marks⟩ := self.lifetimes.step_queue self.world.tick event other
    refine ⟨queue.trans ?_,marks⟩
    cases event <;> rfl
  | prediction event =>
    cases event with
    | check_rollback frame => exact .inl ⟨frame,rfl⟩
    | _ => exact .inr ⟨(List.append_nil _).symm,fun entity left marked => ⟨entity,left,rfl,marked⟩⟩

/-- What is in the queue was there before a part of the run, or is spawned in it. -/
theorem queue_append {rest : List (ClientEvent Kind Component)}
    (driven : policy_driven registry start (events ++ rest) = true)
    (queued : (tick,id) ∈ (start.run registry (events ++ rest)).lifetimes.deterministic_skip_despawn) :
    (tick,id) ∈ (start.run registry events).lifetimes.deterministic_skip_despawn ∨ id ∈ spawned_ids rest := by
  induction rest using List.reverseRecOn with
  | nil => exact .inl (by simpa using queued)
  | append_singleton rest last ih =>
    rw [← List.append_assoc] at driven queued
    obtain ⟨earlier,now⟩ := policy_driven_append driven
    rw [policy_driven,Bool.and_eq_true] at now
    rw [Client.run_snoc] at queued
    have known (was : (tick,id) ∈ (start.run registry (events ++ rest)).lifetimes.deterministic_skip_despawn) :
        (tick,id) ∈ (start.run registry events).lifetimes.deterministic_skip_despawn ∨
          id ∈ spawned_ids (rest ++ [last]) := by
      refine (ih earlier was).imp_right fun isSpawned => ?_
      rw [spawned_ids,List.filterMap_append]
      exact List.mem_append_left _ isSpawned
    rcases step_protection registry now.1 with ⟨frame,rfl⟩ | ⟨queue,-⟩
    · rw [check_rollback_unforced registry now.1] at queued
      split at queued
      next rollback_tick _ =>
        rw [(Lifetimes.despawn_spawned_after_protects rollback_tick).1] at queued
        exact known (List.mem_of_mem_drop queued)
      · exact known queued
    · rw [queue] at queued
      rcases List.mem_append.mp queued with was | added
      · exact known was
      · split at added
        next connected_receiver spawned =>
          right
          rw [spawned_ids,List.filterMap_append,mem_protection added]
          exact List.mem_append_right _ List.mem_cons_self
        · cases added

theorem exact_iff (queued : Queued registry start events) (allocated : (spawned_ids events).Nodup)
    (rollback_tick : Tick) :
    Exact (ProtectedAt registry start events) rollback_tick
        ((start.run registry events).lifetimes.despawn_spawned_after rollback_tick false) ↔
      Partitioned rollback_tick (start.run registry events).lifetimes.deterministic_skip_despawn ∧
        ∀ id tick,ProtectedAt registry start events id tick →
          (tick,id) ∉ (start.run registry events).lifetimes.deterministic_skip_despawn → tick ≤ rollback_tick := by
  let lifetimes := (start.run registry events).lifetimes
  obtain ⟨queue,marks⟩ := lifetimes.despawn_spawned_after_protects rollback_tick
  have parts := lifetimes.released_protected rollback_tick
  have apart (id : Entity) (isReleased : id ∈ (lifetimes.released_part rollback_tick).map Prod.snd) :
      id ∉ (lifetimes.protected_part rollback_tick).map Prod.snd := by
    have distinct := allocated.sublist queued.ids
    rw [← parts,List.map_append,List.nodup_append] at distinct
    exact fun isProtected => distinct.2.2 id isReleased id isProtected rfl
  rw [Exact,queue]
  constructor
  · rintro ⟨stays,-⟩
    refine ⟨⟨_,_,parts.symm,fun entry member => ?_,fun entry member => ((stays entry.2 entry.1).mp member).2⟩,?_⟩
    · -- an entry after the target would be in the other part too
      by_contra later
      have isSpawned := queued.entries entry.2 entry.1 (parts ▸ List.mem_append_left _ member)
      have remains := (stays entry.2 entry.1).mpr ⟨isSpawned,not_le.mp later⟩
      exact apart entry.2 (List.mem_map_of_mem member) (List.mem_map_of_mem remains)
    intro id tick isProtected gone
    refine not_lt.mp fun later => gone ?_
    rw [← parts]
    exact List.mem_append_right _ ((stays id tick).mpr ⟨isProtected,later⟩)
  · rintro ⟨parted,ended⟩
    have upToTarget := lifetimes.released_upTo parted
    obtain ⟨front,back,isQueue,upTo,beyond⟩ := parted
    obtain ⟨isFront,isBack⟩ := Partitioned.split upTo beyond
    have isProtected : lifetimes.protected_part rollback_tick = back := by
      rw [Lifetimes.protected_part,show lifetimes.deterministic_skip_despawn = _ from isQueue,isBack]
    have stays (id : Entity) (tick : Tick) :
        (tick,id) ∈ lifetimes.protected_part rollback_tick ↔
          ProtectedAt registry start events id tick ∧ rollback_tick < tick := by
      constructor
      · intro member
        exact ⟨queued.entries id tick (parts ▸ List.mem_append_right _ member),beyond _ (isProtected ▸ member)⟩
      · rintro ⟨spawned,later⟩
        have member : (tick,id) ∈ lifetimes.deterministic_skip_despawn := by
          by_contra gone
          exact absurd (ended id tick spawned gone) (not_le.mpr later)
        rw [← parts] at member
        exact (List.mem_append.mp member).resolve_left fun early => absurd (upToTarget _ early) (not_le.mpr later)
    refine ⟨stays,fun entity left => ?_⟩
    obtain ⟨was,stored,same,mark⟩ := marks entity left
    rw [mark]
    have waiting : (∃ tick,ProtectedAt registry start events entity.id tick ∧ rollback_tick < tick) ↔
        entity.id ∈ (lifetimes.protected_part rollback_tick).map Prod.snd := by
      simp only [List.mem_map,Prod.exists,exists_eq_right,stays]
    rw [waiting]
    split
    next isReleased => exact iff_of_false Bool.false_ne_true (apart entity.id isReleased)
    next notReleased =>
      split
      next waits => exact iff_of_true rfl waits
      next absent =>
        refine iff_of_false (fun marked => ?_) absent
        have member := queued.marks was stored marked
        rw [same,show (start.run registry events).lifetimes.deterministic_skip_despawn = _ from parts.symm,
          List.map_append] at member
        exact (List.mem_append.mp member).elim notReleased absent

/-- A rollback takes from the queue what it reaches. -/
private theorem Queued.rollback {frame : Frame} {rollback_tick : Tick} (queued : Queued registry start events)
    (left : ((start.run registry (events ++ [.prediction (.check_rollback frame)]))).lifetimes =
      (start.run registry events).lifetimes.despawn_spawned_after rollback_tick false) :
    Queued registry start (events ++ [.prediction (.check_rollback frame)]) := by
  obtain ⟨queue,marks⟩ := (start.run registry events).lifetimes.despawn_spawned_after_protects rollback_tick
  have parts := (start.run registry events).lifetimes.released_protected rollback_tick
  constructor
  · rw [left,queue,spawned_ids,List.filterMap_append,List.filterMap_cons_none rfl,List.filterMap_nil,List.append_nil]
    exact ((List.drop_sublist ..).map Prod.snd).trans queued.ids
  · intro id tick member
    rw [left,queue] at member
    exact (queued.entries id tick (List.mem_of_mem_drop member)).append _
  · intro entity stays marked
    rw [left] at stays
    rw [left,queue]
    obtain ⟨was,stored,same,mark⟩ := marks entity stays
    rw [marked] at mark
    split at mark
    · cases mark
    next notReleased =>
      split at mark
      next isProtected => exact isProtected
      next notProtected =>
        have member := queued.marks was stored mark.symm
        rw [same,← parts,List.map_append] at member
        exact ((List.mem_append.mp member).elim notReleased notProtected).elim

theorem Queued.snoc (queued : Queued registry start events)
    (driven : policy_driven registry start (events ++ [event]) = true) :
    Queued registry start (events ++ [event]) := by
  obtain ⟨-,now⟩ := policy_driven_append driven
  rw [policy_driven,Bool.and_eq_true] at now
  rcases step_protection registry now.1 with ⟨frame,rfl⟩ | ⟨queue,marks⟩
  · have left := check_rollback_unforced registry now.1
    rw [← Client.run_snoc] at left
    cases isAccepted : (start.run registry events).accepted registry frame with
    | some rollback_tick => exact queued.rollback (by rw [left,isAccepted])
    | none =>
      rw [isAccepted] at left
      constructor
      · rw [left,spawned_ids,List.filterMap_append,List.filterMap_cons_none rfl,List.filterMap_nil,List.append_nil]
        exact queued.ids
      · intro id tick member
        rw [left] at member
        exact (queued.entries id tick member).append _
      · rw [left]
        exact queued.marks
  · rw [← Client.run_snoc] at queue marks
    constructor
    · rw [queue,List.map_append,spawned_ids,List.filterMap_append]
      refine queued.ids.append ?_
      split
      next connected_receiver spawned =>
        unfold protection
        split
        · split <;> simp
        · simp
      · exact List.nil_sublist _
    · intro id tick member
      rw [queue] at member
      rcases List.mem_append.mp member with was | added
      · exact (queued.entries id tick was).append _
      · split at added
        next connected_receiver spawned _ => exact ⟨events,connected_receiver,spawned,[],rfl,added⟩
        · cases added
    · intro entity stays marked
      obtain ⟨was,stored,same,mark⟩ := marks entity stays marked
      rw [queue,List.map_append]
      exact List.mem_append_left _ (same ▸ queued.marks was stored mark)

theorem run_queued {rollback_policy : RollbackPolicy}
    (driven : policy_driven registry (.start rollback_policy) events = true) :
    Queued registry (.start rollback_policy) events := by
  induction events using List.reverseRecOn with
  | nil =>
    exact ⟨List.Sublist.refl [],fun _ _ member => absurd member List.not_mem_nil,
      fun _ member => absurd member List.not_mem_nil⟩
  | append_singleton events event ih => exact (ih (policy_driven_append driven).1).snoc driven

theorem Orderly.of_append {rest : List (ClientEvent Kind Component)}
    (orderly : Orderly registry start (events ++ rest)) :
    Orderly registry start events := fun before frame after split =>
  orderly before frame (after ++ rest) (by rw [split,List.append_assoc,List.cons_append])

/-- Where the rollbacks of a run are in order, one of them has reached what is not in the queue any more. -/
theorem Orderly.waits (orderly : Orderly registry start events) (driven : policy_driven registry start events = true)
    (isProtected : ProtectedAt registry start events id tick) :
    (tick,id) ∈ (start.run registry events).lifetimes.deterministic_skip_despawn ∨
      Reached registry start events id tick := by
  induction events using List.reverseRecOn with
  | nil =>
    obtain ⟨before,_,_,_,split,-⟩ := isProtected
    exact absurd split (by simp)
  | append_singleton events event ih =>
    obtain ⟨earlier,now⟩ := policy_driven_append driven
    rw [policy_driven,Bool.and_eq_true] at now
    rw [Client.run_snoc]
    rcases step_protection registry now.1 with ⟨frame,rfl⟩ | ⟨queue,-⟩
    · obtain was | ⟨_,_,isSpawn,-⟩ := isProtected.of_snoc
      · rw [check_rollback_unforced registry now.1]
        cases isAccepted : (start.run registry events).accepted registry frame with
        | none => exact (ih orderly.of_append earlier was).imp_right (·.append _)
        | some rollback_tick =>
          rcases ih orderly.of_append earlier was with waits | reached
          · have parted := (orderly events frame [] rfl rollback_tick isAccepted).1
            rw [← Lifetimes.released_protected rollback_tick] at waits
            refine (List.mem_append.mp waits).symm.imp (fun stays => ?_) fun isReleased => ?_
            · exact ((start.run registry events).lifetimes.despawn_spawned_after_protects rollback_tick).1 ▸ stays
            · exact ⟨events,frame,[],rfl,was,rollback_tick,isAccepted,Lifetimes.released_upTo parted _ isReleased⟩
          · exact .inr (reached.append _)
      · cases isSpawn
    · rw [queue]
      rcases isProtected.of_snoc with was | ⟨_,_,rfl,added⟩
      · exact (ih orderly.of_append earlier was).imp (List.mem_append_left _) (·.append _)
      · exact .inl (List.mem_append_right _ added)

/-- In a run whose rollbacks come from the policies each of them protects just the entities whose tick of protection is
after its target exactly if each finds the queue parted there and none goes before what an earlier one has reached. No
entity is spawned twice: Bevy allocates each of them once. -/
theorem protects_iff_orderly (registry : PredictionRegistry Kind Component) (rollback_policy : RollbackPolicy)
    (events : List (ClientEvent Kind Component)) (allocated : (spawned_ids events).Nodup)
    (driven : policy_driven registry (.start rollback_policy) events = true) :
    Protects registry (.start rollback_policy) events ↔ Orderly registry (.start rollback_policy) events := by
  have frame_iff (before : List (ClientEvent Kind Component)) (frame : Frame)
    (after : List (ClientEvent Kind Component))
      (split : events = before ++ .prediction (.check_rollback frame) :: after) (rollback_tick : Tick)
      (isAccepted : (Client.run registry (.start rollback_policy) before).accepted registry frame =
        some rollback_tick) :
      Exact (ProtectedAt registry (.start rollback_policy) before) rollback_tick
          (Client.run registry (.start rollback_policy) (before ++ [.prediction (.check_rollback frame)])).lifetimes ↔
        Partitioned rollback_tick
          (Client.run registry (.start rollback_policy) before).lifetimes.deterministic_skip_despawn ∧
          ∀ id tick,ProtectedAt registry (.start rollback_policy) before id tick →
            (tick,id) ∉ (Client.run registry (.start rollback_policy) before).lifetimes.deterministic_skip_despawn →
              tick ≤ rollback_tick := by
    rw [split] at driven allocated
    obtain ⟨earlier,now⟩ := policy_driven_append driven
    rw [policy_driven,Bool.and_eq_true] at now
    rw [spawned_ids,List.filterMap_append] at allocated
    rw [Client.run_snoc,check_rollback_unforced registry now.1,isAccepted]
    exact exact_iff (run_queued earlier) (List.nodup_append.mp allocated).1 rollback_tick
  constructor
  · intro protects before frame after split rollback_tick isAccepted
    obtain ⟨parted,ended⟩ := (frame_iff before frame after split rollback_tick isAccepted).mp
      (protects before frame after split rollback_tick isAccepted)
    refine ⟨parted,fun id tick reached => ?_⟩
    obtain ⟨first,firstFrame,between,isBefore,isProtected,target,isTarget,reaches⟩ := reached
    -- what a rollback has taken from the queue does not come back
    refine ended id tick (isBefore ▸ isProtected.append _) fun waits => ?_
    have exact := protects first firstFrame (between ++ .prediction (.check_rollback frame) :: after)
      (by rw [split,isBefore]; simp) target isTarget
    rw [split,isBefore] at driven allocated
    rw [isBefore] at waits
    rw [List.append_cons first _ between] at waits driven allocated
    rcases queue_append (policy_driven_append driven).1 waits with left | again
    · exact absurd ((exact.1 id tick).mp left).2 (not_lt.mpr reaches)
    · simp only [spawned_ids,List.filterMap_append,List.append_assoc] at allocated
      have apart := (List.nodup_append.mp allocated).2.2 id isProtected.mem_spawned_ids id
      exact apart (List.mem_append_right _ (List.mem_append_left _ again)) rfl
  · intro orderly before frame after split rollback_tick isAccepted
    obtain ⟨parted,ended⟩ := orderly before frame after split rollback_tick isAccepted
    refine (frame_iff before frame after split rollback_tick isAccepted).mpr ⟨parted,fun id tick isProtected gone => ?_⟩
    rw [split] at driven
    have inOrder : Orderly registry (.start rollback_policy) before := Orderly.of_append (split ▸ orderly)
    exact ended id tick ((inOrder.waits (policy_driven_append driven).1 isProtected).resolve_left gone)

end

/-- No components. -/
private def componentless : PredictionRegistry Empty fun _ => Unit := ⟨[],fun kind => nomatch kind⟩

/-- An entity that a rollback may not despawn, with the ticks after which its rollbacks are enabled again. -/
private def lasting (id : Entity) (enable_rollback_after : UInt8) : Spawned Empty fun _ => Unit :=
  ⟨id,false,some ⟨true,enable_rollback_after⟩,false,fun kind => nomatch kind⟩

/-- Nothing from the server. -/
private def quiet : Frame := ⟨0,false,none,none,none,false⟩

/-- Two entities are spawned at tick 10, and at tick 25 an input of tick 21 is corrected. -/
private def spawning (first second : UInt8) : List (ClientEvent Empty fun _ => Unit) :=
  [.prediction (.set_tick 10),.simulation (.spawn false (lasting 1 first)),
    .simulation (.spawn false (lasting 2 second)),
    .prediction (.set_tick 25),.prediction (.receive_inputs ⟨21,true⟩),.prediction (.check_rollback quiet)]

theorem protects_iff_orderly_two :
    Protects componentless (.start .default) (spawning 2 20) ↔
      Orderly componentless (.start .default) (spawning 2 20) :=
  protects_iff_orderly componentless .default (spawning 2 20) (by decide) (by decide)

/-- The first entity is protected up to tick 30, the second up to tick 12. The search of a rollback to tick 20 looks at
the second entry only, which passes, and the rollback takes both from the queue. -/
theorem short_protection_ends_other :
    ¬∀ events : List (ClientEvent Empty fun _ => Unit),(spawned_ids events).Nodup →
      policy_driven componentless (.start .default) events = true →
        Protects componentless (.start .default) events := by
  intro protects
  have exact := protects (spawning 20 2) (by decide) (by decide) ((spawning 20 2).dropLast) quiet [] rfl 20 (by decide)
  have isProtected : ProtectedAt componentless (.start .default) (spawning 20 2).dropLast 1 30 :=
    ⟨[.prediction (.set_tick 10)],false,lasting 1 20,_,rfl,by decide⟩
  exact absurd ((exact.1 1 30).mpr ⟨isProtected,by decide⟩) (by decide)

end Lightyear.Prediction
