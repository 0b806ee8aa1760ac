import Lightyear.Prediction.System

/-!
What a completed tick that was processed without a request for a rollback says. The
scan compares an entity unless Replicon confirmed it at the checkpoint. For such an
entity it relies on the checks when its updates were received, but an update may carry
some of its components only.
-/
namespace Lightyear.Prediction
open Message Lightyear.Core
open EntityMap (Entity)

variable {Kind : Type} [DecidableEq Kind] {Component : Kind → Type}

/-- An entity after the scan: it is marked as unchanged at a tick, and nothing that is read of it differs. -/
structure Marked (before after : ReplicatedEntity Kind Component) : Prop where
  id : after.id = before.id
  predicted : after.predicted = before.predicted
  deterministic_predicted : after.deterministic_predicted = before.deterministic_predicted
  disable_rollback : after.disable_rollback = before.disable_rollback
  confirmed_at : ∀ kind tick,(after.held kind).confirmed_at tick = (before.held kind).confirmed_at tick
  prediction : ∀ kind,(after.held kind).predicted = (before.held kind).predicted

section
variable {registry : PredictionRegistry Kind Component} {frame : Frame} {before after : ReplicatedEntity Kind Component}

omit [DecidableEq Kind] in
theorem Marked.refl (entity : ReplicatedEntity Kind Component) : Marked entity entity :=
  ⟨rfl,rfl,rfl,rfl,fun _ _ => rfl,fun _ => rfl⟩

omit [DecidableEq Kind] in
theorem Marked.trans {between : ReplicatedEntity Kind Component} (first : Marked before between)
    (second : Marked between after) : Marked before after :=
  ⟨second.id.trans first.id,second.predicted.trans first.predicted,
    second.deterministic_predicted.trans first.deterministic_predicted,
      second.disable_rollback.trans first.disable_rollback,
    fun kind tick => (second.confirmed_at kind tick).trans (first.confirmed_at kind tick),
    fun kind => (second.prediction kind).trans (first.prediction kind)⟩

omit [DecidableEq Kind] in
theorem Marked.predicted_at (marked : Marked before after) (kind : Kind) (tick : Tick) :
    (after.held kind).predicted_at tick = (before.held kind).predicted_at tick := by
  rw [Held.predicted_at,Held.predicted_at,marked.prediction]

omit [DecidableEq Kind] in
theorem Marked.is_checked (marked : Marked before after) : after.is_checked registry = before.is_checked registry := by
  simp only [ReplicatedEntity.is_checked,marked.predicted,marked.deterministic_predicted,marked.disable_rollback,
    marked.prediction]

theorem ReplicatedEntity.held_set (entity : ReplicatedEntity Kind Component) (kind : Kind)
    (held : Held (Component kind)) :
    (entity.set kind held).held kind = held := Function.update_self ..

theorem ReplicatedEntity.held_set_of_ne (entity : ReplicatedEntity Kind Component) {kind other : Kind}
    (apart : other ≠ kind)
    (held : Held (Component kind)) :
    (entity.set kind held).held other = entity.held other := Function.update_of_ne apart ..

private theorem marked_component (should_rollback : (kind : Kind) → Component kind → Component kind → Bool)
    (confirmed_tick : Tick) (entity : ReplicatedEntity Kind Component) (kind : Kind) :
    Marked entity (entity.set kind
      (check_rollback_for_unchanged_component (should_rollback kind) confirmed_tick (entity.held kind)).1) := by
  refine ⟨rfl,rfl,rfl,rfl,fun other tick => ?_,fun other => ?_⟩
  all_goals
    by_cases same : other = kind
    · subst same
      rw [ReplicatedEntity.held_set]
      first
      | exact (unchanged_check_reads _ confirmed_tick (entity.held other) _).1
      | exact (unchanged_check_reads _ confirmed_tick (entity.held other) confirmed_tick).2
    · rw [ReplicatedEntity.held_set_of_ne _ same]

/-- The loop over the components marks them, and it finds no difference only where all of them agree. -/
theorem check_components_spec (confirmed_tick : Tick) (kinds : List Kind) (entity : ReplicatedEntity Kind Component) :
    Marked entity (check_components registry confirmed_tick kinds entity).1 ∧
      ((check_components registry confirmed_tick kinds entity).2 = false →
        ∀ kind ∈ kinds,(entity.held kind).Agrees (registry.should_rollback kind) confirmed_tick) := by
  induction kinds generalizing entity with
  | nil => exact ⟨.refl entity,fun _ kind isKind => nomatch isKind⟩
  | cons kind kinds ih =>
    have marked := marked_component registry.should_rollback confirmed_tick entity kind
    rw [check_components]
    by_cases differs :
        (check_rollback_for_unchanged_component (registry.should_rollback kind) confirmed_tick (entity.held kind)).2 =
          true
    · rw [if_pos differs]
      exact ⟨marked,fun same => nomatch same⟩
    · rw [if_neg differs]
      obtain ⟨rest,agree⟩ := ih (entity.set kind
        (check_rollback_for_unchanged_component (registry.should_rollback kind) confirmed_tick (entity.held kind)).1)
      refine ⟨marked.trans rest,fun same other isOther => ?_⟩
      rcases List.mem_cons.mp isOther with rfl | inRest
      · exact (unchanged_check_iff _ confirmed_tick _).mp (Bool.eq_false_iff.mpr differs)
      · exact (Held.Agrees.congr _ (marked.confirmed_at other confirmed_tick)
          (marked.predicted_at other confirmed_tick)).mp (agree same other inRest)

/-- The scan skips an entity that Replicon confirmed at the checkpoint and whose check was not deferred. -/
def Skipped (entity : ReplicatedEntity Kind Component) (replicon_tick : RepliconTick) (deferred : List Entity) : Prop :=
  entity.confirm_history replicon_tick = true ∧ entity.id ∉ deferred

private theorem check_entity_marks (confirmed_tick : Tick) (replicon_tick : RepliconTick) (deferred : List Entity)
    (entity : ReplicatedEntity Kind Component) (world : World Kind Component) :
    Marked entity (check_entity registry frame confirmed_tick replicon_tick deferred entity world).1 := by
  unfold check_entity
  split
  · exact .refl entity
  split
  · exact .refl entity
  · exact (check_components_spec confirmed_tick registry.prediction_map entity).1

/-- An entity of which nothing is requested is skipped, or its components agree. -/
private theorem check_entity_quiet {confirmed_tick : Tick} {replicon_tick : RepliconTick} {deferred : List Entity}
    {entity : ReplicatedEntity Kind Component} {world : World Kind Component}
    (idle : world.prediction_manager.is_rollback = false)
    (quiet : (check_entity registry frame confirmed_tick replicon_tick deferred entity world).2.requests =
      world.requests) :
    (check_entity registry frame confirmed_tick replicon_tick deferred entity world).2 = world ∧
      (entity.is_checked registry = true → ¬Skipped entity replicon_tick deferred →
        ∀ kind ∈ registry.prediction_map,(entity.held kind).Agrees (registry.should_rollback kind) confirmed_tick) := by
  unfold check_entity at quiet ⊢
  split
  next left =>
    rw [idle,Bool.false_or,Bool.not_eq_true'] at left
    exact ⟨rfl,fun checked => absurd (left.symm.trans checked) Bool.false_ne_true⟩
  next included =>
    rw [if_neg included] at quiet
    split
    next confirmed =>
      rw [Bool.and_eq_true,Bool.not_eq_true',List.contains_eq_mem,decide_eq_false_iff_not] at confirmed
      exact ⟨rfl,fun _ scanned => absurd confirmed scanned⟩
    next scanned =>
      rw [if_neg scanned] at quiet
      simp only at quiet ⊢
      split
      next differs =>
        rw [if_pos differs] at quiet
        obtain ⟨state,request,asked,-⟩ := do_rollback_asks frame confirmed_tick .FromState world
        rw [asked,ask_requests] at quiet
        exact absurd (List.append_right_eq_self.mp quiet) (List.cons_ne_nil _ _)
      next same =>
        exact ⟨rfl,fun _ _ => (check_components_spec confirmed_tick _ entity).2 (Bool.eq_false_iff.mpr same)⟩

theorem check_entities_marks (confirmed_tick : Tick) (replicon_tick : RepliconTick) (deferred : List Entity)
    (entities : List (ReplicatedEntity Kind Component)) (world : World Kind Component) :
    ∀ after ∈ (check_entities registry frame confirmed_tick replicon_tick deferred entities world).1,
      ∃ before ∈ entities,Marked before after := by
  induction entities generalizing world with
  | nil => exact fun after isAfter => nomatch isAfter
  | cons entity entities ih =>
    intro after isAfter
    rcases List.mem_cons.mp isAfter with rfl | inRest
    · exact ⟨entity,List.mem_cons_self,check_entity_marks ..⟩
    · obtain ⟨before,isBefore,marked⟩ := ih _ after inRest
      exact ⟨before,List.mem_cons_of_mem _ isBefore,marked⟩

/-- In a scan that requests nothing each entity is skipped, or its components agree. -/
theorem check_entities_quiet {confirmed_tick : Tick} {replicon_tick : RepliconTick} {deferred : List Entity}
    {entities : List (ReplicatedEntity Kind Component)} {world : World Kind Component}
    (idle : world.prediction_manager.is_rollback = false)
    (quiet : (check_entities registry frame confirmed_tick replicon_tick deferred entities world).2.requests =
      world.requests) :
    ∀ entity ∈ entities,entity.is_checked registry = true → ¬Skipped entity replicon_tick deferred →
      ∀ kind ∈ registry.prediction_map,(entity.held kind).Agrees (registry.should_rollback kind) confirmed_tick := by
  induction entities with
  | nil => exact fun entity isEntity => nomatch isEntity
  | cons first entities ih =>
    obtain ⟨_,requests,asked,-⟩ := check_entity_asks registry frame confirmed_tick replicon_tick deferred first world
    obtain ⟨_,more,rest,-⟩ := check_entities_asks registry frame confirmed_tick replicon_tick deferred entities
      (check_entity registry frame confirmed_tick replicon_tick deferred first world).2
    have none : requests = [] ∧ more = [] := by
      rw [check_entities,rest,ask_requests,asked,ask_requests,List.append_assoc,List.append_right_eq_self,
        List.append_eq_nil_iff] at quiet
      exact quiet
    obtain ⟨same,agree⟩ := check_entity_quiet idle (by rw [asked,ask_requests,none.1,List.append_nil])
    rw [check_entities,same] at quiet
    intro entity isEntity
    rcases List.mem_cons.mp isEntity with rfl | inRest
    · exact agree
    · exact ih quiet entity inRest

/-! ### The frame -/

theorem check_rollback_marks (world : World Kind Component) :
    ∀ after ∈ (check_rollback registry frame world).entities,∃ before ∈ world.entities,Marked before after := by
  have asked (rollback_tick : Tick) (rollback : Rollback) (world : World Kind Component) :
      (do_rollback frame rollback_tick rollback world).entities = world.entities := by
    obtain ⟨_,_,asked,-⟩ := do_rollback_asks frame rollback_tick rollback world
    rw [asked,ask_entities]
  have same (world : World Kind Component) : ∀ after ∈ world.entities,∃ before ∈ world.entities,Marked before after :=
    fun after isAfter => ⟨after,isAfter,.refl after⟩
  have processed (server_confirmed_tick : Tick) (replicon_tick : RepliconTick) (world : World Kind Component) :
      ∀ after ∈ (process_completed_tick registry frame server_confirmed_tick replicon_tick world).entities,
        ∃ before ∈ world.entities,Marked before after := by
    simp only [process_completed_tick,PendingEntityStateChecks.take_through]
    split
    · rw [asked]
      exact same world
    · exact check_entities_marks _ _ _ _ _
  have state (world : World Kind Component) :
      ∀ after ∈ (check_state registry frame world).entities,∃ before ∈ world.entities,Marked before after := by
    unfold check_state
    split
    · split
      · split
        · rw [asked]
          exact same world
        · exact same world
      · exact same world
    · split
      · exact processed _ _ world
      · exact same world
    · exact same world
  unfold check_rollback
  simp only
  split
  · rw [asked]
    exact same world
  · split
    · exact same world
    · obtain ⟨_,_,inputs,-⟩ := check_inputs_asks frame (check_state registry frame {world with requests := []})
      rw [inputs,ask_entities]
      exact state _

/-- A frame that processes a completed tick without a request has no mismatch at or before it, and each entity is
skipped or its components agree. -/
theorem check_rollback_quiet {world : World Kind Component} {server_confirmed_tick : Tick}
    {replicon_tick : RepliconTick}
    (check : world.prediction_manager.rollback_policy.state = .Check)
    (processed : processed_tick frame world = some (server_confirmed_tick,replicon_tick))
    (quiet : (check_rollback registry frame world).requests = []) :
    ¬world.state_metadata.Keeps server_confirmed_tick ∧
      ∀ entity ∈ world.entities,entity.is_checked registry = true →
        ¬Skipped entity replicon_tick
          (world.prediction_manager.pending_entity_state_checks.take_through server_confirmed_tick).1 →
        ∀ kind ∈ registry.prediction_map,(entity.held kind).Agrees
          (registry.should_rollback kind) server_confirmed_tick := by
  obtain ⟨_,inputs,frameEnd,-⟩ := check_rollback_processed registry frame check processed
  obtain ⟨-,idle,-⟩ := processed_tick_spec processed
  rw [frameEnd,ask_requests,List.append_eq_nil_iff] at quiet
  have ahead : ¬world.state_metadata.Keeps server_confirmed_tick := by
    intro reached
    obtain ⟨-,granted,rejected⟩ := process_reached registry frame {world with requests := []} replicon_tick reached
    by_cases reaches : Reaches frame {world with requests := []} server_confirmed_tick
    · exact nomatch (granted reaches).symm.trans quiet.1
    · exact nomatch (rejected reaches).symm.trans quiet.1
  refine ⟨ahead,?_⟩
  have scanned := quiet.1
  simp only [process_completed_tick,PendingEntityStateChecks.take_through,
    StateRollbackMetadata.pending_mismatch_at_or_before_eq_none.mpr ahead] at scanned
  refine check_entities_quiet ?_ scanned
  simp [PredictionManager.is_rollback,idle]

end

variable [∀ kind,DecidableEq (Component kind)] (registry : PredictionRegistry Kind Component)

/-- An update of a component is compared when it is received: nothing at or before its tick is known to differ, the tick
is not ahead of the local timeline, and prediction goes back to it. -/
def Checked (world : World Kind Component) (entity : ReplicatedEntity Kind Component) (kind : Kind)
    (tick : Tick) : Prop :=
  world.prediction_manager.rollback_policy.state = .Check ∧ world.state_metadata.should_check_mismatch_at tick = true ∧
    tick ≤ world.tick ∧ ∀ oldest ∈ (entity.held kind).predicted.bind HistoryBuffer.oldest,oldest.1 ≤ tick

/-- The event is an update or a removal of the component at the tick, which is compared. -/
inductive Compares (world : World Kind Component) (id : Entity) (kind : Kind) (tick : Tick) :
    Event Kind Component → Prop
  | write_history (component : Component kind) (materialize_initial : Bool) :
      (∀ entity ∈ world.find id,Checked world entity kind tick ∧
        (materialize_initial && (entity.held kind).is_fresh) = false) →
      Compares world id kind tick (.write_history id kind tick component materialize_initial)
  | remove_history : (∀ entity ∈ world.find id,Checked world entity kind tick) →
      Compares world id kind tick (.remove_history id kind tick)

/-- The event writes neither history of the component at the tick or before it, and forgets no mismatch at or
before it. -/
def Undisturbed (world : World Kind Component) (id : Entity) (kind : Kind) (tick : Tick) : Event Kind Component → Prop
  | .spawn entity => entity.id ≠ id
  | .change id' kind' held => id' = id → ∀ entity ∈ world.entities,entity.id = id →
      ((entity.set kind' held).held kind).confirmed_at tick = (entity.held kind).confirmed_at tick ∧
        ((entity.set kind' held).held kind).predicted_at tick = (entity.held kind).predicted_at tick
  | .write_history id' kind' tick' _ _ => id' = id → kind' = kind → tick < tick'
  | .remove_history id' kind' tick' => id' = id → kind' = kind → tick < tick'
  | .reset_connection_state => ¬world.state_metadata.Keeps tick
  | .check_rollback frame =>
    world.state_metadata.Keeps tick → (check_rollback registry frame world).state_metadata.Keeps tick
  | _ => True

/-- In the run an update of the component at the tick was compared when it was received, and nothing
disturbed it since. -/
def Covered (start : World Kind Component) (events : List (Event Kind Component)) (id : Entity) (kind : Kind)
    (tick : Tick) :
    Prop :=
  ∃ earlier update later,events = earlier ++ update :: later ∧
    Compares (run registry start earlier) id kind tick update ∧
    ∀ between event after,later = between ++ event :: after →
      Undisturbed registry (run registry start (earlier ++ update :: between)) id kind tick event

/-- What was compared is matched, or a mismatch at or before the tick is kept. -/
private def Known (world : World Kind Component) (id : Entity) (kind : Kind) (tick : Tick) : Prop :=
  world.state_metadata.Keeps tick ∨
    ∀ entity ∈ world.entities,entity.id = id → (entity.held kind).Matches (registry.should_rollback kind) tick

section
variable {registry} {world : World Kind Component} {id : Entity} {kind : Kind} {tick : Tick}

omit [DecidableEq Kind] [∀ kind,DecidableEq (Component kind)] in
/-- What changes entities with an id leaves what matches, if it does so for these. -/
private theorem matches_update {id' : Entity}
    {change : ReplicatedEntity Kind Component → ReplicatedEntity Kind Component}
    (same_id : ∀ entity,(change entity).id = entity.id)
    (changed : id' = id → ∀ entity ∈ world.entities,entity.id = id →
      ((change entity).held kind).Matches (registry.should_rollback kind) tick)
    (matched : id' ≠ id → ∀ entity ∈ world.entities,entity.id = id →
      (entity.held kind).Matches (registry.should_rollback kind) tick) :
    ∀ entity ∈ (world.update id' change).entities,entity.id = id →
      (entity.held kind).Matches (registry.should_rollback kind) tick := by
  intro after isAfter isId
  obtain ⟨before,isBefore,rfl⟩ := List.mem_map.mp isAfter
  by_cases same : before.id = id'
  · rw [if_pos same] at isId ⊢
    rw [same_id] at isId
    exact changed (same.symm.trans isId) before isBefore isId
  · rw [if_neg same] at isId ⊢
    exact matched (fun other => same (isId.trans other.symm)) before isBefore isId

/-- To record a state of another component or of a later tick leaves what matches. -/
private theorem matches_received {id' : Entity} {kind' : Kind} {tick' : Tick}
    (confirmed_component : Option (Component kind'))
    (check_state_rollback materialized_initial : Bool) {stored received : ReplicatedEntity Kind Component}
    (found : world.find id' = some stored)
    (histories : (received.held kind').confirmed = (stored.held kind').confirmed ∧
      (received.held kind').predicted = (stored.held kind').predicted)
    (later : id' = id → kind' = kind → tick < tick')
    (matched : ∀ entity ∈ world.entities,entity.id = id →
      (entity.held kind).Matches (registry.should_rollback kind) tick) :
    ∀ entity ∈ (add_resolved_confirmed_to_history_inner registry id' kind' tick' confirmed_component
      check_state_rollback
        materialized_initial received world).1.entities,entity.id = id →
      (entity.held kind).Matches (registry.should_rollback kind) tick := by
  rw [(add_resolved_records ..).1]
  by_cases same : id' = id ∧ kind' = kind
  · obtain ⟨rfl,rfl⟩ := same
    refine matches_update (fun _ => rfl) (fun _ entity _ _ => ?_) fun apart => absurd rfl apart
    have known := matched stored (List.mem_of_find?_eq_some found) (by simpa using List.find?_some found)
    rw [ReplicatedEntity.held_set]
    exact record_later _ _ _ (later rfl rfl) ((Held.Matches.congr _ (by simp only [Held.confirmed_at,histories.1])
      (by simp only [Held.predicted_at,histories.2])).mpr known)
  · refine matches_update (fun _ => rfl) (fun sameId entity isEntity isId => ?_) fun _ => matched
    rw [ReplicatedEntity.held_set_of_ne _ fun sameKind => same ⟨sameId,sameKind.symm⟩]
    exact matched entity isEntity isId

omit [DecidableEq Kind] [∀ kind,DecidableEq (Component kind)] in
private theorem record_mismatch_if_entities (tick : Tick) (recorded : World Kind Component × Bool) :
    (record_mismatch_if tick recorded).entities = recorded.1.entities := by
  unfold record_mismatch_if
  split <;> rfl

/-- An event that does not disturb what was compared keeps what is known of it. -/
private theorem known_step {event : Event Kind Component} (known : Known registry world id kind tick)
    (undisturbed : Undisturbed registry world id kind tick event) :
    Known registry (step registry world event) id kind tick := by
  rcases known with keeps | matched
  · refine .inl ?_
    cases event with
    | check_rollback frame => exact undisturbed keeps
    | reset_connection_state => exact absurd keeps undisturbed
    | record_mismatch tick' => exact keeps.record_mismatch tick'
    | write_history => exact keeps.write_history ..
    | remove_history => exact keeps.remove_history ..
    | _ => exact keeps
  · refine .inr ?_
    cases event with
    | spawn entity =>
      intro after isAfter isId
      rcases List.mem_append.mp isAfter with old | new
      · exact matched after old isId
      · cases List.mem_singleton.mp new
        exact absurd isId undisturbed
    | despawn id' => exact fun after isAfter => matched after (List.mem_filter.mp isAfter).1
    | mark id' => exact matches_update (fun _ => rfl) (fun _ => matched) fun _ => matched
    | confirm id' => exact matches_update (fun _ => rfl) (fun _ => matched) fun _ => matched
    | change id' kind' held =>
      refine matches_update (fun _ => rfl) (fun same entity isEntity isId => ?_) fun _ => matched
      obtain ⟨sameConfirmed,samePredicted⟩ := undisturbed same entity isEntity isId
      exact (Held.Matches.congr _ sameConfirmed samePredicted).mpr (matched entity isEntity isId)
    | write_history id' kind' tick' component materialize_initial =>
      rw [step,write_history_inner]
      split
      · exact matched
      next stored found =>
        rw [record_mismatch_if_entities]
        refine matches_received _ _ _ found ?_ undisturbed matched
        split
        · rw [ReplicatedEntity.held_set]
          exact ⟨rfl,rfl⟩
        · exact ⟨rfl,rfl⟩
    | remove_history id' kind' tick' =>
      rw [step,remove_history]
      split
      · exact matched
      next stored found =>
        rw [record_mismatch_if_entities]
        exact matches_received _ _ _ found ⟨rfl,rfl⟩ undisturbed matched
    | check_rollback frame =>
      intro after isAfter isId
      obtain ⟨before,isBefore,marked⟩ := check_rollback_marks world after isAfter
      exact (Held.Matches.congr _ (marked.confirmed_at kind tick) (marked.predicted_at kind tick)).mpr
        (matched before isBefore (marked.id.symm.trans isId))
    | _ => exact matched

private theorem known_recorded {stored : ReplicatedEntity Kind Component} (checked : Checked world stored kind tick)
    (confirmed_component : Option (Component kind)) :
    Known registry (record_mismatch_if tick
      (add_resolved_confirmed_to_history_inner registry id kind tick confirmed_component
      true false stored world)) id kind tick := by
  obtain ⟨check,should_check,reached,retained⟩ := checked
  have checkable : Checkable (stored.held kind) tick world.tick
      (true && world.state_metadata.should_check_mismatch_at tick &&
        decide (world.prediction_manager.rollback_policy.state = .Check)) :=
    ⟨by rw [should_check,check]; rfl,reached,retained⟩
  obtain ⟨entities,recorded⟩ := add_resolved_records registry id kind tick confirmed_component true false stored world
  rcases record_matches (registry.should_rollback kind) false confirmed_component checkable with differs | matched
  · rw [← recorded] at differs
    rw [record_mismatch_if,if_pos differs]
    exact .inl (StateRollbackMetadata.keeps_record_mismatch _ _)
  · refine .inr ?_
    rw [record_mismatch_if_entities,entities]
    refine matches_update (fun _ => rfl) (fun _ entity _ _ => ?_) fun apart => absurd rfl apart
    rw [ReplicatedEntity.held_set]
    exact matched

/-- An update that is compared when it is received matches then, or its mismatch is kept. -/
private theorem known_compares {event : Event Kind Component} (compares : Compares world id kind tick event) :
    Known registry (step registry world event) id kind tick := by
  have absent (none : world.find id = none) : Known registry world id kind tick :=
    .inr fun entity isEntity isId => absurd (decide_eq_true isId) (List.find?_eq_none.mp none entity isEntity)
  cases compares with
  | write_history component materialize_initial checks =>
    rw [step,write_history_inner]
    split
    next none => exact absent none
    next stored found =>
      obtain ⟨checked,old⟩ := checks stored found
      simp only [old,Bool.false_eq_true,if_false,Bool.not_false]
      exact known_recorded checked _
  | remove_history checks =>
    rw [step,remove_history]
    split
    next none => exact absent none
    next stored found => exact known_recorded (checks stored found) none

private theorem known_covered {start : World Kind Component} {events : List (Event Kind Component)}
    (covered : Covered registry start events id kind tick) :
    Known registry (run registry start events) id kind tick := by
  obtain ⟨earlier,update,later,rfl,compares,undisturbed⟩ := covered
  induction later using List.reverseRecOn with
  | nil =>
    rw [run_snoc]
    exact known_compares compares
  | append_singleton later event ih =>
    rw [← List.cons_append,← List.append_assoc,run_snoc]
    refine known_step (ih fun between event' after isSplit => ?_) (undisturbed later event [] rfl)
    exact undisturbed between event' (after ++ [event]) (by rw [isSplit,List.append_assoc,List.cons_append])

end

/-- After a frame that processes a completed tick and requests nothing all that is predicted agrees with the
server there. -/
def Complete (world : World Kind Component) (frame : Frame) : Prop :=
  ∀ server_confirmed_tick replicon_tick,processed_tick frame world = some (server_confirmed_tick,replicon_tick) →
    (check_rollback registry frame world).requests = [] →
    ∀ entity ∈ (check_rollback registry frame world).entities,entity.is_checked registry = true →
      ∀ kind ∈ registry.prediction_map,(entity.held kind).Agrees (registry.should_rollback kind) server_confirmed_tick

/-- Of an entity that the scan skips, each component with two states to compare was compared when an update for the
completed tick was received, and nothing disturbed it since. -/
def SkipsCovered (start : World Kind Component) (events : List (Event Kind Component)) (frame : Frame) : Prop :=
  let world := run registry start events
  ∀ server_confirmed_tick replicon_tick,processed_tick frame world = some (server_confirmed_tick,replicon_tick) →
    ¬world.state_metadata.Keeps server_confirmed_tick →
    ∀ entity ∈ world.entities,entity.is_checked registry = true →
      Skipped entity replicon_tick
        (world.prediction_manager.pending_entity_state_checks.take_through server_confirmed_tick).1 →
      ∀ kind ∈ registry.prediction_map,((entity.held kind).confirmed_at server_confirmed_tick).isSome = true →
        ((entity.held kind).predicted_at server_confirmed_tick).isSome = true →
          Covered registry start events entity.id kind server_confirmed_tick

/-- In every run a frame detects all mismatches at its completed tick, if what it skips was compared before. -/
theorem mismatches_detected (registry : PredictionRegistry Kind Component) (start : World Kind Component)
    (check : start.prediction_manager.rollback_policy.state = .Check) (events : List (Event Kind Component))
    (frame : Frame)
    (covered : SkipsCovered registry start events frame) : Complete registry (run registry start events) frame := by
  intro server_confirmed_tick replicon_tick processed quiet after isAfter isChecked kind isKind
  have checks : (run registry start events).prediction_manager.rollback_policy.state = .Check := by
    rw [run_policy,check]
  obtain ⟨ahead,scanned⟩ := check_rollback_quiet checks processed quiet
  obtain ⟨before,isBefore,marked⟩ := check_rollback_marks _ after isAfter
  rw [marked.is_checked] at isChecked
  rw [Held.Agrees.congr _ (marked.confirmed_at kind _) (marked.predicted_at kind _)]
  by_cases skipped : Skipped before replicon_tick
      ((run registry start events).prediction_manager.pending_entity_state_checks.take_through server_confirmed_tick).1
  · intro confirmed isConfirmed predicted isPredicted
    have known := known_covered (covered _ _ processed ahead before isBefore isChecked skipped kind isKind
      (Option.isSome_of_mem isConfirmed) (Option.isSome_of_mem isPredicted))
    exact (known.resolve_left ahead before isBefore rfl).agrees _ confirmed isConfirmed predicted isPredicted
  · exact scanned before isBefore isChecked skipped kind isKind

/-- Two components, compared by equality. -/
private def two_components :
    PredictionRegistry Bool fun _ => Nat := ⟨[true,false],fun _ confirmed predicted => confirmed != predicted⟩

/-- One component was predicted to stay, the other to change at tick 8. -/
private def player : ReplicatedEntity Bool fun _ => Nat :=
  ⟨1,true,false,false,fun _ => false,fun kind =>
    ⟨some 7,none,some ⟨if kind then [(5,.Updated 7)] else [(5,.Updated 7),(8,.Updated 9)]⟩⟩⟩

/-- The server has completed tick 8. -/
private def tick_eight_completed : Frame := ⟨0,false,none,some 8,some 1,false⟩

/-- The update of one component at tick 8 was compared, and of the other there is no authoritative state. -/
theorem mismatches_detected_one :
    Complete two_components (run two_components (.start .default)
      [.set_tick 10,.spawn player,.write_history 1 true 8 7 false,.confirm 1 (· == 1)]) tick_eight_completed := by
  refine mismatches_detected two_components (.start .default) rfl _ _ ?_
  intro server_confirmed_tick replicon_tick processed _ entity isEntity _ _ kind _ isConfirmed _
  cases processed
  cases List.mem_singleton.mp isEntity
  cases kind with
  | false => exact nomatch isConfirmed
  | true =>
    refine ⟨[.set_tick 10,.spawn player],.write_history 1 true 8 7 false,[.confirm 1 (· == 1)],rfl,?_,?_⟩
    · refine .write_history 7 false fun entity found => ⟨?_,rfl⟩
      cases found
      refine ⟨rfl,rfl,by decide,fun oldest isOldest => ?_⟩
      cases isOldest
      decide
    · intro between event after isSplit
      match between,isSplit with
      | [],isSplit =>
        cases isSplit
        exact trivial
      | [_],isSplit => exact nomatch isSplit
      | _ :: _ :: _,isSplit => exact nomatch isSplit

/-- The update for tick 8 carries one component. The other was 7 before and is predicted to be 9, and nothing
is requested. -/
theorem other_component_not_compared :
    ¬∀ (events : List (Event Bool fun _ => Nat)) (frame : Frame),
      Complete two_components (run two_components (.start .default) events) frame := by
  intro complete
  have agrees := complete
    [.set_tick 10,.spawn player,.write_history 1 false 5 7 false,.write_history 1 true 8 7 false,.confirm 1 (· == 1)]
    tick_eight_completed 8 1 rfl rfl _ List.mem_cons_self rfl false (by decide)
  exact absurd (agrees (.Updated 7) (by decide) (.Updated 9) (by decide)) (by decide)

end Lightyear.Prediction
