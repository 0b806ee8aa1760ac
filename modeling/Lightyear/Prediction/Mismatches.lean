import Lightyear.Prediction.System

/-!
What becomes of a mismatch with the authoritative state. It is kept until a completed
tick reaches it, and is forgotten then even where the rollback is rejected because it
would go back too far.
-/
namespace Lightyear.Prediction
open Message Lightyear.Core
open EntityMap (Entity)

variable {Kind : Type} [DecidableEq Kind] {Component : Kind → Type} [∀ kind,DecidableEq (Component kind)]
variable (registry : PredictionRegistry Kind Component)

/-- A frame starts a rollback to the tick that the server has completed. -/
def StartsRollback (world : World Kind Component) (frame : Frame) : Prop :=
  ∃ server_confirmed_tick ∈ frame.last_confirmed_tick,
    .rollback_requested server_confirmed_tick .FromState ∈ (check_rollback registry frame world).requests

/-- A step keeps the mismatch that it records and those that are kept, unless it starts a rollback to a completed tick
or resets the connection's state. -/
def Remembers (world : World Kind Component) (event : Event Kind Component) : Prop :=
  ∀ mismatch,event = .record_mismatch mismatch ∨ world.state_metadata.Keeps mismatch →
    (step registry world event).state_metadata.Keeps mismatch ∨ event = .reset_connection_state ∨
      ∃ frame,event = .check_rollback frame ∧ StartsRollback registry world frame

/-- A frame processes a completed tick that a mismatch is not after, and from which the local tick is further than the
policy lets a rollback go. -/
def TooDeep (world : World Kind Component) (frame : Frame) : Prop :=
  ∃ server_confirmed_tick replicon_tick,processed_tick frame world = some (server_confirmed_tick,replicon_tick) ∧
    world.state_metadata.Keeps server_confirmed_tick ∧
    (world.prediction_manager.rollback_policy.effective_max_rollback_ticks frame.maximum_predicted_ticks).toNat <
      world.tick.toNat - server_confirmed_tick.toNat

variable {registry} {world : World Kind Component}

/-- A frame of `RollbackMode::Check` that is not too deep keeps the mismatches or starts a rollback to the
completed tick. -/
private theorem remembers_frame (check : world.prediction_manager.rollback_policy.state = .Check) {frame : Frame}
    (near : ¬TooDeep world frame) : Remembers registry world (.check_rollback frame) := by
  rintro mismatch (recorded | keeps)
  · exact nomatch recorded
  cases processed : processed_tick frame world with
  | none =>
    refine .inl ?_
    rwa [StateRollbackMetadata.Keeps,step,check_rollback_unprocessed registry frame check processed]
  | some completed =>
    obtain ⟨server_confirmed_tick,replicon_tick⟩ := completed
    obtain ⟨_,_,frameEnd,-⟩ := check_rollback_processed registry frame check processed
    obtain ⟨isCompleted,idle,past⟩ := processed_tick_spec processed
    by_cases reached : world.state_metadata.Keeps server_confirmed_tick
    · have reaches : Reaches frame world server_confirmed_tick := by
        rw [reaches_iff past]
        exact not_lt.mp fun deep => near ⟨_,_,processed,reached,deep⟩
      refine .inr (.inr ⟨frame,rfl,server_confirmed_tick,isCompleted,?_⟩)
      rw [frameEnd,ask_requests]
      refine List.mem_append_left _ ?_
      rw [(process_reached registry frame {world with requests := []} _ reached).2.1 reaches]
      exact List.mem_singleton_self _
    · rcases process_ahead registry frame {world with requests := []} reached idle with kept | started
      · refine .inl ?_
        rwa [StateRollbackMetadata.Keeps,step,frameEnd,ask_state_metadata,kept]
      · exact .inr (.inr ⟨frame,rfl,server_confirmed_tick,isCompleted,frameEnd ▸ List.mem_append_left _ started⟩)

/-- A frame that is too deep forgets the mismatches that the completed tick has reached, and starts no rollback. -/
private theorem forgets_frame (check : world.prediction_manager.rollback_policy.state = .Check) {frame : Frame}
    (deep : TooDeep world frame) : ¬Remembers registry world (.check_rollback frame) := by
  obtain ⟨server_confirmed_tick,replicon_tick,processed,reached,far⟩ := deep
  obtain ⟨isCompleted,-,past⟩ := processed_tick_spec processed
  have beyond : ¬Reaches frame world server_confirmed_tick := fun reaches => ((reaches_iff past).mp reaches).not_gt far
  obtain ⟨forgotten,-,rejected⟩ := process_reached registry frame {world with requests := []} replicon_tick reached
  obtain ⟨_,_,frameEnd,fromInputs⟩ := check_rollback_processed registry frame check processed
  intro remembers
  rcases remembers server_confirmed_tick (.inr reached) with ⟨pending,isPending,-⟩ | reset |
    ⟨frame',same,tick,isTick,started⟩
  · rw [step,frameEnd,ask_state_metadata,forgotten] at isPending
    cases isPending
  · cases reset
  · cases same
    rw [frameEnd,ask_requests,rejected beyond,List.mem_append] at started
    rcases started with inCheck | inInputs
    · cases List.mem_singleton.mp inCheck
    · exact fromInputs tick inInputs

/-- Every step but the frames keeps the mismatches. -/
private theorem remembers_step {event : Event Kind Component} (other : ∀ frame,event ≠ .check_rollback frame) :
    Remembers registry world event := by
  rintro mismatch (rfl | keeps)
  · exact .inl (StateRollbackMetadata.keeps_record_mismatch _ _)
  · cases event with
    | check_rollback frame => exact absurd rfl (other frame)
    | reset_connection_state => exact .inr (.inl rfl)
    | record_mismatch tick => exact .inl (keeps.record_mismatch tick)
    | write_history id kind tick component materialize_initial => exact .inl (keeps.write_history ..)
    | remove_history id kind tick => exact .inl (keeps.remove_history ..)
    | _ => exact .inl keeps

/-- The run keeps each mismatch that is recorded exactly if no frame of it is too deep. -/
theorem mismatches_remembered_iff (registry : PredictionRegistry Kind Component) (start : World Kind Component)
    (check : start.prediction_manager.rollback_policy.state = .Check) (events : List (Event Kind Component)) :
    (∀ before event after,events = before ++ event :: after → Remembers registry (run registry start before) event) ↔
      ∀ before frame after,events = before ++ .check_rollback frame :: after →
        ¬TooDeep (run registry start before) frame := by
  have checks (before : List (Event Kind Component)) :
      (run registry start before).prediction_manager.rollback_policy.state = .Check := by rw [run_policy,check]
  constructor
  · intro remembers before frame after isSplit deep
    exact forgets_frame (checks before) deep (remembers before _ after isSplit)
  · intro near before event after isSplit
    by_cases isFrame : ∃ frame,event = .check_rollback frame
    · obtain ⟨frame,rfl⟩ := isFrame
      exact remembers_frame (checks before) (near before frame after isSplit)
    · exact remembers_step fun frame same => isFrame ⟨frame,same⟩

/-- One component, compared by equality. -/
private def one_component :
    PredictionRegistry Unit fun _ => Nat := ⟨[()],fun _ confirmed predicted => confirmed != predicted⟩

/-- The server has completed tick 5. -/
private def tick_five_completed : Frame := ⟨0,false,none,some 5,some 1,false⟩

/-- From tick 20 the rollback to tick 5 is within the 20 ticks of the default policy. -/
theorem mismatches_remembered_near :
    let events : List (Event Unit fun _ => Nat) := [.set_tick 20,.record_mismatch 5,.check_rollback tick_five_completed]
    ∀ before event after,events = before ++ event :: after →
      Remembers one_component (run one_component (.start .default) before) event := by
  refine (mismatches_remembered_iff one_component (.start .default) rfl _).mpr ?_
  rintro before frame after isSplit ⟨server_confirmed_tick,replicon_tick,processed,-,far⟩
  match before,isSplit with
  | [_,_],isSplit =>
    cases isSplit
    obtain ⟨rfl,rfl⟩ : server_confirmed_tick = 5 ∧ replicon_tick = 1 := by
      cases processed
      exact ⟨rfl,rfl⟩
    exact absurd far (by decide)
  | [],isSplit => exact nomatch isSplit
  | [_],isSplit => exact nomatch isSplit
  | [_,_,_],isSplit => exact nomatch isSplit
  | _ :: _ :: _ :: _ :: _,isSplit => exact nomatch isSplit

/-- From tick 100 it is not, and the mismatch is forgotten. -/
theorem deep_mismatch_forgotten :
    ¬∀ events before : List (Event Unit fun _ => Nat),∀ event after,events = before ++ event :: after →
      Remembers one_component (run one_component (.start .default) before) event := by
  intro remembers
  rcases remembers _ [.set_tick 100,.record_mismatch 5] (.check_rollback tick_five_completed) [] rfl 5
    (.inr ⟨5,rfl,le_rfl⟩) with ⟨pending,isPending,-⟩ | reset | ⟨frame,same,tick,isTick,started⟩
  · exact nomatch isPending
  · exact nomatch reset
  · cases same
    exact nomatch List.mem_singleton.mp started

end Lightyear.Prediction
