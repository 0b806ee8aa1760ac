import Lightyear.ConfirmedHistory
import Lightyear.Prediction.Manager

/-!
The checks of a predicted component against its authoritative states, `registry.rs`:
when a state is received, and when the server's updates for a tick are complete.
-/
namespace Lightyear.Prediction
open Message Lightyear.Core
open EntityMap (Entity)

variable {C : Type} (should_rollback : C → C → Bool)

/-- What an entity holds of a component: `C`, `ConfirmedHistory<C>` and `PredictionHistory<C>`. -/
structure Held (C : Type) where
  live : Option C
  confirmed : Option (ConfirmedHistory C)
  predicted : Option (HistoryBuffer C)

namespace Held

def default : Held C := ⟨none,none,none⟩

/-- There is neither the component nor a history of it. -/
def is_fresh (self : Held C) : Bool := self.live.isNone && self.predicted.isNone && self.confirmed.isNone

end Held

def should_rollback_check (confirmed predicted : Option C) : Bool :=
  match confirmed,predicted with
  | some c,some p => should_rollback c p
  | some _,none => true
  | none,some _ => true
  | none,none => false

/-- The check at a completed tick. A component without a sample at the tick is marked as unchanged there. -/
def check_rollback_for_unchanged_component (confirmed_tick : Tick) (held : Held C) : Held C × Bool :=
  match held.confirmed with
  | none => (held,false)
  | some confirmed_history =>
    match confirmed_history.get_state_at_or_before confirmed_tick with
    | none => (held,false)
    | some last_confirmed_state =>
      let marked := {held with confirmed := some (confirmed_history.add_unchanged confirmed_tick).1}
      match held.predicted with
      | none => (marked,false)
      | some prediction_history =>
        match prediction_history.get_state confirmed_tick with
        | none => (marked,false)
        | some predicted_state =>
          (marked,should_rollback_check should_rollback last_confirmed_state.value predicted_state.value)

section
variable [DecidableEq C]

/-- What recording a state does: to the component, to `pending_entity_state_checks`, and whether it differs. -/
structure Recorded (C : Type) where
  held : Held C
  deferred : Bool
  should_rollback : Bool

def record_confirmed_and_maybe_check (confirmed_tick : Tick) (confirmed_component : Option C) (held : Held C)
    (check_mismatch : Bool) (current_tick : Tick) (materialized_initial : Bool) : Recorded C :=
  let never_predicted_insert :=
    confirmed_component.isSome && !materialized_initial && held.predicted.isNone && held.live.isNone
  let oldest_retained_tick := (held.predicted.bind HistoryBuffer.oldest).map Prod.fst
  let history_was_pruned_past_confirmed := oldest_retained_tick.any (confirmed_tick < ·)
  let should_rollback :=
    if check_mismatch && confirmed_tick ≤ current_tick && !history_was_pruned_past_confirmed then
      should_rollback_check should_rollback confirmed_component (held.predicted.bind (·.get confirmed_tick))
    else false
  let confirmed_state := match confirmed_component with
    | some component => .Updated component
    | none => .Removed
  let confirmed := (held.confirmed.getD .default).insert confirmed_tick confirmed_state
  let predicted := if never_predicted_insert then
      some (HistoryBuffer.default.add_state (min confirmed_tick current_tick) .Removed)
    else held.predicted
  ⟨{held with confirmed := some confirmed,predicted},check_mismatch && current_tick < confirmed_tick,should_rollback⟩

end

namespace Held
variable {held : Held C} {tick : Tick}

/-- The authoritative state at or before a tick. -/
def confirmed_at (held : Held C) (tick : Tick) : Option (HistoryState C) :=
  held.confirmed.bind (·.get_state_at_or_before tick)

/-- The predicted state that is retained at a tick. -/
def predicted_at (held : Held C) (tick : Tick) : Option (HistoryState C) := held.predicted.bind (·.get_state tick)

/-- Where there are both, the authoritative and the predicted state agree under the rollback condition. -/
def Agrees (held : Held C) (tick : Tick) : Prop :=
  ∀ confirmed ∈ held.confirmed_at tick,∀ predicted ∈ held.predicted_at tick,
    should_rollback_check should_rollback confirmed.value predicted.value = false

/-- The same of the predicted value: where no state is retained there is none. -/
def Matches (held : Held C) (tick : Tick) : Prop :=
  ∀ confirmed ∈ held.confirmed_at tick,
    should_rollback_check should_rollback confirmed.value ((held.predicted_at tick).bind HistoryState.value) = false

theorem Matches.agrees (matched : held.Matches should_rollback tick) : held.Agrees should_rollback tick := by
  intro confirmed isConfirmed predicted isPredicted
  have compared := matched confirmed isConfirmed
  rwa [Option.mem_def.mp isPredicted] at compared

theorem Agrees.congr {held' : Held C} (sameConfirmed : held'.confirmed_at tick = held.confirmed_at tick)
    (samePredicted : held'.predicted_at tick = held.predicted_at tick) :
    held'.Agrees should_rollback tick ↔ held.Agrees should_rollback tick := by
  rw [Agrees,Agrees,sameConfirmed,samePredicted]

theorem Matches.congr {held' : Held C} (sameConfirmed : held'.confirmed_at tick = held.confirmed_at tick)
    (samePredicted : held'.predicted_at tick = held.predicted_at tick) :
    held'.Matches should_rollback tick ↔ held.Matches should_rollback tick := by
  rw [Matches,Matches,sameConfirmed,samePredicted]

end Held

/-- The check at a completed tick leaves what is read of the component. -/
theorem unchanged_check_reads (confirmed_tick : Tick) (held : Held C) (tick : Tick) :
    let checked := (check_rollback_for_unchanged_component should_rollback confirmed_tick held).1
    checked.confirmed_at tick = held.confirmed_at tick ∧ checked.predicted = held.predicted := by
  obtain ⟨live,confirmed,predicted⟩ := held
  cases confirmed with
  | none => exact ⟨rfl,rfl⟩
  | some confirmed_history =>
    have marked := confirmed_history.add_unchanged_reads confirmed_tick tick
    cases state : confirmed_history.get_state_at_or_before confirmed_tick with
    | none => simp [check_rollback_for_unchanged_component,state]
    | some last_confirmed_state =>
      cases predicted with
      | none => simpa [check_rollback_for_unchanged_component,state,Held.confirmed_at] using marked
      | some prediction_history =>
        cases retained : prediction_history.get_state confirmed_tick <;>
          simpa [check_rollback_for_unchanged_component,state,retained,Held.confirmed_at] using marked

/-- The check at a completed tick finds what does not agree there. -/
theorem unchanged_check_iff (confirmed_tick : Tick) (held : Held C) :
    (check_rollback_for_unchanged_component should_rollback confirmed_tick held).2 = false ↔
      held.Agrees should_rollback confirmed_tick := by
  obtain ⟨live,confirmed,predicted⟩ := held
  cases confirmed with
  | none => simp [check_rollback_for_unchanged_component,Held.Agrees,Held.confirmed_at]
  | some confirmed_history =>
    cases state : confirmed_history.get_state_at_or_before confirmed_tick with
    | none => simp [check_rollback_for_unchanged_component,state,Held.Agrees,Held.confirmed_at]
    | some last_confirmed_state =>
      cases predicted with
      | none => simp [check_rollback_for_unchanged_component,state,Held.Agrees,Held.predicted_at]
      | some prediction_history =>
        cases retained : prediction_history.get_state confirmed_tick <;>
          simp [check_rollback_for_unchanged_component,state,retained,Held.Agrees,Held.confirmed_at,Held.predicted_at]

section
variable [DecidableEq C] {held : Held C} {confirmed_tick current_tick : Tick} {materialized_initial : Bool}

/-- The check of a received state is made: it is asked for, the tick is not ahead, and prediction goes back to it. -/
def Checkable (held : Held C) (confirmed_tick current_tick : Tick) (check_mismatch : Bool) : Prop :=
  check_mismatch = true ∧ confirmed_tick ≤ current_tick ∧
    ∀ oldest ∈ held.predicted.bind HistoryBuffer.oldest,oldest.1 ≤ confirmed_tick

omit [DecidableEq C] in
private theorem seeded (tick seed_tick : Tick) :
    ((HistoryBuffer.default.add_state seed_tick (.Removed : HistoryState C)).get_state tick).bind HistoryState.value =
      none := by
  by_cases before : seed_tick ≤ tick <;>
    simp [HistoryBuffer.default,HistoryBuffer.add_state,HistoryBuffer.get_state,Sorted.VecDeque.partition_point,before,
      HistoryState.value]

/-- A component that is inserted although it was never predicted is still read as absent. -/
theorem record_predicted (confirmed_component : Option C) (check_mismatch : Bool) (tick : Tick) :
    let recorded := record_confirmed_and_maybe_check should_rollback confirmed_tick confirmed_component held
      check_mismatch
      current_tick materialized_initial
    (recorded.held.predicted_at tick).bind HistoryState.value = (held.predicted_at tick).bind HistoryState.value := by
  simp only [record_confirmed_and_maybe_check,Held.predicted_at]
  split
  next absent =>
    simp only [Bool.and_eq_true,Option.isNone_iff_eq_none] at absent
    rw [absent.1.2,Option.bind_some,seeded]
    rfl
  next => rfl

theorem record_confirmed_at (confirmed_component : Option C) (check_mismatch : Bool) :
    ∃ state : HistoryState C,state.value = confirmed_component ∧
      (record_confirmed_and_maybe_check should_rollback confirmed_tick confirmed_component held check_mismatch
        current_tick
        materialized_initial).held.confirmed_at confirmed_tick = some state := by
  cases confirmed_component <;> exact ⟨_,rfl,ConfirmedHistory.insert_at ..⟩

variable (materialized_initial) in
/-- A received state differs, or it matches the predicted value from then on. -/
theorem record_matches (confirmed_component : Option C) {check_mismatch : Bool}
    (checkable : Checkable held confirmed_tick current_tick check_mismatch) :
    let recorded := record_confirmed_and_maybe_check should_rollback confirmed_tick confirmed_component held
      check_mismatch
      current_tick materialized_initial
    recorded.should_rollback = true ∨ recorded.held.Matches should_rollback confirmed_tick := by
  intro recorded
  obtain ⟨asked,reached,retained⟩ := checkable
  have kept : ((held.predicted.bind HistoryBuffer.oldest).map Prod.fst).any (confirmed_tick < ·) = false := by
    cases isOldest : held.predicted.bind HistoryBuffer.oldest with
    | none => rfl
    | some oldest => simpa using retained oldest isOldest
  have compared : recorded.should_rollback = should_rollback_check should_rollback confirmed_component
      ((held.predicted_at confirmed_tick).bind HistoryState.value) := by
    simp only [recorded,record_confirmed_and_maybe_check,asked,kept,reached,Bool.not_false,decide_true,Bool.and_self,
      if_true,
      Held.predicted_at,Option.bind_assoc]
    rfl
  rw [compared,← record_predicted should_rollback confirmed_component check_mismatch]
  obtain ⟨state,isValue,isConfirmed⟩ := record_confirmed_at should_rollback confirmed_component check_mismatch
  by_cases differs : should_rollback_check should_rollback confirmed_component
      ((recorded.held.predicted_at confirmed_tick).bind HistoryState.value) = true
  · exact .inl differs
  · refine .inr fun confirmed isState => ?_
    obtain rfl := Option.some.inj (isConfirmed.symm.trans isState)
    rw [isValue]
    exact Bool.eq_false_iff.mpr differs

/-- A state that is received for a later tick leaves what matches. -/
theorem record_later {tick : Tick} (confirmed_component : Option C) (check_mismatch : Bool)
    (later : tick < confirmed_tick)
    (matched : held.Matches should_rollback tick) :
    (record_confirmed_and_maybe_check should_rollback confirmed_tick confirmed_component held check_mismatch
      current_tick
      materialized_initial).held.Matches should_rollback tick := by
  intro confirmed isConfirmed
  rw [record_predicted]
  refine matched confirmed ?_
  simp only [record_confirmed_and_maybe_check,Held.confirmed_at,Option.bind_some,Option.mem_def,
    ConfirmedHistory.insert_before _ later] at isConfirmed
  cases stored : held.confirmed with
  | none =>
    rw [stored] at isConfirmed
    exact nomatch isConfirmed
  | some history =>
    rw [stored] at isConfirmed
    rw [Held.confirmed_at,stored]
    exact isConfirmed

end
end Lightyear.Prediction
