import Lightyear.Tick
import Lightyear.EntityMap

/-!
The resources of prediction, `manager.rs`.
-/
namespace Lightyear.Prediction
open Message
open EntityMap (Entity)

/-- The earlier of a tick that is kept already, if there is one, and another. -/
def earlier (kept : Option Tick) (tick : Tick) : Option Tick :=
  match kept with
  | none => some tick
  | some existing => if tick < existing then some tick else some existing

/-- The checks of entities whose update was ahead of the local timeline, by the tick of the update. -/
structure PendingEntityStateChecks where
  by_tick : List (Tick × Entity)
deriving DecidableEq, Repr

namespace PendingEntityStateChecks

def default : PendingEntityStateChecks := ⟨[]⟩

def record (self : PendingEntityStateChecks) (tick : Tick) (entity : Entity) : PendingEntityStateChecks :=
  ⟨self.by_tick ++ [(tick,entity)]⟩

/-- Takes the entities whose update can be checked now, with the checks that are left. -/
def take_through (self : PendingEntityStateChecks) (completed_tick : Tick) : List Entity × PendingEntityStateChecks :=
  ((self.by_tick.filter (·.1 ≤ completed_tick)).map Prod.snd,⟨self.by_tick.filter (completed_tick < ·.1)⟩)

end PendingEntityStateChecks

inductive RollbackMode where
  | Always
  | Check
  | Disabled
deriving DecidableEq, Repr

structure RollbackPolicy where
  state : RollbackMode
  input : RollbackMode
  max_rollback_ticks : UInt16
deriving DecidableEq, Repr

namespace RollbackPolicy

def default : RollbackPolicy := ⟨.Check,.Check,20⟩

/-- Zero `maximum_predicted_ticks` denote lockstep, which does not bound a rollback. -/
def effective_max_rollback_ticks (self : RollbackPolicy) (maximum_predicted_ticks : UInt16) : UInt16 :=
  if maximum_predicted_ticks = 0 then self.max_rollback_ticks else min self.max_rollback_ticks maximum_predicted_ticks

end RollbackPolicy

inductive RollbackState where
  | Default
  | RollbackStart (tick : Tick)
deriving DecidableEq, Repr

structure EarliestMismatchedInput where
  tick : Tick
  has_mismatches : Bool
deriving DecidableEq, Repr

structure PredictionManager where
  rollback_policy : RollbackPolicy
  earliest_mismatch_input : EarliestMismatchedInput
  input_rollback_floor : Option Tick
  pending_entity_state_checks : PendingEntityStateChecks
  rollback : RollbackState
deriving DecidableEq, Repr

namespace PredictionManager

def default : PredictionManager := ⟨.default,⟨.MAX,false⟩,none,.default,.Default⟩

def input_rollback_is_allowed (self : PredictionManager) (rollback_tick : Tick) : Bool :=
  self.input_rollback_floor.all (· ≤ rollback_tick)

def is_rollback (self : PredictionManager) : Bool := self.rollback != .Default

def set_non_rollback (self : PredictionManager) : PredictionManager := {self with rollback := .Default}

def set_rollback_tick (self : PredictionManager) (tick : Tick) : PredictionManager :=
  {self with rollback := .RollbackStart tick}

end PredictionManager

structure StateRollbackMetadata where
  last_processed_tick : Option Tick
  earliest_pending_mismatch_tick : Option Tick
  received_messages_this_frame : Bool
  forced_rollback_tick : Option Tick
deriving DecidableEq, Repr

namespace StateRollbackMetadata

def default : StateRollbackMetadata := ⟨none,none,false,none⟩

def record_mismatch (self : StateRollbackMetadata) (tick : Tick) : StateRollbackMetadata :=
  {self with earliest_pending_mismatch_tick := earlier self.earliest_pending_mismatch_tick tick}

def pending_mismatch_at_or_before (self : StateRollbackMetadata) (completed_tick : Tick) : Option Tick :=
  self.earliest_pending_mismatch_tick.filter (· ≤ completed_tick)

/-- An update before the last processed tick is not checked, nor one that is not before a pending mismatch. -/
def should_check_mismatch_at (self : StateRollbackMetadata) (tick : Tick) : Bool :=
  if self.last_processed_tick.any (tick < ·) then false
  else self.earliest_pending_mismatch_tick.all (tick < ·)

def request_forced_rollback (self : StateRollbackMetadata) (tick : Tick) : StateRollbackMetadata :=
  {self with forced_rollback_tick := earlier self.forced_rollback_tick tick}

def reset_connection_state (_ : StateRollbackMetadata) : StateRollbackMetadata := .default

def reset_frame_state (self : StateRollbackMetadata) : StateRollbackMetadata :=
  {self with received_messages_this_frame := false}

def clear_mismatch_history (self : StateRollbackMetadata) : StateRollbackMetadata :=
  {self with earliest_pending_mismatch_tick := none}

def set_last_processed_tick (self : StateRollbackMetadata) (tick : Tick) : StateRollbackMetadata :=
  {self with last_processed_tick := some tick}

def has_confirmed_tick_advanced (self : StateRollbackMetadata) (current_tick : Tick) : Bool :=
  match self.last_processed_tick with
  | none => true
  | some last => last < current_tick

end StateRollbackMetadata

/-- A mismatch of a tick is kept: the earliest one is of that tick or before it. -/
def StateRollbackMetadata.Keeps (self : StateRollbackMetadata) (mismatch : Tick) : Prop :=
  ∃ pending ∈ self.earliest_pending_mismatch_tick, pending ≤ mismatch

theorem earlier_le (kept : Option Tick) (tick : Tick) : ∃ first ∈ earlier kept tick, first ≤ tick := by
  cases kept with
  | none => exact ⟨tick,rfl,le_rfl⟩
  | some existing =>
    by_cases before : tick < existing
    · exact ⟨tick,if_pos before,le_rfl⟩
    · exact ⟨existing,if_neg before,not_lt.mp before⟩

theorem earlier_le_kept {kept : Option Tick} {existing : Tick} (isKept : existing ∈ kept) (tick : Tick) :
    ∃ first ∈ earlier kept tick, first ≤ existing := by
  obtain rfl : kept = some existing := isKept
  by_cases before : tick < existing
  · exact ⟨tick,if_pos before,before.le⟩
  · exact ⟨existing,if_neg before,le_rfl⟩

namespace StateRollbackMetadata
variable {self : StateRollbackMetadata} {mismatch : Tick}

theorem keeps_record_mismatch (self : StateRollbackMetadata) (tick : Tick) : (self.record_mismatch tick).Keeps tick :=
  earlier_le _ tick

theorem Keeps.record_mismatch (keeps : self.Keeps mismatch) (tick : Tick) :
    (self.record_mismatch tick).Keeps mismatch := by
  obtain ⟨pending,isPending,most⟩ := keeps
  obtain ⟨first,isFirst,less⟩ := earlier_le_kept isPending tick
  exact ⟨first,isFirst,less.trans most⟩

theorem pending_mismatch_at_or_before_eq_none :
    self.pending_mismatch_at_or_before mismatch = none ↔ ¬self.Keeps mismatch := by
  unfold pending_mismatch_at_or_before Keeps
  cases self.earliest_pending_mismatch_tick <;> simp [Option.filter]

end StateRollbackMetadata
end Lightyear.Prediction
