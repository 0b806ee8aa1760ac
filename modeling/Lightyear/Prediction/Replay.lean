import Lightyear.ConfirmedHistory
import Lightyear.Prediction.Manager

/-!
A rollback and its replay, `prepare_rollback` and `run_rollback` of `rollback.rs`. Each
replayed tick increments the local tick, snaps the components to their authoritative
samples of that tick, runs the simulation, and records the predictions. So the snap
comes before the step of the tick whose state the sample is.
-/
namespace Lightyear.Prediction
open Message Lightyear.Core

/-- What a system does to a component. -/
inductive Change (C : Type) where
  | keep
  | write (value : C)
  | remove
deriving DecidableEq, Repr

section
variable {C : Type}

/-- A component of an entity in a rollback, with whether the entity is `Predicted` and whether the component is changed
since its history was updated. -/
structure Replayed (C : Type) where
  predicted : Bool
  live : Option C
  is_changed : Bool
  prediction_history : HistoryBuffer C
  confirmed_history : Option (ConfirmedHistory C)

/-- The value after a change. -/
def Change.apply (change : Change C) (live : Option C) : Option C :=
  match change with
  | .keep => live
  | .write value => some value
  | .remove => none

namespace Replayed

/-- A change of the component. A removal that removes something is observed by `apply_component_removal_predicted`. -/
def change (tick : Tick) (change : Change C) (self : Replayed C) : Replayed C :=
  match change with
  | .keep => self
  | .write value => {self with live := some value,is_changed := true}
  | .remove =>
    match self.live with
    | some _ =>
      {self with live := none,is_changed := false,prediction_history := self.prediction_history.add_state tick .Removed}
    | none => self

/-- The state that a rollback restores. -/
def restore_state (is_state_rollback : Bool) (rollback_tick : Tick) (self : Replayed C) : Option (HistoryState C) :=
  if is_state_rollback then
    match self.confirmed_history with
    | some history => history.get_state_at_or_before rollback_tick
    | none => self.prediction_history.get_state rollback_tick
  else self.prediction_history.get_state rollback_tick

/-- The commands run while the local tick is still the current one. -/
def prepare_rollback (is_state_rollback : Bool) (current_tick rollback_tick : Tick) (self : Replayed C) : Replayed C :=
  let restore_state := self.restore_state is_state_rollback rollback_tick
  let predicted_history := self.prediction_history.clear_after_tick rollback_tick
  let predicted_history := match restore_state,self.live with
    | some state,_ => predicted_history.add_state rollback_tick state
    | none,some current => predicted_history.add_state rollback_tick (.Updated current)
    | none,none => predicted_history
  let prepared := {self with prediction_history := predicted_history}
  match restore_state with
  | none => prepared
  | some .Removed => prepared.change current_tick .remove
  | some (.Updated correct) => prepared.change current_tick (.write correct)

def snap_to_confirmed_during_rollback [DecidableEq C] (tick : Tick) (self : Replayed C) : Replayed C :=
  if self.predicted then
    match self.confirmed_history.bind (·.get_state_at tick) with
    | some (.Updated confirmed_value) =>
      if self.live = some confirmed_value then self else self.change tick (.write confirmed_value)
    | some .Removed => self.change tick .remove
    | none => self
  else self

def update_prediction_history (max_rollback_ticks : UInt16) (tick : Tick) (self : Replayed C) : Replayed C :=
  match self.live with
  | none => self
  | some value =>
    let history := if self.is_changed then self.prediction_history.add_state tick (.Updated value)
      else self.prediction_history
    {self with
      is_changed := false
      prediction_history := history.clear_until_tick (tick.sub max_rollback_ticks.toNat)}

end Replayed
end

section
variable {Id : Type} {Value : Id → Type}

/-- The components that a rollback restores, and the local tick. -/
structure Simulation (Value : Id → Type) where
  tick : Tick
  components : (id : Id) → Replayed (Value id)

/-- The simulation of a tick: what it does to each component, from the values of all of them. -/
abbrev Step (Value : Id → Type) := Tick → ((id : Id) → Option (Value id)) → (id : Id) → Change (Value id)

variable [∀ id,DecidableEq (Value id)] (step : Step Value) (max_rollback_ticks : UInt16)

/-- The components of a tick that is about to be simulated. -/
def snapped (self : Simulation Value) (id : Id) : Replayed (Value id) :=
  (self.components id).snap_to_confirmed_during_rollback (self.tick.add 1)

/-- `FixedMain`: the schedules `FixedFirst`, `FixedPreUpdate`, `FixedUpdate` and `FixedPostUpdate`. -/
def fixed_main (self : Simulation Value) : Simulation Value :=
  let tick := self.tick.add 1
  let changes := step tick fun id => (snapped self id).live
  ⟨tick,fun id => ((snapped self id).change tick (changes id)).update_prediction_history max_rollback_ticks tick⟩

def run_rollback (rollback_start_tick : Tick) (self : Simulation Value) : Simulation Value :=
  let num_rollback_ticks := self.tick.diff rollback_start_tick
  (fixed_main step max_rollback_ticks)^[num_rollback_ticks.toNat]
    {self with tick := self.tick.add_signed (-num_rollback_ticks)}

/-- The rollback to a tick, up to the current tick again. -/
def rollback (is_state_rollback : Bool) (rollback_tick : Tick) (self : Simulation Value) : Simulation Value :=
  run_rollback step max_rollback_ticks rollback_tick
    {self with components := fun id => (self.components id).prepare_rollback is_state_rollback self.tick rollback_tick}

end

/-! ### One tick of a component -/

section
variable {C : Type} {held : Replayed C} {tick : Tick}

/-- The history reads the component as it is, or it is about to be recorded. -/
private structure Recordable (held : Replayed C) (tick : Tick) : Prop where
  ordered : held.prediction_history.Ordered
  upTo : held.prediction_history.UpTo tick
  reads : held.is_changed = true ∧ held.live.isSome = true ∨ held.prediction_history.get tick = held.live

namespace Replayed

@[simp] theorem change_live (change : Change C) : (held.change tick change).live = change.apply held.live := by
  cases change with
  | remove => cases live : held.live <;> simp [Replayed.change,Change.apply,live]
  | _ => rfl

@[simp] theorem change_confirmed_history (change : Change C) :
    (held.change tick change).confirmed_history = held.confirmed_history := by
  cases change with
  | remove => cases live : held.live <;> simp [Replayed.change,live]
  | _ => rfl

@[simp] theorem change_predicted (change : Change C) : (held.change tick change).predicted = held.predicted := by
  cases change with
  | remove => cases live : held.live <;> simp [Replayed.change,live]
  | _ => rfl

/-- A snap is a change of the component, and with a sample it leaves the sample. -/
theorem snap_spec [DecidableEq C] (tick : Tick) (held : Replayed C) :
    ∃ change,held.snap_to_confirmed_during_rollback tick = held.change tick change ∧
      (held.predicted = true → ∀ history ∈ held.confirmed_history,∀ state ∈ history.get_state_at tick,
        change.apply held.live = state.value) := by
  unfold snap_to_confirmed_during_rollback
  cases predicted : held.predicted with
  | false => exact ⟨.keep,rfl,fun isPredicted => nomatch isPredicted⟩
  | true =>
    have sample (state : HistoryState C) (history : ConfirmedHistory C) (isHistory : history ∈ held.confirmed_history)
        (isSample : state ∈ history.get_state_at tick) : held.confirmed_history.bind (·.get_state_at tick) =
          some state := by
      rw [Option.mem_def.mp isHistory]
      exact isSample
    cases sampled : held.confirmed_history.bind (·.get_state_at tick) with
    | none =>
      exact ⟨.keep,rfl,fun _ history isHistory state isSample =>
        nomatch sampled.symm.trans (sample state history isHistory isSample)⟩
    | some confirmed_state =>
      have unique : ∀ history ∈ held.confirmed_history,∀ state ∈ history.get_state_at tick,state = confirmed_state :=
        fun history isHistory state isSample =>
          Option.some.inj ((sample state history isHistory isSample).symm.trans sampled)
      cases confirmed_state with
      | Removed =>
        exact ⟨.remove,rfl,fun _ history isHistory state isSample => unique history isHistory state isSample ▸ rfl⟩
      | Updated confirmed_value =>
        by_cases same : held.live = some confirmed_value
        · refine ⟨.keep,by simp [same,Replayed.change],fun _ history isHistory state isSample => ?_⟩
          rw [unique history isHistory state isSample]
          exact same
        · exact ⟨.write confirmed_value,by simp [same],fun _ history isHistory state isSample =>
            unique history isHistory state isSample ▸ rfl⟩

end Replayed

private theorem Recordable.change (recordable : Recordable held tick) (change : Change C) :
    Recordable (held.change tick change) tick ∧
      ∀ other < tick,(held.change tick change).prediction_history.get_state other =
        held.prediction_history.get_state other := by
  cases change with
  | keep => exact ⟨recordable,fun _ _ => rfl⟩
  | write value => exact ⟨⟨recordable.ordered,recordable.upTo,.inl ⟨rfl,rfl⟩⟩,fun _ _ => rfl⟩
  | remove =>
    cases live : held.live with
    | none => simpa [Replayed.change,live] using recordable
    | some value =>
      obtain ⟨ordered,upTo,removed,before⟩ := HistoryBuffer.add_state_spec recordable.ordered recordable.upTo .Removed
      simp only [Replayed.change,live]
      refine ⟨⟨ordered,upTo,.inr ?_⟩,before⟩
      rw [HistoryBuffer.get,removed]
      rfl

/-- The history is updated to read the component as it is, and reads the same at the ticks that are not pruned. -/
private theorem Recordable.update (recordable : Recordable held tick) (max_rollback_ticks : UInt16) :
    let updated := held.update_prediction_history max_rollback_ticks tick
    Recordable updated tick ∧ updated.prediction_history.get tick = updated.live ∧ updated.live = held.live ∧
      ∀ other < tick,tick.sub max_rollback_ticks.toNat ≤ other →
        updated.prediction_history.get_state other = held.prediction_history.get_state other := by
  have past : tick.sub max_rollback_ticks.toNat ≤ tick := by rw [Tick.le_iff,Tick.toNat_sub]; omega
  cases live : held.live with
  | none =>
    have reads : held.prediction_history.get tick = none := by
      rcases recordable.reads with ⟨-,isSome⟩ | reads
      · simp [live] at isSome
      · exact reads.trans live
    simp only [Replayed.update_prediction_history,live]
    exact ⟨recordable,reads,trivial,fun _ _ _ => trivial⟩
  | some value =>
    -- what is pruned has its effective state recorded already
    have prunes {history : HistoryBuffer C} (ordered : history.Ordered) (upTo : history.UpTo tick)
        (reads : history.get tick = some value)
        (before : ∀ other < tick,history.get_state other = held.prediction_history.get_state other) :
        Recordable {held with
          is_changed := false,prediction_history := history.clear_until_tick (tick.sub max_rollback_ticks.toNat)} tick ∧
          (history.clear_until_tick (tick.sub max_rollback_ticks.toNat)).get tick = some value ∧
          ∀ other < tick,tick.sub max_rollback_ticks.toNat ≤ other →
            (history.clear_until_tick (tick.sub max_rollback_ticks.toNat)).get_state other =
              held.prediction_history.get_state other := by
      obtain ⟨pruned,bounded,same⟩ := HistoryBuffer.clear_until_tick_spec ordered (tick.sub max_rollback_ticks.toNat)
      have now : (history.clear_until_tick (tick.sub max_rollback_ticks.toNat)).get tick = some value := by
        rw [HistoryBuffer.get,same tick past,← HistoryBuffer.get,reads]
      exact ⟨⟨pruned,bounded tick past upTo,.inr (now.trans live.symm)⟩,now,
        fun other less kept => (same other kept).trans (before other less)⟩
    simp only [Replayed.update_prediction_history,live]
    split
    next =>
      obtain ⟨ordered,upTo,added,before⟩ :=
        HistoryBuffer.add_state_spec recordable.ordered recordable.upTo (.Updated value)
      obtain ⟨kept,reads,same⟩ := prunes ordered upTo (by rw [HistoryBuffer.get,added]; rfl) before
      exact ⟨live ▸ kept,reads,trivial,same⟩
    next unchanged =>
      have reads : held.prediction_history.get tick = some value := by
        rcases recordable.reads with ⟨changed,-⟩ | reads
        · exact absurd changed unchanged
        · exact reads.trans live
      obtain ⟨kept,reads,same⟩ := prunes recordable.ordered recordable.upTo reads fun _ _ => rfl
      exact ⟨live ▸ kept,reads,trivial,same⟩

/-- What a rollback restores of the component is in its history in the end: the history is in order, no component is
removed while the local tick is still ahead of the target, and an absent component that has no state to restore is not
read as present. -/
structure Restorable (is_state_rollback : Bool) (current_tick rollback_tick : Tick) (held : Replayed C) : Prop where
  ordered : held.prediction_history.Ordered
  removes : held.restore_state is_state_rollback rollback_tick = some .Removed →
    held.live = none ∨ rollback_tick = current_tick
  absent : held.restore_state is_state_rollback rollback_tick = none → held.live = none →
    held.prediction_history.get rollback_tick = none

private theorem prepared_recordable {is_state_rollback : Bool} {current_tick rollback_tick : Tick}
    (restorable : Restorable is_state_rollback current_tick rollback_tick held) :
    let prepared := held.prepare_rollback is_state_rollback current_tick rollback_tick
    Recordable prepared rollback_tick ∧ prepared.prediction_history.get rollback_tick = prepared.live ∧
      ∀ state ∈ held.restore_state is_state_rollback rollback_tick,
        prepared.prediction_history.get_state rollback_tick = some state := by
  obtain ⟨cleared,bounded,same⟩ := HistoryBuffer.clear_after_tick_spec restorable.ordered rollback_tick
  have adds (state : HistoryState C) := HistoryBuffer.add_state_spec cleared bounded state
  have reads (state : HistoryState C) :
      ((held.prediction_history.clear_after_tick rollback_tick).add_state rollback_tick state).get rollback_tick =
        state.value := by
    rw [HistoryBuffer.get,(adds state).2.2.1]
    rfl
  simp only [Replayed.prepare_rollback]
  cases restored : held.restore_state is_state_rollback rollback_tick with
  | none =>
    cases live : held.live with
    | none =>
      have absent : (held.prediction_history.clear_after_tick rollback_tick).get rollback_tick = none := by
        rw [HistoryBuffer.get,same rollback_tick le_rfl]
        exact restorable.absent restored live
      exact ⟨⟨cleared,bounded,.inr absent⟩,absent,fun _ isState => nomatch isState⟩
    | some current =>
      obtain ⟨ordered,upTo,added,-⟩ := adds (.Updated current)
      have seeded := reads (.Updated current)
      exact ⟨⟨ordered,upTo,.inr seeded⟩,seeded,fun _ isState => nomatch isState⟩
  | some restore_state =>
    obtain ⟨ordered,upTo,added,-⟩ := adds restore_state
    cases restore_state with
    | Updated correct =>
      refine ⟨⟨ordered,upTo,.inl ⟨rfl,rfl⟩⟩,reads (.Updated correct),fun state isState => ?_⟩
      cases isState
      exact added
    | Removed =>
      cases live : held.live with
      | none =>
        simp only [Replayed.change]
        refine ⟨⟨ordered,upTo,.inr (reads .Removed)⟩,reads .Removed,fun state isState => ?_⟩
        cases isState
        exact added
      | some value =>
        obtain rfl : rollback_tick = current_tick := (restorable.removes restored).resolve_left (by simp [live])
        simp only [Replayed.change]
        obtain ⟨again,upToAgain,addedAgain,-⟩ := HistoryBuffer.add_state_spec ordered upTo .Removed
        have reads : (((held.prediction_history.clear_after_tick rollback_tick).add_state rollback_tick
          .Removed).add_state
            rollback_tick (.Removed : HistoryState C)).get rollback_tick = none := by
          rw [HistoryBuffer.get,addedAgain]
          rfl
        refine ⟨⟨again,upToAgain,.inr reads⟩,reads,fun state isState => ?_⟩
        cases isState
        exact addedAgain

end

/-! ### The replay -/

section
variable {Id : Type} {Value : Id → Type} [∀ id,DecidableEq (Value id)]
variable (step : Step Value) (max_rollback_ticks : UInt16)

/-- The components when the replay starts, at the rollback target. -/
def prepared (is_state_rollback : Bool) (rollback_tick : Tick) (self : Simulation Value) : Simulation Value :=
  ⟨rollback_tick,fun id => (self.components id).prepare_rollback is_state_rollback self.tick rollback_tick⟩

/-- The replay after some ticks. -/
def replayed (is_state_rollback : Bool) (rollback_tick : Tick) (self : Simulation Value) (ticks : Nat) :
    Simulation Value :=
  (fixed_main step max_rollback_ticks)^[ticks] (prepared is_state_rollback rollback_tick self)

variable {step max_rollback_ticks} {is_state_rollback : Bool} {rollback_tick : Tick} {self : Simulation Value}

theorem replayed_succ (ticks : Nat) :
    replayed step max_rollback_ticks is_state_rollback rollback_tick self (ticks + 1) =
      fixed_main step max_rollback_ticks
        (replayed step max_rollback_ticks is_state_rollback rollback_tick self ticks) :=
  Function.iterate_succ_apply' ..

theorem rollback_eq (past : rollback_tick ≤ self.tick)
    (near : self.tick.toNat - rollback_tick.toNat ≤ max_rollback_ticks.toNat) :
    rollback step max_rollback_ticks is_state_rollback rollback_tick self =
      replayed step max_rollback_ticks is_state_rollback rollback_tick self
        (self.tick.toNat - rollback_tick.toNat) := by
  have small := max_rollback_ticks.toNat_lt
  rw [Tick.le_iff] at past
  have ticks : self.tick.diff rollback_tick = (self.tick.toNat - rollback_tick.toNat : Nat) := by
    unfold Tick.diff
    omega
  have start : self.tick.add_signed (-(self.tick.toNat - rollback_tick.toNat : Nat)) = rollback_tick := by
    have := rollback_tick.isLt
    refine BitVec.eq_of_toNat_eq ?_
    rw [Tick.toNat_add_signed]
    omega
  simp only [rollback,run_rollback,ticks,start,Int.toNat_natCast]
  rfl

theorem replayed_tick {ticks : Nat} (inside : rollback_tick.toNat + ticks < 2 ^ 32) :
    (replayed step max_rollback_ticks is_state_rollback rollback_tick self ticks).tick.toNat =
      rollback_tick.toNat + ticks := by
  induction ticks with
  | zero => rfl
  | succ ticks ih =>
    rw [replayed_succ]
    simp only [fixed_main,Tick.toNat_add,ih (by omega)]
    omega

theorem replayed_confirmed_history (ticks : Nat) (id : Id) :
    ((replayed step max_rollback_ticks is_state_rollback rollback_tick self ticks).components id).confirmed_history =
        (self.components id).confirmed_history ∧
      ((replayed step max_rollback_ticks is_state_rollback rollback_tick self ticks).components id).predicted =
        (self.components id).predicted := by
  have updated {C : Type} (tick : Tick) (held : Replayed C) :
      (held.update_prediction_history max_rollback_ticks tick).confirmed_history = held.confirmed_history ∧
        (held.update_prediction_history max_rollback_ticks tick).predicted = held.predicted := by
    unfold Replayed.update_prediction_history
    split <;> exact ⟨rfl,rfl⟩
  induction ticks with
  | zero =>
    simp only [replayed,Function.iterate_zero,prepared,Replayed.prepare_rollback,id_eq]
    split <;> simp
  | succ ticks ih =>
    obtain ⟨change,isSnap,-⟩ :=
      ((replayed step max_rollback_ticks is_state_rollback rollback_tick self ticks).components id).snap_spec
      ((replayed step max_rollback_ticks is_state_rollback rollback_tick self ticks).tick.add 1)
    rw [replayed_succ]
    simp only [fixed_main,updated,Replayed.change_confirmed_history,Replayed.change_predicted,snapped,isSnap]
    exact ih

variable (step max_rollback_ticks) in
/-- Each tick records the component as it is at the end of the tick, over the history of the ticks before it. -/
private theorem fixed_main_spec {self : Simulation Value} {id : Id}
    (recordable : Recordable (self.components id) self.tick)
    (reads : (self.components id).prediction_history.get self.tick = (self.components id).live)
    (room : self.tick.toNat + 1 < 2 ^ 32) :
    let after := fixed_main step max_rollback_ticks self
    Recordable (after.components id) after.tick ∧
      (after.components id).prediction_history.get after.tick = (after.components id).live ∧
      (after.components id).live = (step after.tick (fun id => (snapped self id).live) id).apply
        (snapped self id).live ∧
      ∀ other ≤ self.tick,after.tick.sub max_rollback_ticks.toNat ≤ other →
        (after.components id).prediction_history.get_state other =
          (self.components id).prediction_history.get_state other := by
  have next : self.tick < self.tick.add 1 := by
    rw [Tick.lt_iff,Tick.toNat_add]
    omega
  have upTo : (self.components id).prediction_history.UpTo (self.tick.add 1) := fun entry member =>
    (recordable.upTo entry member).trans next.le
  have carried : Recordable (self.components id) (self.tick.add 1) := by
    refine ⟨recordable.ordered,upTo,.inr ?_⟩
    rw [← reads,HistoryBuffer.get,HistoryBuffer.get,HistoryBuffer.get_state_upTo recordable.ordered upTo,
      HistoryBuffer.get_state_upTo recordable.ordered recordable.upTo]
  obtain ⟨snap,isSnap,-⟩ := (self.components id).snap_spec (self.tick.add 1)
  obtain ⟨afterSnap,beforeSnap⟩ := carried.change snap
  obtain ⟨afterStep,beforeStep⟩ := afterSnap.change (step (self.tick.add 1) (fun id => (snapped self id).live) id)
  obtain ⟨updated,readsAfter,live,beforeUpdate⟩ := afterStep.update max_rollback_ticks
  have component : (fixed_main step max_rollback_ticks self).components id =
      (((self.components id).change (self.tick.add 1) snap).change (self.tick.add 1)
        (step (self.tick.add 1) (fun id => (snapped self id).live) id)).update_prediction_history max_rollback_ticks
          (self.tick.add 1) := by
    rw [← isSnap]
    rfl
  intro after
  refine ⟨component ▸ updated,component ▸ readsAfter,?_,fun other most kept => ?_⟩
  · rw [component,live,Replayed.change_live,snapped,isSnap]
    rfl
  · rw [component,beforeUpdate other (most.trans_lt next) kept,beforeStep other (most.trans_lt next),
      beforeSnap other (most.trans_lt next)]

variable (step max_rollback_ticks) in
/-- The histories of a replay read each component as it was at the end of each tick. -/
private theorem replayed_reads {id : Id}
    (restorable : Restorable is_state_rollback self.tick rollback_tick (self.components id))
    (past : rollback_tick ≤ self.tick) (near : self.tick.toNat - rollback_tick.toNat ≤ max_rollback_ticks.toNat)
    {ticks : Nat}
    (inside : ticks ≤ self.tick.toNat - rollback_tick.toNat) :
    let at_tick := replayed step max_rollback_ticks is_state_rollback rollback_tick self
    Recordable ((at_tick ticks).components id) (at_tick ticks).tick ∧
      ((at_tick ticks).components id).prediction_history.get (at_tick ticks).tick =
        ((at_tick ticks).components id).live ∧
      ∀ earlier ≤ ticks,((at_tick ticks).components id).prediction_history.get_state (at_tick earlier).tick =
        ((at_tick earlier).components id).prediction_history.get_state (at_tick earlier).tick := by
  intro at_tick
  have small := self.tick.isLt
  rw [Tick.le_iff] at past
  induction ticks with
  | zero =>
    obtain ⟨recordable,reads,-⟩ := prepared_recordable restorable
    exact ⟨recordable,reads,fun earlier most => by rw [Nat.le_zero.mp most]⟩
  | succ ticks ih =>
    obtain ⟨recordable,reads,same⟩ := ih (by omega)
    have place : (at_tick ticks).tick.toNat = rollback_tick.toNat + ticks := replayed_tick (by omega)
    obtain ⟨next,readsNext,-,kept⟩ := fixed_main_spec step max_rollback_ticks recordable reads (by omega)
    have isNext : at_tick (ticks + 1) = fixed_main step max_rollback_ticks (at_tick ticks) := replayed_succ ticks
    refine ⟨isNext ▸ next,isNext ▸ readsNext,fun earlier most => ?_⟩
    by_cases last : earlier = ticks + 1
    · rw [last]
    · have before : (at_tick earlier).tick.toNat = rollback_tick.toNat + earlier := replayed_tick (by omega)
      rw [← same earlier (by omega),isNext]
      refine kept _ ?_ ?_
      · rw [Tick.le_iff]
        omega
      · rw [Tick.le_iff,Tick.toNat_sub,before]
        simp only [fixed_main,Tick.toNat_add,place]
        omega

end

section
variable {Id : Type} {Value : Id → Type} [∀ id,DecidableEq (Value id)] (step : Step Value) (max_rollback_ticks : UInt16)
variable (is_state_rollback : Bool) (rollback_tick : Tick) (self : Simulation Value) (id : Id)

/-- In the end the history has the authoritative state at the target of a state rollback, and at each later tick with a
sample that sample. -/
def Honours : Prop :=
  ∀ history ∈ (self.components id).confirmed_history,
    let after := ((rollback step max_rollback_ticks is_state_rollback rollback_tick self).components
      id).prediction_history
    (is_state_rollback = true → ∀ state ∈ history.get_state_at_or_before rollback_tick,after.get_state rollback_tick =
      some state) ∧
      ∀ tick,rollback_tick < tick → tick ≤ self.tick → ∀ state ∈ history.get_state_at tick,after.get tick = state.value

/-- The step of each replayed tick with a sample leaves the component as it was snapped. -/
def StepKeepsSamples : Prop :=
  ∀ history ∈ (self.components id).confirmed_history,
    ∀ tick,rollback_tick < tick → tick ≤ self.tick → ∀ state ∈ history.get_state_at tick,
      let before := replayed step max_rollback_ticks is_state_rollback rollback_tick self
        (tick.toNat - rollback_tick.toNat - 1)
      (step tick (fun id => (snapped before id).live) id).apply state.value = state.value

variable {step max_rollback_ticks is_state_rollback rollback_tick self id}

/-- At the end of the replay the history reads what the step of a tick with a sample left of the sample. -/
private theorem samples_stepped (predicted : (self.components id).predicted = true)
    (restorable : Restorable is_state_rollback self.tick rollback_tick (self.components id))
    (past : rollback_tick ≤ self.tick)
    (near : self.tick.toNat - rollback_tick.toNat ≤ max_rollback_ticks.toNat)
    {history : ConfirmedHistory (Value id)} (isHistory : history ∈ (self.components id).confirmed_history)
    {tick : Tick} (later : rollback_tick < tick) (most : tick ≤ self.tick) {state : HistoryState (Value id)}
    (isState : state ∈ history.get_state_at tick) :
    let before := replayed step max_rollback_ticks is_state_rollback rollback_tick self
      (tick.toNat - rollback_tick.toNat - 1)
    ((rollback step max_rollback_ticks is_state_rollback rollback_tick self).components id).prediction_history.get
      tick =
      (step tick (fun id => (snapped before id).live) id).apply state.value := by
  have small := self.tick.isLt
  rw [Tick.lt_iff] at later
  rw [Tick.le_iff] at most
  obtain ⟨ticks,isTicks⟩ : ∃ ticks,tick.toNat = rollback_tick.toNat + (ticks + 1) :=
    ⟨tick.toNat - rollback_tick.toNat - 1,by omega⟩
  have isBefore : tick.toNat - rollback_tick.toNat - 1 = ticks := by omega
  rw [isBefore]
  intro before
  have inside : ticks + 1 ≤ self.tick.toNat - rollback_tick.toNat := by omega
  have place : before.tick.toNat = rollback_tick.toNat + ticks := replayed_tick (by omega)
  have isTick : before.tick.add 1 = tick := by
    refine BitVec.eq_of_toNat_eq ?_
    rw [Tick.toNat_add,place]
    omega
  have isNext : replayed step max_rollback_ticks is_state_rollback rollback_tick self (ticks + 1) =
      fixed_main step max_rollback_ticks before := replayed_succ ticks
  obtain ⟨recordable,reads,-⟩ := replayed_reads step max_rollback_ticks restorable past near (Nat.le_of_succ_le inside)
  obtain ⟨-,readsNext,live,-⟩ := fixed_main_spec step max_rollback_ticks recordable reads (by rw [place]; omega)
  obtain ⟨-,-,atEnd⟩ := replayed_reads step max_rollback_ticks restorable past near le_rfl
  -- the step starts from the sample
  have fromSample : (snapped before id).live = state.value := by
    obtain ⟨snap,isSnap,samples⟩ := (before.components id).snap_spec (before.tick.add 1)
    obtain ⟨sameHistory,samePredicted⟩ : (before.components id).confirmed_history =
      (self.components id).confirmed_history ∧
      (before.components id).predicted = (self.components id).predicted := replayed_confirmed_history ticks id
    rw [snapped,isSnap,Replayed.change_live]
    exact samples (samePredicted.trans predicted) history (sameHistory ▸ isHistory) state (isTick ▸ isState)
  have isAfter : (fixed_main step max_rollback_ticks before).tick = tick := isTick
  have recorded := atEnd (ticks + 1) inside
  rw [isNext,isAfter] at recorded
  rw [isAfter] at readsNext live
  rw [rollback_eq past near,HistoryBuffer.get,recorded]
  exact readsNext.trans (live.trans (congrArg _ fromSample))

/-- A replay honours the authoritative states of a component that it can restore exactly if no step of a tick with a
sample moves the component away from it. -/
theorem replay_honours_iff (predicted : (self.components id).predicted = true)
    (restorable : Restorable is_state_rollback self.tick rollback_tick (self.components id))
    (past : rollback_tick ≤ self.tick)
    (near : self.tick.toNat - rollback_tick.toNat ≤ max_rollback_ticks.toNat) :
    Honours step max_rollback_ticks is_state_rollback rollback_tick self id ↔
      StepKeepsSamples step max_rollback_ticks is_state_rollback rollback_tick self id := by
  constructor
  · intro honours history isHistory tick later most state isState
    have read := (honours history isHistory).2 tick later most state isState
    exact (samples_stepped predicted restorable past near isHistory later most isState).symm.trans read
  · intro keeps history isHistory
    refine ⟨fun stateRollback state isState => ?_,fun tick later most state isState => ?_⟩
    · -- the state at the target is in the history before the first tick
      obtain ⟨-,-,seeded⟩ := prepared_recordable restorable
      obtain ⟨-,-,atEnd⟩ := replayed_reads step max_rollback_ticks restorable past near le_rfl
      rw [rollback_eq past near]
      refine (atEnd 0 (Nat.zero_le _)).trans (seeded state ?_)
      simpa [Replayed.restore_state,stateRollback,Option.mem_def.mp isHistory] using isState
    · rw [samples_stepped predicted restorable past near isHistory later most isState]
      exact keeps history isHistory tick later most state isState

end

/-- A counter at tick 3, with authoritative states of ticks 1 and 2. -/
private def counter : Simulation fun _ : Unit => Nat :=
  ⟨3,fun _ => ⟨true,some 5,false,⟨[(0,.Updated 5)]⟩,
    some ⟨[(1,.Explicit (.Updated 10)),(2,.Explicit (.Updated 20))],by decide⟩⟩⟩

private theorem counter_restorable : Restorable true counter.tick 1 (counter.components ()) where
  ordered := by decide
  removes := fun restored => absurd restored (by decide)
  absent := fun _ absent => nomatch absent

/-- Nothing moves the counter. -/
theorem replay_honours_still : Honours (fun _ _ _ => .keep) 100 true 1 counter () :=
  (replay_honours_iff rfl counter_restorable (by decide) (by decide)).mpr fun _ _ _ _ _ _ _ => rfl

/-- The counter is incremented at each tick: the step of tick 2 starts from the state that the server had at its end. -/
theorem sample_stepped_again :
    ¬∀ (step : Step fun _ : Unit => Nat) (max_rollback_ticks : UInt16) (rollback_tick : Tick)
      (self : Simulation fun _ => Nat),
      (self.components ()).predicted = true → Restorable true self.tick rollback_tick (self.components ()) →
        rollback_tick ≤ self.tick → self.tick.toNat - rollback_tick.toNat ≤ max_rollback_ticks.toNat →
          Honours step max_rollback_ticks true rollback_tick self () := by
  intro honours
  have replayed := honours (fun _ values _ => .write ((values ()).getD 0 + 1)) 100 1 counter rfl counter_restorable
    (by decide) (by decide) _ rfl
  have atTwo : _ = some 20 := replayed.2 2 (by decide) (by decide) (.Updated 20) (by decide)
  exact absurd atTwo (by decide)

end Lightyear.Prediction
