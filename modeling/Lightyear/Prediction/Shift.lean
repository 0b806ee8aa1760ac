import Lightyear.Prediction.Lifetimes

/-!
The jump of the local timeline, `LocalTimelineShift`. The observers move the local tick,
the prediction histories and the ticks of prespawned entities. The queues of
`PredictionManager` and the ticks of `PredictionDisable` have none.
-/
namespace Lightyear.Prediction
open Message Lightyear.Core Sorted
open EntityMap (Entity)

/-- The tick can be shifted without saturating. -/
def Fits (delta : Int) (tick : Tick) : Prop := 0 ≤ tick.toNat + delta ∧ tick.toNat + delta < 2 ^ 32

instance (delta : Int) (tick : Tick) : Decidable (Fits delta tick) := inferInstanceAs (Decidable (_ ∧ _))

/-- Entries at ticks, shifted. -/
def shift_entries {α : Type} (delta : Int) (entries : List (Tick × α)) : List (Tick × α) :=
  entries.map fun entry => (entry.1.add_signed delta,entry.2)

/-- Entries whose ticks can all be shifted. -/
def EntriesFit {α : Type} (delta : Int) (entries : List (Tick × α)) : Prop := ∀ entry ∈ entries,Fits delta entry.1

section
variable {delta : Int} {a b : Tick}

theorem Fits.toNat (fits : Fits delta a) : ((a.add_signed delta).toNat : Int) = a.toNat + delta := by
  obtain ⟨low,high⟩ := fits
  rw [Tick.toNat_add_signed]
  omega

theorem Fits.lt_iff (fitsA : Fits delta a) (fitsB : Fits delta b) :
    a.add_signed delta < b.add_signed delta ↔ a < b := by
  have shiftedA := fitsA.toNat
  have shiftedB := fitsB.toNat
  rw [Tick.lt_iff,Tick.lt_iff]
  omega

theorem Fits.le_iff (fitsA : Fits delta a) (fitsB : Fits delta b) :
    a.add_signed delta ≤ b.add_signed delta ↔ a ≤ b := by
  rw [← not_lt,← not_lt,fitsB.lt_iff fitsA]

theorem Fits.eq_iff (fitsA : Fits delta a) (fitsB : Fits delta b) :
    a.add_signed delta = b.add_signed delta ↔ a = b := by
  rw [le_antisymm_iff,le_antisymm_iff,fitsA.le_iff fitsB,fitsB.le_iff fitsA]

theorem Fits.diff (fitsA : Fits delta a) (fitsB : Fits delta b) :
    (a.add_signed delta).diff (b.add_signed delta) = a.diff b := by
  unfold Tick.diff
  rw [fitsA.toNat,fitsB.toNat]
  omega

/-- What is below a tick some ticks ago, with no ticks before the first. -/
theorem Fits.lt_sub_iff (fitsA : Fits delta a) (fitsB : Fits delta b) (ticks : Nat) :
    a.add_signed delta < (b.add_signed delta).sub ticks ↔ a < b.sub ticks := by
  have shiftedA := fitsA.toNat
  have shiftedB := fitsB.toNat
  rw [Tick.lt_iff,Tick.lt_iff,Tick.toNat_sub,Tick.toNat_sub]
  obtain ⟨low,-⟩ := fitsA
  omega

theorem Fits.add {ticks : Nat} (room : a.toNat + ticks < 2 ^ 32) (fits : Fits delta a)
    (later : a.toNat + delta + ticks < 2 ^ 32) :
    (a.add ticks).add_signed delta = (a.add_signed delta).add ticks := by
  have shifted := fits.toNat
  have low := fits.1
  refine BitVec.eq_of_toNat_eq ?_
  rw [Tick.toNat_add_signed,Tick.toNat_add,Tick.toNat_add]
  omega

theorem Fits.eq_self (fits : Fits delta a) (same : a.add_signed delta = a) : delta = 0 := by
  have shifted := fits.toNat
  rw [same] at shifted
  omega

end

section
variable {α : Type} {delta : Int} {entries : List (Tick × α)}

/-- A test that a shift does not change selects the same entries. -/
theorem filter_shift {test shifted : Tick × α → Bool}
    (same : ∀ entry ∈ entries,shifted (entry.1.add_signed delta,entry.2) = test entry) :
    (shift_entries delta entries).filter shifted = shift_entries delta (entries.filter test) := by
  simp only [shift_entries,List.filter_map]
  exact congrArg _ (List.filter_congr fun entry member => same entry member)

theorem partition_point_shift {test shifted : Tick × α → Bool}
    (same : ∀ entry ∈ entries,shifted (entry.1.add_signed delta,entry.2) = test entry) :
    VecDeque.partition_point shifted (shift_entries delta entries) = VecDeque.partition_point test entries := by
  induction entries with
  | nil => rfl
  | cons entry entries ih =>
    have rest := ih fun entry member => same entry (List.mem_cons_of_mem _ member)
    unfold VecDeque.partition_point at rest ⊢
    simp only [shift_entries,List.map_cons,List.takeWhile_cons,same entry List.mem_cons_self] at rest ⊢
    split
    · exact congrArg (· + 1) rest
    · rfl

@[simp] theorem take_shift (count : Nat) :
    (shift_entries delta entries).take count = shift_entries delta (entries.take count) := by
  simp [shift_entries,List.map_take]

@[simp] theorem drop_shift (count : Nat) :
    (shift_entries delta entries).drop count = shift_entries delta (entries.drop count) := by
  simp [shift_entries,List.map_drop]

@[simp] theorem seconds_shift : (shift_entries delta entries).map Prod.snd = entries.map Prod.snd := by
  simp [shift_entries]

@[simp] theorem append_shift (more : List (Tick × α)) :
    shift_entries delta (entries ++ more) = shift_entries delta entries ++ shift_entries delta more := by
  simp [shift_entries]

@[simp] theorem singleton_shift (tick : Tick) (value : α) :
    shift_entries delta [(tick,value)] = [(tick.add_signed delta,value)] := rfl

@[simp] theorem nil_shift : shift_entries delta ([] : List (Tick × α)) = [] := rfl

theorem EntriesFit.sublist {fewer : List (Tick × α)} (fits : EntriesFit delta entries) (sub : fewer.Sublist entries) :
    EntriesFit delta fewer := fun entry member => fits entry (sub.subset member)

theorem EntriesFit.append {more : List (Tick × α)} (fits : EntriesFit delta entries) (moreFit : EntriesFit delta more) :
    EntriesFit delta (entries ++ more) :=
      fun entry member => (List.mem_append.mp member).elim (fits entry) (moreFit entry)

theorem EntriesFit.singleton {tick : Tick} (fits : Fits delta tick) (value : α) : EntriesFit delta [(tick,value)] := by
  intro entry member
  rw [List.mem_singleton.mp member]
  exact fits

/-- Only what is empty does not move. -/
theorem shift_entries_eq_self (fits : EntriesFit delta entries) (same : shift_entries delta entries = entries) :
    delta = 0 ∨ entries = [] := by
  cases entries with
  | nil => exact .inr rfl
  | cons entry entries =>
    have first := congrArg Prod.fst (List.cons.inj same).1
    exact .inl ((fits entry List.mem_cons_self).eq_self first)

end

/-! ### Shifted histories -/

/-- Two entries that follow each other are of different ticks. -/
def Changes {R : Type} (history : HistoryBuffer R) : Prop := history.buffer.IsChain (·.1 ≠ ·.1)

section
variable {R : Type} {delta : Int} {history : HistoryBuffer R} {tick : Tick}

theorem get_state_shift (fits : EntriesFit delta history.buffer) (now : Fits delta tick) :
    (history.update_ticks delta).get_state (tick.add_signed delta) = history.get_state tick := by
  have same : VecDeque.partition_point (·.1 ≤ tick.add_signed delta) (history.update_ticks delta).buffer =
      VecDeque.partition_point (·.1 ≤ tick) history.buffer :=
    partition_point_shift fun entry member => decide_eq_decide.mpr ((fits entry member).le_iff now)
  unfold HistoryBuffer.get_state
  rw [same]
  split
  · rfl
  · simp [HistoryBuffer.update_ticks,Function.comp_def]

theorem add_state_shift (fits : EntriesFit delta history.buffer) (now : Fits delta tick) (state : HistoryState R) :
    (history.update_ticks delta).add_state (tick.add_signed delta) state =
      (history.add_state tick state).update_ticks delta := by
  unfold HistoryBuffer.add_state
  cases last : history.buffer.getLast? with
  | none => simp [HistoryBuffer.update_ticks,last]
  | some entry =>
    have stored : entry ∈ history.buffer := List.mem_of_getLast? last
    simp only [HistoryBuffer.update_ticks,List.getLast?_map,last,Option.map_some,(fits entry stored).eq_iff now]
    split <;> simp [List.map_dropLast]

theorem clear_after_tick_shift (fits : EntriesFit delta history.buffer) (now : Fits delta tick) :
    (history.update_ticks delta).clear_after_tick (tick.add_signed delta) =
      (history.clear_after_tick tick).update_ticks delta := by
  have same : VecDeque.partition_point (·.1 ≤ tick.add_signed delta) (history.update_ticks delta).buffer =
      VecDeque.partition_point (·.1 ≤ tick) history.buffer :=
    partition_point_shift fun entry member => decide_eq_decide.mpr ((fits entry member).le_iff now)
  unfold HistoryBuffer.clear_after_tick
  rw [same]
  simp [HistoryBuffer.update_ticks,List.map_take]

/-- There is nothing to forget before the first tick. -/
theorem clear_until_first (changes : Changes history) (first : ∀ entry ∈ history.buffer,tick ≤ entry.1) :
    history.clear_until_tick tick = history := by
  obtain ⟨buffer⟩ := history
  unfold HistoryBuffer.clear_until_tick VecDeque.partition_point
  match buffer with
  | [] => rfl
  | (start,state) :: rest =>
    have low : tick ≤ start := first (start,state) List.mem_cons_self
    by_cases most : start ≤ tick
    · obtain rfl := le_antisymm most low
      have next : rest.takeWhile (·.1 ≤ start) = [] := by
        cases rest with
        | nil => rfl
        | cons second rest =>
          have differs : start ≠ second.1 := (List.isChain_cons_cons.mp changes).1
          have later : start ≤ second.1 := first second (by simp)
          simp [lt_of_le_of_ne later differs]
      simp [next]
    · simp [most]

theorem Changes.shift (changes : Changes history) (fits : EntriesFit delta history.buffer) :
    Changes (history.update_ticks delta) := by
  refine (List.isChain_map _).mpr (changes.imp_of_mem_imp ?_)
  rintro a b memberA memberB differ same
  exact differ (((fits a memberA).eq_iff (fits b memberB)).mp same)

/-- Histories are pruned some ticks before the local tick. -/
theorem clear_until_tick_shift (fits : EntriesFit delta history.buffer) (changes : Changes history)
    (now : Fits delta tick) (ticks : Nat) :
    (history.update_ticks delta).clear_until_tick ((tick.add_signed delta).sub ticks) =
      (history.clear_until_tick (tick.sub ticks)).update_ticks delta := by
  have shifted := now.toNat
  have size := tick.isLt
  have entryAfter : ∀ entry ∈ (history.update_ticks delta).buffer,∃ before ∈ history.buffer,before.1.add_signed delta =
      entry.1 := by
    intro entry member
    obtain ⟨before,isBefore,rfl⟩ := List.mem_map.mp member
    exact ⟨before,isBefore,rfl⟩
  by_cases room : ticks ≤ tick.toNat ∧ (ticks : Int) ≤ tick.toNat + delta
  · -- the tick up to which the history is pruned is shifted too
    have prunes : Fits delta (tick.sub ticks) := by
      rw [Fits,Tick.toNat_sub]
      omega
    have moved : (tick.add_signed delta).sub ticks = (tick.sub ticks).add_signed delta := by
      refine BitVec.eq_of_toNat_eq ?_
      have := prunes.toNat
      rw [Tick.toNat_sub] at this ⊢
      omega
    have same : VecDeque.partition_point (·.1 ≤ (tick.sub ticks).add_signed delta) (history.update_ticks delta).buffer =
        VecDeque.partition_point (·.1 ≤ tick.sub ticks) history.buffer :=
      partition_point_shift fun entry member => decide_eq_decide.mpr ((fits entry member).le_iff prunes)
    unfold HistoryBuffer.clear_until_tick
    rw [moved,same]
    split
    · rfl
    · next kept _ =>
      simp only [HistoryBuffer.update_ticks,← List.map_drop]
      cases history.buffer.drop kept <;> rfl
  · -- one of them would be before the first tick
    have before (entry : Tick × HistoryState R) (member : entry ∈ history.buffer) : tick.sub ticks ≤ entry.1 ∧
        (tick.add_signed delta).sub ticks ≤ entry.1.add_signed delta := by
      obtain ⟨low,-⟩ := fits entry member
      have := (fits entry member).toNat
      rw [Tick.le_iff,Tick.le_iff,Tick.toNat_sub,Tick.toNat_sub]
      omega
    rw [clear_until_first changes fun entry member => (before entry member).1,
      clear_until_first (changes.shift fits) fun entry member => ?_]
    obtain ⟨unshifted,isUnshifted,same⟩ := entryAfter entry member
    exact same ▸ (before unshifted isUnshifted).2

/-- A history that can be shifted. -/
structure Movable (delta : Int) (history : HistoryBuffer R) : Prop where
  ticks : EntriesFit delta history.buffer
  changes : Changes history

theorem movable_default : Movable delta (HistoryBuffer.default : HistoryBuffer R) :=
  ⟨fun _ member => (nomatch member),List.isChain_nil⟩

theorem Movable.add_state (movable : Movable delta history) (now : Fits delta tick) (state : HistoryState R) :
    Movable delta (history.add_state tick state) := by
  obtain ⟨buffer⟩ := history
  obtain ⟨ticks,changes⟩ := movable
  unfold HistoryBuffer.add_state
  rcases List.eq_nil_or_concat buffer with rfl | ⟨front,⟨last_tick,last⟩,rfl⟩
  · exact ⟨EntriesFit.singleton now state,List.isChain_singleton _⟩
  · rw [List.concat_eq_append] at ticks changes ⊢
    obtain ⟨frontChanges,-,toLast⟩ := List.isChain_append.mp changes
    simp only [List.getLast?_append,List.getLast?_singleton,Option.some_or,List.dropLast_concat]
    split
    · next same =>
      subst same
      refine ⟨(ticks.sublist (List.sublist_append_left ..)).append (EntriesFit.singleton now state),?_⟩
      refine List.isChain_append.mpr ⟨frontChanges,List.isChain_singleton _,fun a isLast b isState => ?_⟩
      cases isState
      exact toLast a isLast (last_tick,last) rfl
    · next differs =>
      refine ⟨ticks.append (EntriesFit.singleton now state),
        List.isChain_append.mpr ⟨changes,List.isChain_singleton _,?_⟩⟩
      intro a isLast b isState
      cases isState
      simp only [List.getLast?_append,List.getLast?_singleton,Option.some_or,Option.mem_def,Option.some.injEq] at isLast
      exact isLast ▸ differs

theorem Movable.clear_after_tick (movable : Movable delta history) : Movable delta (history.clear_after_tick tick) :=
  ⟨movable.ticks.sublist (List.take_sublist ..),movable.changes.take _⟩

theorem Movable.clear_until_tick (movable : Movable delta history) (now : Fits delta tick) (ticks : Nat) :
    Movable delta (history.clear_until_tick (tick.sub ticks)) := by
  unfold HistoryBuffer.clear_until_tick
  split
  · exact movable
  · next kept isKept =>
    -- the state that is kept is of the tick, or of one before it
    obtain ⟨entry,rest,isRest,most,next⟩ := VecDeque.partition_point_succ isKept
    have stored : (entry :: rest).Sublist history.buffer := isRest ▸ List.drop_sublist ..
    have fits := movable.ticks.sublist stored
    rw [isRest]
    constructor
    · intro other member
      rcases List.mem_cons.mp member with rfl | inRest
      · have low := (fits entry List.mem_cons_self).1
        have high := now.2
        have past := of_decide_eq_true most
        rw [Tick.le_iff] at past
        rw [Tick.toNat_sub] at past
        rw [Fits,Tick.toNat_sub]
        omega
      · exact fits other (List.mem_cons_of_mem _ inRest)
    · have chain : (entry :: rest).IsChain (·.1 ≠ ·.1) := isRest ▸ movable.changes.drop _
      refine List.isChain_cons.mpr ⟨fun later isLater => ?_,chain.tail⟩
      have beyond := of_decide_eq_false (next later isLater)
      exact fun same => beyond same.ge

end

/-! ### Shifted components -/

def Replayed.shift {C : Type} (delta : Int) (self : Replayed C) : Replayed C :=
  {self with prediction_history := self.prediction_history.update_ticks delta}

/-- Of two components one is the other, shifted. -/
def Replayed.Shifted {C : Type} (delta : Int) (self shifted : Replayed C) : Prop :=
  Movable delta self.prediction_history ∧ shifted = self.shift delta

namespace Replayed
section
variable {C : Type} {delta : Int} {self shifted : Replayed C} {tick : Tick}

theorem Shifted.change (same : Shifted delta self shifted) (now : Fits delta tick) (change : Change C) :
    Shifted delta (self.change tick change) (shifted.change (tick.add_signed delta) change) := by
  obtain ⟨movable,rfl⟩ := same
  obtain ⟨predicted,live,is_changed,history,confirmed_history⟩ := self
  cases change with
  | keep => exact ⟨movable,rfl⟩
  | write value => exact ⟨movable,rfl⟩
  | remove =>
    cases live with
    | none => exact ⟨movable,rfl⟩
    | some value =>
      refine ⟨movable.add_state now .Removed,?_⟩
      simp only [Replayed.change,shift,add_state_shift movable.ticks now]

theorem Shifted.update_prediction_history (same : Shifted delta self shifted) (now : Fits delta tick)
    (max_rollback_ticks : UInt16) :
    Shifted delta (self.update_prediction_history max_rollback_ticks tick)
      (shifted.update_prediction_history max_rollback_ticks (tick.add_signed delta)) := by
  obtain ⟨movable,rfl⟩ := same
  obtain ⟨predicted,live,is_changed,history,confirmed_history⟩ := self
  have prunes {history : HistoryBuffer C} (movable : Movable delta history) :
      Shifted delta ⟨predicted,live,false,history.clear_until_tick (tick.sub max_rollback_ticks.toNat),
        confirmed_history⟩
        ⟨predicted,live,false,
          (history.update_ticks delta).clear_until_tick ((tick.add_signed delta).sub max_rollback_ticks.toNat),
          confirmed_history⟩ := by
    refine ⟨movable.clear_until_tick now _,?_⟩
    rw [clear_until_tick_shift movable.ticks movable.changes now]
    rfl
  cases live with
  | none => exact ⟨movable,rfl⟩
  | some value =>
    cases is_changed with
    | false => exact prunes movable
    | true =>
      have recorded := prunes (movable.add_state now (.Updated value))
      rwa [← add_state_shift movable.ticks now] at recorded

/-- What a rollback from the inputs restores is the same. -/
theorem Shifted.prepare_rollback (same : Shifted delta self shifted) {rollback_tick : Tick} (now : Fits delta tick)
    (target : Fits delta rollback_tick) :
    Shifted delta (self.prepare_rollback false tick rollback_tick)
      (shifted.prepare_rollback false (tick.add_signed delta) (rollback_tick.add_signed delta)) := by
  obtain ⟨movable,rfl⟩ := same
  obtain ⟨predicted,live,is_changed,history,confirmed_history⟩ := self
  have restores : (history.update_ticks delta).get_state (rollback_tick.add_signed delta) =
      history.get_state rollback_tick :=
    get_state_shift movable.ticks target
  have cleared : Movable delta (history.clear_after_tick rollback_tick) := movable.clear_after_tick
  have seeded (state : HistoryState C) : ((history.update_ticks delta).clear_after_tick
      (rollback_tick.add_signed delta)).add_state (rollback_tick.add_signed delta) state =
        ((history.clear_after_tick rollback_tick).add_state rollback_tick state).update_ticks delta := by
    rw [clear_after_tick_shift movable.ticks target,add_state_shift cleared.ticks target]
  have prepared {history : HistoryBuffer C} (fits : Movable delta history) :
      Shifted delta ⟨predicted,live,is_changed,history,confirmed_history⟩
        ⟨predicted,live,is_changed,history.update_ticks delta,confirmed_history⟩ := ⟨fits,rfl⟩
  simp only [Replayed.prepare_rollback,restore_state,shift,restores,Bool.false_eq_true,if_false]
  cases history.get_state rollback_tick with
  | none =>
    cases live with
    | none => exact clear_after_tick_shift movable.ticks target ▸ prepared cleared
    | some current =>
      have seededLive := prepared (cleared.add_state target (.Updated current))
      rwa [← seeded] at seededLive
  | some state =>
    have restored := prepared (cleared.add_state target state)
    rw [← seeded] at restored
    cases state with
    | Updated correct => exact restored.change now _
    | Removed => exact restored.change now _

end
end Replayed

variable {Kind : Type} {Component : Kind → Type}

section
variable {delta : Int}

/-- Every tick of the entity is shifted. -/
def LocalEntity.shift (delta : Int) (self : LocalEntity Kind Component) : LocalEntity Kind Component :=
  {self with
    prediction_disable := self.prediction_disable.map (·.add_signed delta)
    components := fun kind => (self.components kind).map (·.shift delta)}

structure LocalEntity.Movable (delta : Int) (entity : LocalEntity Kind Component) : Prop where
  disabled : ∀ tick ∈ entity.prediction_disable,Fits delta tick
  histories : ∀ kind,∀ replayed ∈ entity.components kind,Prediction.Movable delta replayed.prediction_history

def LocalEntity.Shifted (delta : Int) (self shifted : LocalEntity Kind Component) : Prop :=
  self.Movable delta ∧ shifted = self.shift delta

def PreSpawnedReceiver.handle_local_timeline_shift (delta : Int) (self : PreSpawnedReceiver) : PreSpawnedReceiver :=
  ⟨shift_entries delta self.unmatched_prespawn_spawn_tick_to_entities,
    shift_entries delta self.matched_prespawn_spawn_tick_to_entities⟩

/-- Every tick that is kept is shifted. -/
def Lifetimes.shift (delta : Int) (self : Lifetimes Kind Component) : Lifetimes Kind Component where
  entities := self.entities.map (·.shift delta)
  deterministic_despawn := shift_entries delta self.deterministic_despawn
  deterministic_skip_despawn := shift_entries delta self.deterministic_skip_despawn
  prespawned_receiver := self.prespawned_receiver.handle_local_timeline_shift delta

structure Lifetimes.Movable (delta : Int) (lifetimes : Lifetimes Kind Component) : Prop where
  entities : ∀ entity ∈ lifetimes.entities,entity.Movable delta
  despawn : EntriesFit delta lifetimes.deterministic_despawn
  skip_despawn : EntriesFit delta lifetimes.deterministic_skip_despawn
  unmatched : EntriesFit delta lifetimes.prespawned_receiver.unmatched_prespawn_spawn_tick_to_entities
  matched : EntriesFit delta lifetimes.prespawned_receiver.matched_prespawn_spawn_tick_to_entities

/-- Of two states one is the other, shifted. -/
def Lifetimes.Shifted (delta : Int) (self shifted : Lifetimes Kind Component) : Prop :=
  self.Movable delta ∧ shifted = self.shift delta

namespace LocalEntity
section
variable {self shifted : LocalEntity Kind Component} {tick : Tick}

theorem Shifted.each (same : Shifted delta self shifted) {selects : LocalEntity Kind Component → Bool}
    (selected : ∀ entity,selects (shift delta entity) = selects entity)
    {before after : {C : Type} → Replayed C → Replayed C}
    (system : ∀ {C : Type} (replayed shifted : Replayed C),replayed.Shifted delta shifted →
      (before replayed).Shifted delta (after shifted)) :
    Shifted delta (self.each selects before) (shifted.each selects after) := by
  obtain ⟨movable,rfl⟩ := same
  unfold LocalEntity.each
  rw [selected]
  split
  · refine ⟨⟨movable.disabled,fun kind replayed isReplayed => ?_⟩,?_⟩
    · obtain ⟨was,isWas,rfl⟩ := Option.mem_map.mp isReplayed
      exact (system was _ ⟨movable.histories kind was isWas,rfl⟩).1
    · simp only [shift,Option.map_map,LocalEntity.mk.injEq,true_and]
      funext kind
      cases component : self.components kind with
      | none => rfl
      | some replayed => exact congrArg some (system replayed _ ⟨movable.histories kind replayed component,rfl⟩).2
  · exact ⟨movable,rfl⟩

theorem Shifted.disable (same : Shifted delta self shifted) (now : Fits delta tick) :
    Shifted delta {self with prediction_disable := some tick}
      {shifted with prediction_disable := some (tick.add_signed delta)} := by
  obtain ⟨movable,rfl⟩ := same
  refine ⟨⟨fun disabled isDisabled => ?_,movable.histories⟩,rfl⟩
  cases isDisabled
  exact now

theorem Shifted.enable (same : Shifted delta self shifted) :
    Shifted delta {self with prediction_disable := none} {shifted with prediction_disable := none} := by
  obtain ⟨movable,rfl⟩ := same
  exact ⟨⟨fun disabled isDisabled => (nomatch isDisabled),movable.histories⟩,rfl⟩

theorem Shifted.mark (same : Shifted delta self shifted) (disable_rollback : Bool) :
    Shifted delta {self with disable_rollback} {shifted with disable_rollback} := by
  obtain ⟨movable,rfl⟩ := same
  exact ⟨⟨movable.disabled,movable.histories⟩,rfl⟩

theorem Shifted.change [DecidableEq Kind] (same : Shifted delta self shifted) (now : Fits delta tick) (kind : Kind)
    (change : Change (Component kind)) :
    Shifted delta {self with
      components := Function.update self.components kind ((self.components kind).map (·.change tick change))}
      {shifted with
        components := Function.update shifted.components kind
          ((shifted.components kind).map (·.change (tick.add_signed delta) change))} := by
  obtain ⟨movable,rfl⟩ := same
  have changed (replayed : Replayed (Component kind)) (isReplayed : replayed ∈ self.components kind) :=
    Replayed.Shifted.change ⟨movable.histories kind replayed isReplayed,rfl⟩ now change
  refine ⟨⟨movable.disabled,fun other replayed isReplayed => ?_⟩,?_⟩
  · dsimp only at isReplayed
    by_cases here : other = kind
    · subst here
      rw [Function.update_self,Option.mem_map] at isReplayed
      obtain ⟨was,isWas,rfl⟩ := isReplayed
      exact (changed was isWas).1
    · rw [Function.update_of_ne here] at isReplayed
      exact movable.histories other replayed isReplayed
  · simp only [shift,LocalEntity.mk.injEq,true_and]
    funext other
    by_cases here : other = kind
    · subst here
      rw [Function.update_self,Function.update_self]
      cases component : self.components other with
      | none => rfl
      | some replayed => exact congrArg some (changed replayed component).2
    · rw [Function.update_of_ne here,Function.update_of_ne here]

end
end LocalEntity

/-! ### Shifted lifetimes -/

theorem PreSpawnedReceiver.despawn_prespawned_after_with_shift {self : PreSpawnedReceiver} {tick : Tick}
    (now : Fits delta tick)
    (unmatched : EntriesFit delta self.unmatched_prespawn_spawn_tick_to_entities)
    (matched : EntriesFit delta self.matched_prespawn_spawn_tick_to_entities) (should_keep : Entity → Bool) :
    (self.handle_local_timeline_shift delta).despawn_prespawned_after_with (tick.add_signed delta) should_keep =
      ((self.despawn_prespawned_after_with tick should_keep).1,
        (self.despawn_prespawned_after_with tick should_keep).2.handle_local_timeline_shift delta) := by
  have despawned {entries : List (Tick × Entity)} (fits : EntriesFit delta entries) :
      (shift_entries delta entries).filter (fun entry =>
        decide (tick.add_signed delta ≤ entry.1) && !should_keep entry.2) =
        shift_entries delta (entries.filter fun entry => decide (tick ≤ entry.1) && !should_keep entry.2) :=
    filter_shift fun entry member => by rw [decide_eq_decide.mpr (now.le_iff (fits entry member))]
  have kept {entries : List (Tick × Entity)} (fits : EntriesFit delta entries) :
      (shift_entries delta entries).filter (fun entry =>
        !(decide (tick.add_signed delta ≤ entry.1) && !should_keep entry.2)) =
        shift_entries delta (entries.filter fun entry => !(decide (tick ≤ entry.1) && !should_keep entry.2)) :=
    filter_shift fun entry member => by rw [decide_eq_decide.mpr (now.le_iff (fits entry member))]
  simp only [despawn_prespawned_after_with,handle_local_timeline_shift,despawned unmatched,despawned matched,
    kept unmatched,
    kept matched,List.map_append,seconds_shift]

namespace Lifetimes
section
variable {self shifted : Lifetimes Kind Component} {tick : Tick}

theorem Shifted.map (same : Shifted delta self shifted)
    {before after : LocalEntity Kind Component → LocalEntity Kind Component}
    (each : ∀ entity shifted,entity.Shifted delta shifted → (before entity).Shifted delta (after shifted)) :
    Shifted delta {self with entities := self.entities.map before}
      {shifted with entities := shifted.entities.map after} := by
  obtain ⟨movable,rfl⟩ := same
  have changed (entity : LocalEntity Kind Component) (member : entity ∈ self.entities) :=
    each entity _ ⟨movable.entities entity member,rfl⟩
  refine ⟨{movable with entities := fun entity member => ?_},?_⟩
  · obtain ⟨was,isWas,rfl⟩ := List.mem_map.mp member
    exact (changed was isWas).1
  · simp only [shift,List.map_map,Lifetimes.mk.injEq,and_true]
    exact List.map_congr_left fun entity member => (changed entity member).2

theorem Shifted.update (same : Shifted delta self shifted) (ids : List Entity)
    {before after : LocalEntity Kind Component → LocalEntity Kind Component}
    (each : ∀ entity shifted,entity.Shifted delta shifted → (before entity).Shifted delta (after shifted)) :
    Shifted delta (self.update ids before) (shifted.update ids after) := by
  refine same.map fun entity shifted same => ?_
  have sameId : shifted.id = entity.id := same.2 ▸ rfl
  rw [sameId]
  split
  · exact each entity shifted same
  · exact same

theorem Shifted.despawn (same : Shifted delta self shifted) (id : Entity) :
    Shifted delta (self.despawn id) (shifted.despawn id) := by
  obtain ⟨movable,rfl⟩ := same
  refine ⟨⟨fun entity member => movable.entities entity (List.mem_filter.mp member).1,movable.despawn,
    movable.skip_despawn,
    movable.unmatched.sublist List.filter_sublist,movable.matched.sublist List.filter_sublist⟩,?_⟩
  simp only [Lifetimes.despawn,shift,PreSpawnedReceiver.cleanup_despawned_prespawn,
    PreSpawnedReceiver.handle_local_timeline_shift,
    List.filter_map,Lifetimes.mk.injEq,PreSpawnedReceiver.mk.injEq,true_and]
  exact ⟨rfl,filter_shift fun _ _ => rfl,filter_shift fun _ _ => rfl⟩

theorem Shifted.despawn_all (same : Shifted delta self shifted) (ids : List Entity) :
    Shifted delta (self.despawn_all ids) (shifted.despawn_all ids) := by
  induction ids generalizing self shifted with
  | nil => exact same
  | cons id ids ih => exact ih (same.despawn id)

theorem find_shift (id : Entity) : (self.shift delta).find id = (self.find id).map (·.shift delta) := by
  simp only [find,shift,List.find?_map]
  rfl

theorem Shifted.on_add (same : Shifted delta self shifted) (now : Fits delta tick) (id : Entity)
    (deterministic_predicted : DeterministicPredicted)
    (room : tick.toNat + deterministic_predicted.enable_rollback_after.toNat < 2 ^ 32 ∧
      (tick.toNat : Int) + delta + deterministic_predicted.enable_rollback_after.toNat < 2 ^ 32) :
    Shifted delta (self.on_add tick id deterministic_predicted)
      (shifted.on_add (tick.add_signed delta) id deterministic_predicted) := by
  obtain ⟨movable,rfl⟩ := same
  unfold Lifetimes.on_add
  cases deterministic_predicted.skip_despawn with
  | false =>
    refine ⟨{movable with despawn := movable.despawn.append (EntriesFit.singleton now id)},?_⟩
    simp [shift]
  | true =>
    have low := now.1
    have ends : (tick.add_signed deterministic_predicted.enable_rollback_after.toNat).toNat =
        tick.toNat + deterministic_predicted.enable_rollback_after.toNat := by
      rw [Tick.toNat_add_signed]
      omega
    have fits : Fits delta (tick.add_signed deterministic_predicted.enable_rollback_after.toNat) := by
      rw [Fits,ends]
      omega
    have moved : (tick.add_signed delta).add_signed deterministic_predicted.enable_rollback_after.toNat =
        (tick.add_signed deterministic_predicted.enable_rollback_after.toNat).add_signed delta := by
      refine BitVec.eq_of_toNat_eq ?_
      rw [Tick.toNat_add_signed,Tick.toNat_add_signed,Tick.toNat_add_signed,ends]
      omega
    refine ⟨{movable with skip_despawn := movable.skip_despawn.append (EntriesFit.singleton fits id)},?_⟩
    simp [shift,moved]

theorem Shifted.register_prespawn (same : Shifted delta self shifted) (now : Fits delta tick)
    (connected_receiver : Bool)
    (id : Entity) : Shifted delta (self.register_prespawn tick connected_receiver id)
      (shifted.register_prespawn (tick.add_signed delta) connected_receiver id) := by
  obtain ⟨movable,rfl⟩ := same
  cases connected_receiver with
  | false => exact ⟨movable,rfl⟩
  | true =>
    have known : (shift_entries delta self.prespawned_receiver.unmatched_prespawn_spawn_tick_to_entities).any (·.2 =
      id) =
        self.prespawned_receiver.unmatched_prespawn_spawn_tick_to_entities.any (·.2 = id) := List.any_map
    simp only [Lifetimes.register_prespawn,PreSpawnedReceiver.register_unmatched_entity,shift,
      PreSpawnedReceiver.handle_local_timeline_shift,known,if_true]
    split
    · exact ⟨movable,rfl⟩
    · refine ⟨{movable with unmatched := movable.unmatched.append (EntriesFit.singleton now id)},?_⟩
      simp [shift,PreSpawnedReceiver.handle_local_timeline_shift]

theorem Shifted.spawn (same : Shifted delta self shifted) (now : Fits delta tick) (connected_receiver : Bool)
    (spawned : Spawned Kind Component)
    (room : ∀ deterministic_predicted ∈ spawned.deterministic_predicted,
      tick.toNat + deterministic_predicted.enable_rollback_after.toNat < 2 ^ 32 ∧
        (tick.toNat : Int) + delta + deterministic_predicted.enable_rollback_after.toNat < 2 ^ 32) :
    Shifted delta (self.spawn tick connected_receiver spawned)
      (shifted.spawn (tick.add_signed delta) connected_receiver spawned) := by
  have fresh : spawned.entity.Shifted delta spawned.entity := by
    refine ⟨⟨fun tick disabled => (nomatch disabled),fun kind replayed isReplayed => ?_⟩,?_⟩
    · obtain ⟨value,-,rfl⟩ := Option.mem_map.mp isReplayed
      exact movable_default
    · simp only [LocalEntity.shift,Spawned.entity,Option.map_none,Option.map_map]
      rfl
  have added : Shifted delta {self with entities := self.entities ++ [spawned.entity]}
      {shifted with entities := shifted.entities ++ [spawned.entity]} := by
    obtain ⟨movable,rfl⟩ := same
    refine ⟨{movable with entities := fun entity member => ?_},?_⟩
    · rcases List.mem_append.mp member with was | isSpawned
      · exact movable.entities entity was
      · exact List.mem_singleton.mp isSpawned ▸ fresh.1
    · simp [shift,← fresh.2]
  have registers {added addedAfter : Lifetimes Kind Component} (same : Shifted delta added addedAfter) :
      Shifted delta (if spawned.pre_spawned then added.register_prespawn tick connected_receiver spawned.id else added)
        (if spawned.pre_spawned then addedAfter.register_prespawn (tick.add_signed delta) connected_receiver spawned.id
          else addedAfter) := by
    split
    · exact same.register_prespawn now connected_receiver spawned.id
    · exact same
  unfold Lifetimes.spawn
  cases marker : spawned.deterministic_predicted with
  | none => exact registers added
  | some deterministic_predicted => exact registers (added.on_add now spawned.id _ (room _ marker))

theorem Shifted.cleanup_matched_prespawn (same : Shifted delta self shifted) (id : Entity) :
    Shifted delta (self.cleanup_matched_prespawn id) (shifted.cleanup_matched_prespawn id) := by
  obtain ⟨movable,rfl⟩ := same
  have matches_query :
    ((self.shift delta).find id).any (fun entity => entity.pre_spawned && entity.prediction_disable.isNone) =
      (self.find id).any (fun entity => entity.pre_spawned && entity.prediction_disable.isNone) := by
    rw [find_shift,Option.any_map]
    refine congrArg (Option.any · _) (funext fun entity => ?_)
    simp [LocalEntity.shift]
  have found : (shift_entries delta self.prespawned_receiver.unmatched_prespawn_spawn_tick_to_entities).find?
    (·.2 = id) =
      (self.prespawned_receiver.unmatched_prespawn_spawn_tick_to_entities.find? (·.2 = id)).map
        fun entry => (entry.1.add_signed delta,entry.2) := List.find?_map ..
  unfold Lifetimes.cleanup_matched_prespawn
  simp only [matches_query]
  split
  · simp only [shift,PreSpawnedReceiver.handle_local_timeline_shift,PreSpawnedReceiver.match_entity,found]
    cases spawn : self.prespawned_receiver.unmatched_prespawn_spawn_tick_to_entities.find? (·.2 = id) with
    | none => exact ⟨movable,rfl⟩
    | some entry =>
      have fits : Fits delta entry.1 := movable.unmatched entry (List.mem_of_find?_eq_some spawn)
      refine ⟨{movable with
        unmatched := movable.unmatched.sublist List.eraseP_sublist
        matched := movable.matched.append (EntriesFit.singleton fits id)},?_⟩
      simp [shift,PreSpawnedReceiver.handle_local_timeline_shift,shift_entries,List.eraseP_map,Function.comp_def]
  · exact ⟨movable,rfl⟩

theorem Shifted.pre_spawned_player_object_cleanup (same : Shifted delta self shifted) (now : Fits delta tick) :
    Shifted delta (self.pre_spawned_player_object_cleanup tick)
      (shifted.pre_spawned_player_object_cleanup (tick.add_signed delta)) := by
  obtain ⟨movable,rfl⟩ := same
  have split_idx : partition_point (·.1 < (tick.add_signed delta).sub 50)
      (shift_entries delta self.prespawned_receiver.unmatched_prespawn_spawn_tick_to_entities) =
        partition_point (·.1 < tick.sub 50) self.prespawned_receiver.unmatched_prespawn_spawn_tick_to_entities :=
    partition_point_map fun entry member => decide_eq_decide.mpr ((movable.unmatched entry member).lt_sub_iff now 50)
  unfold Lifetimes.pre_spawned_player_object_cleanup PreSpawnedReceiver.drain_expired
  simp only [shift,PreSpawnedReceiver.handle_local_timeline_shift,split_idx,take_shift,drop_shift,seconds_shift]
  refine Shifted.despawn_all ?_ _
  exact ⟨⟨movable.entities,movable.despawn,movable.skip_despawn,movable.unmatched.sublist (List.drop_sublist ..),
    movable.matched⟩,rfl⟩

theorem Shifted.prediction_despawn (same : Shifted delta self shifted) (now : Fits delta tick) (id : Entity) :
    Shifted delta (self.prediction_despawn tick id) (shifted.prediction_despawn (tick.add_signed delta) id) := by
  refine same.update [id] fun entity shifted same => ?_
  have marker : shifted.is_predicted = entity.is_predicted := same.2 ▸ rfl
  rw [marker]
  split
  · exact same.disable now
  · exact same

theorem Shifted.remove_prediction_disable (same : Shifted delta self shifted) :
    Shifted delta self.remove_prediction_disable shifted.remove_prediction_disable := by
  refine same.map fun entity shifted same => ?_
  have marker : shifted.is_predicted = entity.is_predicted := same.2 ▸ rfl
  rw [marker]
  split
  · exact same.enable
  · exact same

theorem Shifted.finalize_deterministic_despawns (same : Shifted delta self shifted) (now : Fits delta tick)
    (max_rollback_ticks : UInt16) : Shifted delta (self.finalize_deterministic_despawns tick max_rollback_ticks)
      (shifted.finalize_deterministic_despawns (tick.add_signed delta) max_rollback_ticks) := by
  have expires (entity : LocalEntity Kind Component) (member : entity ∈ self.entities) :
      ((entity.shift delta).deterministic_predicted.isSome &&
        (entity.shift delta).prediction_disable.any fun disabled =>
        decide ((tick.add_signed delta).diff disabled > max_rollback_ticks.toNat)) =
      (entity.deterministic_predicted.isSome && entity.prediction_disable.any fun disabled =>
        decide (tick.diff disabled > max_rollback_ticks.toNat)) := by
    simp only [LocalEntity.shift,Option.any_map]
    cases disabled : entity.prediction_disable with
    | none => rfl
    | some at_tick => simp [now.diff ((same.1.entities entity member).disabled at_tick disabled)]
  have expired : (shifted.entities.filter fun entity => entity.deterministic_predicted.isSome &&
        entity.prediction_disable.any fun disabled =>
          decide ((tick.add_signed delta).diff disabled > max_rollback_ticks.toNat)).map
          LocalEntity.id =
      (self.entities.filter fun entity => entity.deterministic_predicted.isSome &&
        entity.prediction_disable.any fun disabled => decide (tick.diff disabled > max_rollback_ticks.toNat)).map
          LocalEntity.id := by
    rw [same.2,shift,List.filter_map,List.map_map]
    exact congrArg (List.map LocalEntity.id) (List.filter_congr expires)
  have despawned := same.despawn_all ((self.entities.filter fun entity => entity.deterministic_predicted.isSome &&
    entity.prediction_disable.any fun disabled => decide (tick.diff disabled > max_rollback_ticks.toNat)).map
      LocalEntity.id)
  unfold Lifetimes.finalize_deterministic_despawns
  dsimp only
  rwa [expired]

theorem Shifted.disable_rollbacks (same : Shifted delta self shifted) {rollback_tick : Tick}
    (target : Fits delta rollback_tick)
    (forced_rollback_requested : Bool) : Shifted delta (self.disable_rollbacks rollback_tick forced_rollback_requested)
      (shifted.disable_rollbacks (rollback_tick.add_signed delta) forced_rollback_requested) := by
  have marks (ids : List Entity) (disable_rollback : Bool) {self shifted : Lifetimes Kind Component}
    (same : Shifted delta self shifted) :
      Shifted delta (self.update ids ({· with disable_rollback})) (shifted.update ids ({· with disable_rollback})) :=
    same.update ids fun _ _ same => same.mark disable_rollback
  have keeps {self shifted : Lifetimes Kind Component} (same : Shifted delta self shifted)
    {queue : List (Tick × Entity)}
      (fits : EntriesFit delta queue) : Shifted delta {self with deterministic_skip_despawn := queue}
        {shifted with deterministic_skip_despawn := shift_entries delta queue} := by
    obtain ⟨movable,rfl⟩ := same
    exact ⟨{movable with skip_despawn := fits},rfl⟩
  have queue : shifted.deterministic_skip_despawn = shift_entries delta self.deterministic_skip_despawn := same.2 ▸ rfl
  have split_idx : partition_point (·.1 ≤ rollback_tick.add_signed delta)
    (shift_entries delta self.deterministic_skip_despawn) =
      partition_point (·.1 ≤ rollback_tick) self.deterministic_skip_despawn :=
    partition_point_map fun entry member => decide_eq_decide.mpr ((same.1.skip_despawn entry member).le_iff target)
  unfold Lifetimes.disable_rollbacks
  simp only [queue,seconds_shift,split_idx,take_shift,drop_shift]
  split
  · exact keeps (marks _ false same) fun _ member => (nomatch member)
  · exact keeps (marks _ false (marks _ true same)) (same.1.skip_despawn.sublist (List.drop_sublist ..))

theorem Shifted.finish_catch_up (same : Shifted delta self shifted) :
    Shifted delta self.finish_catch_up shifted.finish_catch_up := by
  have queue : shifted.deterministic_skip_despawn = shift_entries delta self.deterministic_skip_despawn := same.2 ▸ rfl
  unfold Lifetimes.finish_catch_up
  rw [queue,seconds_shift]
  obtain ⟨movable,same⟩ := same.update (self.deterministic_skip_despawn.map Prod.snd) fun _ _ same => same.mark false
  rw [same]
  exact ⟨{movable with skip_despawn := fun _ member => (nomatch member)},rfl⟩

/-- The entities that a rollback despawns are the same. -/
theorem Shifted.despawn_spawned_after (same : Shifted delta self shifted) {rollback_tick : Tick}
    (target : Fits delta rollback_tick)
    (room : rollback_tick.toNat + 1 < 2 ^ 32 ∧ (rollback_tick.toNat : Int) + delta + 1 < 2 ^ 32)
    (forced_rollback_requested : Bool) :
    Shifted delta (self.despawn_spawned_after rollback_tick forced_rollback_requested)
      (shifted.despawn_spawned_after (rollback_tick.add_signed delta) forced_rollback_requested) := by
  obtain ⟨movable,rfl⟩ := same
  have low := target.1
  have next : (rollback_tick.add_signed delta).add 1 = (rollback_tick.add 1).add_signed delta :=
    (target.add room.1 room.2).symm
  have nextFits : Fits delta (rollback_tick.add 1) := by
    rw [Fits,Tick.toNat_add]
    omega
  have later {entries : List (Tick × Entity)} (fits : EntriesFit delta entries) :
      ((shift_entries delta entries).filter (rollback_tick.add_signed delta < ·.1)).map Prod.snd =
        (entries.filter (rollback_tick < ·.1)).map Prod.snd := by
    rw [filter_shift fun entry member => decide_eq_decide.mpr (target.lt_iff (fits entry member)),seconds_shift]
  have found (id : Entity) : (((self.shift delta).find id).any fun entity =>
      entity.prediction_disable.isNone && entity.deterministic_predicted.any (·.skip_despawn)) =
        ((self.find id).any fun entity =>
          entity.prediction_disable.isNone && entity.deterministic_predicted.any (·.skip_despawn)) := by
    rw [find_shift,Option.any_map]
    refine congrArg (Option.any · _) (funext fun entity => ?_)
    simp [LocalEntity.shift]
  have prespawned (should_keep : Entity → Bool) := PreSpawnedReceiver.despawn_prespawned_after_with_shift nextFits
    movable.unmatched movable.matched should_keep
  have drained {receiver : PreSpawnedReceiver} (unmatched : receiver.unmatched_prespawn_spawn_tick_to_entities.Sublist
        self.prespawned_receiver.unmatched_prespawn_spawn_tick_to_entities)
      (matched : receiver.matched_prespawn_spawn_tick_to_entities.Sublist
        self.prespawned_receiver.matched_prespawn_spawn_tick_to_entities) :
      Shifted delta {self with prespawned_receiver := receiver,deterministic_despawn := []}
        {self.shift delta with
          prespawned_receiver := receiver.handle_local_timeline_shift delta
          deterministic_despawn := []} :=
    ⟨⟨movable.entities,fun _ member => (nomatch member),movable.skip_despawn,movable.unmatched.sublist unmatched,
      movable.matched.sublist matched⟩,rfl⟩
  have despawns : shift_entries delta self.deterministic_despawn = (self.shift delta).deterministic_despawn := rfl
  have skips : shift_entries delta self.deterministic_skip_despawn =
      (self.shift delta).deterministic_skip_despawn := rfl
  have receiver : self.prespawned_receiver.handle_local_timeline_shift delta =
      (self.shift delta).prespawned_receiver := rfl
  unfold Lifetimes.despawn_spawned_after
  simp only [← despawns,← skips,← receiver,later movable.despawn,later movable.skip_despawn,found,next,prespawned]
  exact ((drained List.filter_sublist List.filter_sublist).despawn_all _).disable_rollbacks target _

theorem Shifted.prepare_rollback (same : Shifted delta self shifted) {rollback_tick : Tick} (now : Fits delta tick)
    (target : Fits delta rollback_tick) :
    Shifted delta (self.prepare_rollback tick rollback_tick)
      (shifted.prepare_rollback (tick.add_signed delta) (rollback_tick.add_signed delta)) :=
  same.map fun _ _ same => same.each (fun _ => by simp [LocalEntity.shift]) fun _ _ same =>
    same.prepare_rollback now target

theorem Shifted.update_prediction_history (same : Shifted delta self shifted) (now : Fits delta tick)
    (max_rollback_ticks : UInt16) :
    Shifted delta (self.update_prediction_history max_rollback_ticks tick)
      (shifted.update_prediction_history max_rollback_ticks (tick.add_signed delta)) :=
  same.map fun _ _ same => same.each (fun _ => by simp [LocalEntity.shift]) fun _ _ same =>
    same.update_prediction_history now max_rollback_ticks

end
end Lifetimes
end

/-! ### The local simulation -/

section
variable (Kind : Type) (Component : Kind → Type)

/-- The local timeline, with the entities that are simulated on it. -/
structure Local where
  tick : Tick
  lifetimes : Lifetimes Kind Component

inductive LocalStep where
  | event (event : LocalEvent Kind Component)
  | increment_local_tick
  | rollback (rollback_tick : Tick) (forced_rollback_requested : Bool) (max_rollback_ticks : UInt16)

end

namespace Local
section
variable [DecidableEq Kind]

/-- A rollback that is not too deep despawns, restores, and starts its replay at the target. -/
def step (self : Local Kind Component) : LocalStep Kind Component → Local Kind Component
  | .event event => {self with lifetimes := self.lifetimes.step self.tick event}
  | .increment_local_tick => {self with tick := self.tick.add 1}
  | .rollback rollback_tick forced_rollback_requested max_rollback_ticks =>
    if 0 ≤ self.tick.diff rollback_tick ∧ self.tick.diff rollback_tick ≤ max_rollback_ticks.toNat then
      ⟨rollback_tick,((self.lifetimes.despawn_spawned_after rollback_tick
        forced_rollback_requested).remove_prediction_disable).prepare_rollback
        self.tick rollback_tick⟩
    else self

def run (self : Local Kind Component) (steps : List (LocalStep Kind Component)) :
    Local Kind Component := steps.foldl step self

end

/-- The observers of `LocalTimelineShift`. Their queries leave out the entities that are disabled. -/
def handle_local_timeline_shift (delta : Int) (self : Local Kind Component) : Local Kind Component where
  tick := self.tick.add_signed delta
  lifetimes := {self.lifetimes with
    entities := self.lifetimes.entities.map (·.each (·.prediction_disable.isNone) (·.shift delta))
    prespawned_receiver := self.lifetimes.prespawned_receiver.handle_local_timeline_shift delta}

/-- Every record of a local tick is shifted. -/
def shift (delta : Int) (self : Local Kind Component) : Local Kind Component :=
  ⟨self.tick.add_signed delta,self.lifetimes.shift delta⟩

end Local

/-- The targets of rollbacks are shifted. -/
def LocalStep.shift (delta : Int) : LocalStep Kind Component → LocalStep Kind Component
  | .rollback rollback_tick forced_rollback_requested max_rollback_ticks =>
    .rollback (rollback_tick.add_signed delta) forced_rollback_requested max_rollback_ticks
  | step => step

/-- No tick of the state saturates. -/
structure Local.TicksFit (delta : Int) (state : Local Kind Component) : Prop where
  tick : Fits delta state.tick
  despawn : EntriesFit delta state.lifetimes.deterministic_despawn
  skip_despawn : EntriesFit delta state.lifetimes.deterministic_skip_despawn
  unmatched : EntriesFit delta state.lifetimes.prespawned_receiver.unmatched_prespawn_spawn_tick_to_entities
  matched : EntriesFit delta state.lifetimes.prespawned_receiver.matched_prespawn_spawn_tick_to_entities
  disabled : ∀ entity ∈ state.lifetimes.entities,∀ tick ∈ entity.prediction_disable,Fits delta tick
  histories : ∀ entity ∈ state.lifetimes.entities,∀ kind,∀ replayed ∈ entity.components kind,
    EntriesFit delta replayed.prediction_history.buffer

/-- A tick and the ticks up to some later one are not saturated on either timeline. -/
def Room (delta : Int) (tick : Tick) (ticks : Nat) : Prop :=
  tick.toNat + ticks < 2 ^ 32 ∧ (tick.toNat : Int) + delta + ticks < 2 ^ 32

/-- No tick of a step saturates. -/
def LocalStep.TicksFit (delta : Int) (tick : Tick) : LocalStep Kind Component → Prop
  | .event (.spawn _ spawned) => ∀ deterministic_predicted ∈ spawned.deterministic_predicted,
    Room delta tick deterministic_predicted.enable_rollback_after.toNat
  | .event _ => True
  | .increment_local_tick => Room delta tick 1
  | .rollback rollback_tick _ _ => Fits delta rollback_tick ∧ Room delta rollback_tick 1

def StepsFit [DecidableEq Kind] (delta : Int) (self : Local Kind Component) : List (LocalStep Kind Component) → Prop
  | [] => True
  | step :: steps => step.TicksFit delta self.tick ∧ StepsFit delta (self.step step) steps

/-- A state after a run, with jumps of the local timeline that saturate no tick. -/
inductive Reachable [DecidableEq Kind] : Local Kind Component → Prop where
  | start (tick : Tick) : Reachable ⟨tick,.default⟩
  | step (reached : Reachable self) (step : LocalStep Kind Component) : Reachable (self.step step)
  | shift (reached : Reachable self) (fits : self.TicksFit delta) : Reachable (self.handle_local_timeline_shift delta)

/-- The jump moves every record, and every later run decides the same at ticks that are shifted. -/
def Transparent [DecidableEq Kind] (delta : Int) (self : Local Kind Component) : Prop :=
  self.handle_local_timeline_shift delta = self.shift delta ∧
    ∀ steps,StepsFit delta self steps →
      (self.handle_local_timeline_shift delta).run (steps.map (·.shift delta)) = (self.run steps).shift delta

/-- There is no record that no observer moves: nothing is in the queues of `PredictionManager`, and no entity
is disabled. -/
def Local.LeavesNothing (self : Local Kind Component) : Prop :=
  self.lifetimes.deterministic_despawn = [] ∧ self.lifetimes.deterministic_skip_despawn = [] ∧
    ∀ entity ∈ self.lifetimes.entities,entity.prediction_disable = none

section
variable {self : Lifetimes Kind Component}

def LocalEntity.Changing (self : LocalEntity Kind Component) : Prop :=
  ∀ kind,∀ replayed ∈ self.components kind,Changes replayed.prediction_history

def Lifetimes.Changing (self : Lifetimes Kind Component) : Prop := ∀ entity ∈ self.entities,entity.Changing

theorem fits_zero (tick : Tick) : Fits 0 tick := by
  have := tick.isLt
  unfold Fits
  omega

theorem entries_fit_zero {α : Type} (entries : List (Tick × α)) :
    EntriesFit 0 entries := fun entry _ => fits_zero entry.1

theorem Replayed.Changing {C : Type} {self : Replayed C} (changes : Changes self.prediction_history) :
    self.Shifted 0 (self.shift 0) := ⟨⟨entries_fit_zero _,changes⟩,rfl⟩

theorem LocalEntity.Changing.each {self : LocalEntity Kind Component} (changing : self.Changing)
    (selects : LocalEntity Kind Component → Bool)
    {system : {C : Type} → Replayed C → Replayed C}
    (kept : ∀ {C : Type} (replayed : Replayed C),Changes replayed.prediction_history →
      Changes (system replayed).prediction_history) :
    (self.each selects system).Changing := by
  unfold LocalEntity.each
  split
  · intro kind replayed isReplayed
    obtain ⟨was,isWas,rfl⟩ := Option.mem_map.mp isReplayed
    exact kept was (changing kind was isWas)
  · exact changing

namespace Lifetimes

theorem Changing.map (changing : self.Changing) {change : LocalEntity Kind Component → LocalEntity Kind Component}
    (kept : ∀ entity : LocalEntity Kind Component,entity.Changing → (change entity).Changing) :
    Changing {self with entities := self.entities.map change} := by
  intro entity member
  obtain ⟨was,isWas,rfl⟩ := List.mem_map.mp member
  exact kept was (changing was isWas)

theorem Changing.update (changing : self.Changing) (ids : List Entity)
    {change : LocalEntity Kind Component → LocalEntity Kind Component}
    (kept : ∀ entity : LocalEntity Kind Component,entity.Changing → (change entity).Changing) :
    (self.update ids change).Changing := by
  refine changing.map fun entity entityChanging => ?_
  split
  · exact kept entity entityChanging
  · exact entityChanging

theorem Changing.despawn_all (changing : self.Changing) (ids : List Entity) : (self.despawn_all ids).Changing := by
  induction ids generalizing self with
  | nil => exact changing
  | cons id ids ih => exact ih fun entity member => changing entity (List.mem_filter.mp member).1

theorem Changing.disable_rollbacks (changing : self.Changing) (rollback_tick : Tick)
    (forced_rollback_requested : Bool) :
    (self.disable_rollbacks rollback_tick forced_rollback_requested).Changing := by
  have marks (ids : List Entity) (disable_rollback : Bool) {self : Lifetimes Kind Component}
    (changing : self.Changing) :
      (self.update ids ({· with disable_rollback})).Changing := changing.update ids fun _ kept => kept
  unfold Lifetimes.disable_rollbacks
  dsimp only
  split
  · exact marks _ false changing
  · exact marks _ false (marks _ true changing)

theorem Changing.despawn_spawned_after (changing : self.Changing) (rollback_tick : Tick)
    (forced_rollback_requested : Bool) :
    (self.despawn_spawned_after rollback_tick forced_rollback_requested).Changing := by
  unfold Lifetimes.despawn_spawned_after
  refine Changing.disable_rollbacks (Changing.despawn_all ?_ _) _ _
  exact changing

theorem Changing.spawn (changing : self.Changing) (tick : Tick) (connected_receiver : Bool)
    (spawned : Spawned Kind Component) :
    (self.spawn tick connected_receiver spawned).Changing := by
  have fresh : Changing {self with entities := self.entities ++ [spawned.entity]} := by
    intro entity member
    rcases List.mem_append.mp member with was | isSpawned
    · exact changing entity was
    · intro kind replayed isReplayed
      rw [List.mem_singleton.mp isSpawned] at isReplayed
      obtain ⟨value,-,rfl⟩ := Option.mem_map.mp isReplayed
      exact (movable_default : Prediction.Movable 0 _).changes
  have entities : (self.spawn tick connected_receiver spawned).entities = self.entities ++ [spawned.entity] := by
    unfold Lifetimes.spawn Lifetimes.on_add Lifetimes.register_prespawn
    repeat' split
    all_goals rfl
  exact fun entity member => fresh entity (entities ▸ member)

theorem Changing.step [DecidableEq Kind] (changing : self.Changing) (tick : Tick) (event : LocalEvent Kind Component) :
    (self.step tick event).Changing := by
  cases event with
  | spawn connected_receiver spawned => exact changing.spawn tick connected_receiver spawned
  | despawn id => exact changing.despawn_all [id]
  | prediction_despawn id =>
    refine changing.update [id] fun entity kept => ?_
    split <;> exact kept
  | match_prespawn id =>
    simp only [Lifetimes.step,Lifetimes.cleanup_matched_prespawn]
    repeat' split
    all_goals exact changing
  | change id kind change =>
    refine changing.update [id] fun entity kept => ?_
    split
    · exact kept
    · intro other replayed isReplayed
      dsimp only at isReplayed
      by_cases here : other = kind
      · subst here
        rw [Function.update_self,Option.mem_map] at isReplayed
        obtain ⟨was,isWas,rfl⟩ := isReplayed
        exact ((Replayed.Changing (kept other was isWas)).change (fits_zero tick) change).1.changes
      · rw [Function.update_of_ne here] at isReplayed
        exact kept other replayed isReplayed
  | update_prediction_history max_rollback_ticks =>
    exact changing.map fun entity kept => kept.each _ fun replayed changes =>
      ((Replayed.Changing changes).update_prediction_history (fits_zero tick) max_rollback_ticks).1.changes
  | finalize_deterministic_despawns max_rollback_ticks => exact changing.despawn_all _
  | pre_spawned_player_object_cleanup =>
    unfold Lifetimes.step Lifetimes.pre_spawned_player_object_cleanup
    refine Changing.despawn_all ?_ _
    exact changing
  | finish_catch_up => exact changing.update _ fun _ kept => kept

end Lifetimes

variable [DecidableEq Kind] {reached : Local Kind Component}

theorem Reachable.changing (reachable : Reachable reached) : reached.lifetimes.Changing := by
  induction reachable with
  | start tick => exact fun entity member => nomatch member
  | @step self _ step ih =>
    cases step with
    | event event => exact ih.step self.tick event
    | increment_local_tick => exact ih
    | rollback rollback_tick forced_rollback_requested max_rollback_ticks =>
      unfold Local.step
      dsimp only
      split
      · have despawned := ih.despawn_spawned_after rollback_tick forced_rollback_requested
        have enabled : (self.lifetimes.despawn_spawned_after rollback_tick
            forced_rollback_requested).remove_prediction_disable.Changing := by
          refine despawned.map fun entity kept => ?_
          split <;> exact kept
        exact enabled.map fun entity kept => kept.each _ fun replayed changes =>
          ((Replayed.Changing changes).prepare_rollback (fits_zero _) (fits_zero _)).1.changes
      · exact ih
  | @shift self delta _ fits ih =>
    intro entity member
    obtain ⟨was,isWas,rfl⟩ := List.mem_map.mp member
    unfold LocalEntity.each
    split
    · intro kind replayed isReplayed
      obtain ⟨before,isBefore,rfl⟩ := Option.mem_map.mp isReplayed
      exact (ih was isWas kind before isBefore).shift (fits.histories was isWas kind before isBefore)
    · exact ih was isWas

end

/-! ### The jump -/

section
variable [DecidableEq Kind] {delta : Int} {self shifted : Local Kind Component}

def Local.Shifted (delta : Int) (self shifted : Local Kind Component) : Prop :=
  Fits delta self.tick ∧ shifted.tick = self.tick.add_signed delta ∧ self.lifetimes.Shifted delta shifted.lifetimes

theorem Local.Shifted.step (same : self.Shifted delta shifted) (step : LocalStep Kind Component)
    (fits : step.TicksFit delta self.tick) :
    (self.step step).Shifted delta (shifted.step (step.shift delta)) := by
  obtain ⟨now,ticks,same⟩ := same
  cases step with
  | increment_local_tick =>
    have low := now.1
    refine ⟨?_,?_,same⟩
    · simp only [Fits,Local.step,Tick.toNat_add]
      obtain ⟨room,later⟩ := fits
      omega
    · simp only [Local.step,LocalStep.shift,ticks]
      exact (now.add fits.1 fits.2).symm
  | rollback rollback_tick forced_rollback_requested max_rollback_ticks =>
    obtain ⟨target,room⟩ := fits
    simp only [Local.step,LocalStep.shift,ticks,now.diff target]
    split
    · exact ⟨target,rfl,((same.despawn_spawned_after target room _).remove_prediction_disable).prepare_rollback
        now target⟩
    · exact ⟨now,ticks,same⟩
  | event event =>
    refine ⟨now,ticks,?_⟩
    simp only [Local.step,LocalStep.shift,ticks]
    cases event with
    | spawn connected_receiver spawned => exact same.spawn now connected_receiver spawned fits
    | despawn id => exact same.despawn id
    | prediction_despawn id => exact same.prediction_despawn now id
    | match_prespawn id => exact same.cleanup_matched_prespawn id
    | change id kind change =>
      refine same.update [id] fun entity shifted same => ?_
      have disabled : shifted.prediction_disable.isSome = entity.prediction_disable.isSome := by
        rw [same.2,LocalEntity.shift,Option.isSome_map]
      rw [disabled]
      split
      · exact same
      · exact same.change now kind change
    | update_prediction_history max_rollback_ticks => exact same.update_prediction_history now max_rollback_ticks
    | finalize_deterministic_despawns max_rollback_ticks =>
      exact same.finalize_deterministic_despawns now max_rollback_ticks
    | pre_spawned_player_object_cleanup => exact same.pre_spawned_player_object_cleanup now
    | finish_catch_up => exact same.finish_catch_up

theorem Local.Shifted.run (same : self.Shifted delta shifted) (steps : List (LocalStep Kind Component))
    (fits : StepsFit delta self steps) :
    (self.run steps).Shifted delta (shifted.run (steps.map (·.shift delta))) := by
  induction steps generalizing self shifted with
  | nil => exact same
  | cons step steps ih => exact ih (same.step step fits.1) fits.2

omit [DecidableEq Kind]

theorem add_signed_zero (tick : Tick) : tick.add_signed 0 = tick := by
  refine BitVec.eq_of_toNat_eq ?_
  have := tick.isLt
  rw [Tick.toNat_add_signed]
  omega

theorem shift_entries_zero {α : Type} (entries : List (Tick × α)) : shift_entries 0 entries = entries := by
  simp [shift_entries,add_signed_zero]

theorem Replayed.shift_zero {C : Type} (self : Replayed C) : self.shift 0 = self := by
  have history : self.prediction_history.update_ticks 0 = self.prediction_history :=
    congrArg HistoryBuffer.mk (shift_entries_zero _)
  simp only [Replayed.shift,history]

theorem LocalEntity.shift_zero (self : LocalEntity Kind Component) : self.shift 0 = self := by
  have disabled : self.prediction_disable.map (·.add_signed 0) = self.prediction_disable := by simp [add_signed_zero]
  have components : (fun kind => (self.components kind).map (·.shift 0)) = self.components := by
    funext kind
    cases self.components kind with
    | none => rfl
    | some replayed => exact congrArg some replayed.shift_zero
  simp only [LocalEntity.shift,disabled,components]

/-- An entity that is not disabled is moved by the observer of its histories. -/
theorem LocalEntity.handled_iff {entity : LocalEntity Kind Component}
    (fits : ∀ tick ∈ entity.prediction_disable,Fits delta tick) :
    entity.each (·.prediction_disable.isNone) (·.shift delta) = entity.shift delta ↔
      delta = 0 ∨ entity.prediction_disable = none := by
  unfold LocalEntity.each
  cases disabled : entity.prediction_disable with
  | none => simp [LocalEntity.shift,disabled]
  | some tick =>
    constructor
    · intro same
      have unmoved := congrArg LocalEntity.prediction_disable same
      simp only [disabled,Option.isNone_some,Bool.false_eq_true,if_false,LocalEntity.shift,Option.map_some,
        Option.some.injEq] at unmoved
      exact .inl ((fits tick disabled).eq_self unmoved.symm)
    · rintro (rfl | none)
      · rw [if_neg (by simp [disabled]),LocalEntity.shift_zero]
      · exact nomatch none

/-- The observers move every record if there are no others. -/
theorem handled_iff (fits : self.TicksFit delta) :
    self.handle_local_timeline_shift delta = self.shift delta ↔ delta = 0 ∨ self.LeavesNothing := by
  have entities : self.lifetimes.entities.map (·.each (·.prediction_disable.isNone) (·.shift delta)) =
      self.lifetimes.entities.map (·.shift delta) ↔
        delta = 0 ∨ ∀ entity ∈ self.lifetimes.entities,entity.prediction_disable = none := by
    rw [List.map_inj_left,← forall_or_left]
    refine forall_congr' fun entity => ?_
    rw [← forall_or_left]
    exact forall_congr' fun member => LocalEntity.handled_iff (fits.disabled entity member)
  have queue {entries : List (Tick × Entity)} (fits : EntriesFit delta entries) :
      entries = shift_entries delta entries ↔ delta = 0 ∨ entries = [] := by
    refine ⟨fun same => shift_entries_eq_self fits same.symm,?_⟩
    rintro (rfl | rfl)
    · exact (shift_entries_zero _).symm
    · rfl
  simp only [Local.handle_local_timeline_shift,Local.shift,Lifetimes.shift,Local.mk.injEq,true_and,Lifetimes.mk.injEq,
    and_true,
    entities,queue fits.despawn,queue fits.skip_despawn,Local.LeavesNothing]
  tauto

variable [DecidableEq Kind]

/-- A jump of the local timeline is transparent to the decisions of all later runs if no record is left behind. -/
theorem shift_transparent_iff (reachable : Reachable self) (fits : self.TicksFit delta) :
    Transparent delta self ↔ delta = 0 ∨ self.LeavesNothing := by
  rw [← handled_iff fits]
  refine ⟨And.left,fun handled => ⟨handled,fun steps stepsFit => ?_⟩⟩
  have movable : self.lifetimes.Movable delta := by
    refine ⟨fun entity member => ⟨fits.disabled entity member,fun kind replayed isReplayed => ⟨?_,?_⟩⟩,fits.despawn,
      fits.skip_despawn,fits.unmatched,fits.matched⟩
    · exact fits.histories entity member kind replayed isReplayed
    · exact reachable.changing entity member kind replayed isReplayed
  have start : self.Shifted delta (self.shift delta) := ⟨fits.tick,rfl,movable,rfl⟩
  obtain ⟨-,ticks,-,lifetimes⟩ := start.run steps stepsFit
  rw [handled]
  exact (Local.mk.injEq ..).mpr ⟨ticks,lifetimes⟩

end

/-- The local timeline at tick 10. -/
private def tenth : Local Empty fun _ => Unit := ⟨10,.default⟩

/-- Nothing is in the queues. -/
theorem shift_transparent_default : Transparent 100 tenth := by
  have fits : tenth.TicksFit 100 :=
    ⟨by decide,nofun,nofun,nofun,nofun,nofun,nofun⟩
  exact (shift_transparent_iff (.start 10) fits).mpr (.inr ⟨rfl,rfl,nofun⟩)

/-- A bullet that is fired at tick 10. -/
private def fired : Local Empty fun _ => Unit :=
  tenth.step (.event (.spawn false ⟨1,false,some ⟨false,20⟩,false,fun kind => nomatch kind⟩))

/-- The timeline jumps by 100. A rollback to the tick before the bullet was fired does not despawn it. -/
theorem queue_left_behind :
    ¬∀ (self : Local Empty fun _ => Unit) (delta : Int),Reachable self → self.TicksFit delta →
      Transparent delta self := by
  intro transparent
  have fits : fired.TicksFit 100 := by
    refine ⟨by decide,EntriesFit.singleton (by decide) _,nofun,nofun,nofun,?_,?_⟩
    · intro entity member tick disabled
      cases List.mem_singleton.mp member
      exact nomatch disabled
    · exact fun _ _ kind => nomatch kind
  have decides := (transparent fired 100 (.step (.start 10) _) fits).2 [.rollback 9 false 20]
    ⟨⟨by decide,by decide,by decide⟩,trivial⟩
  exact absurd (congrArg (·.lifetimes.ids) decides) (by decide)

end Lightyear.Prediction
