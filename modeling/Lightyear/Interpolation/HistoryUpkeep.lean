import Lightyear.ConfirmedHistory
import Lightyear.Runs

/-!
The upkeep of the histories of interpolated components, `interpolate.rs`. A frame
carries the newest state forward, pops the entries that lie behind the interpolation
tick and then inserts or removes the live component by what it samples. What it pops
is compared here with a history from which nothing is ever popped.
-/
namespace Lightyear.Core
open Message Sorted

variable {C : Type}

namespace ConfirmedEntries

/-- Advances the newest value to a tick, with the tick that was the newest one. -/
def push_unchanged (self : ConfirmedEntries C) (tick : Tick) : ConfirmedEntries C × Option Tick :=
  match self.getLast? with
  | none => (self,none)
  | some (newest_tick,_) =>
    if tick ≤ newest_tick ∨ ((self.resolve_state_at_index (self.length - 1)).bind HistoryState.value).isNone then
      (self,none)
    else ((self.add_unchanged tick).1,if (self.add_unchanged tick).2 then some newest_tick else none)

def materialize_front_if_same_as_precedent (buffer : ConfirmedEntries C) (state : HistoryState C) :
    ConfirmedEntries C :=
  match buffer with
  | (tick,.SameAsPrecedent) :: rest => (tick,.Explicit state) :: rest
  | buffer => buffer

theorem materialize_ticks (buffer : ConfirmedEntries C) (state : HistoryState C) :
    (materialize_front_if_same_as_precedent buffer state).map Prod.fst = buffer.map Prod.fst := by
  unfold materialize_front_if_same_as_precedent
  split <;> rfl

/-- What remains when the oldest entry is popped. -/
def without_front : ConfirmedEntries C → ConfirmedEntries C
  | (_,.Explicit state) :: rest => materialize_front_if_same_as_precedent rest state
  | (_,.SameAsPrecedent) :: rest => rest
  | [] => []

theorem without_front_ticks (buffer : ConfirmedEntries C) :
    buffer.without_front.map Prod.fst = (buffer.map Prod.fst).tail := by
  rcases buffer with _ | ⟨⟨tick,state | _⟩,rest⟩
  · rfl
  · exact materialize_ticks rest state
  · rfl

/-- Pops the oldest entry, with its value. -/
def pop_present (self : ConfirmedEntries C) : ConfirmedEntries C × Option (Tick × C) :=
  (self.without_front,
    match self.head? with
    | some (tick,.Explicit (.Updated value)) => some (tick,value)
    | _ => none)

end ConfirmedEntries

namespace ConfirmedHistory

def len (self : ConfirmedHistory C) : Nat := self.buffer.length

def get_nth_tick (self : ConfirmedHistory C) (n : Nat) : Option Tick := (self.buffer[n]?).map Prod.fst

theorem sorted_push_unchanged {buffer : ConfirmedEntries C} (sorted : Ascending buffer) (tick : Tick) :
    Ascending (buffer.push_unchanged tick).1 := by
  unfold ConfirmedEntries.push_unchanged
  split
  · exact sorted
  · split
    · exact sorted
    · exact sorted_add_unchanged sorted tick

/-- Advances the newest value to a tick, with the tick that was the newest one. -/
def push_unchanged (self : ConfirmedHistory C) (tick : Tick) : ConfirmedHistory C × Option Tick :=
  (⟨(self.buffer.push_unchanged tick).1,sorted_push_unchanged self.sorted tick⟩,(self.buffer.push_unchanged tick).2)

theorem sorted_pop_present {buffer : ConfirmedEntries C} (sorted : Ascending buffer) :
    Ascending buffer.pop_present.1 := by
  have ticks : (buffer.map Prod.fst).Pairwise (· < ·) := List.pairwise_map.mpr sorted
  exact List.pairwise_map.mp (buffer.without_front_ticks ▸ ticks.tail)

/-- Pops the oldest entry, with its value. -/
def pop_present (self : ConfirmedHistory C) : ConfirmedHistory C × Option (Tick × C) :=
  (⟨self.buffer.pop_present.1,sorted_pop_present self.sorted⟩,self.buffer.pop_present.2)

theorem get_nth_state_eq (self : ConfirmedHistory C) (n : Nat) :
    self.get_nth_state n = (self.buffer[n]?).bind fun entry =>
      (resolved (self.buffer.take (n + 1))).map (entry.1,·) := by
  have resolves : self.buffer.resolve_state_at_index n = resolved (self.buffer.take (n + 1)) := rfl
  rw [get_nth_state,ConfirmedEntries.get_nth_state,resolves]
  cases self.buffer[n]? with
  | none => rfl
  | some entry => cases resolved (self.buffer.take (n + 1)) <;> rfl

section Newer
variable {self : ConfirmedHistory C} {tick : Tick}

theorem newer_of_newest (newer : ∀ newest ∈ self.buffer.getLast?,newest.1 < tick) :
    ∀ entry ∈ self.buffer,entry.1 < tick := by
  intro entry stored
  obtain ⟨newest,isNewest⟩ := Option.isSome_iff_exists.mp (List.getLast?_isSome.mpr (List.ne_nil_of_mem stored))
  exact (self.sorted.last_greatest isNewest entry stored).trans_lt (newer newest isNewest)

theorem insert_raw_newer (newer : ∀ entry ∈ self.buffer,entry.1 < tick) (raw : ConfirmedHistoryState C) :
    (self.insert_raw tick raw).buffer = self.buffer ++ [(tick,raw)] := by
  have below : self.buffer.filter (·.1 < tick) = self.buffer :=
    List.filter_eq_self.mpr fun entry stored => by simpa using newer entry stored
  have above : self.buffer.filter (tick < ·.1) = [] :=
    List.filter_eq_nil_iff.mpr fun entry stored => by simpa using (newer entry stored).le
  exact (put_eq self.sorted tick raw).trans (by rw [below,above])

theorem state_before_newer (newer : ∀ entry ∈ self.buffer,entry.1 < tick) :
    self.state_before tick = resolved self.buffer := by
  rw [state_before_eq,List.filter_eq_self.mpr fun entry stored => by simpa using newer entry stored]

theorem insert_where_newer (newer : ∀ entry ∈ self.buffer,entry.1 < tick) (eq : HistoryState C → HistoryState C → Bool)
    (state : HistoryState C) :
    self.insert_where eq tick state =
      self.insert_raw tick (if (resolved self.buffer).any (eq · state) then .SameAsPrecedent else .Explicit state) := by
  rw [← state_before_newer newer]
  rfl

theorem add_unchanged_newer (newer : ∀ entry ∈ self.buffer,entry.1 < tick) :
    self.add_unchanged tick =
      if (resolved self.buffer).isNone then (self,false) else (self.insert_raw tick .SameAsPrecedent,true) := by
  have absent : self.get_state_at tick = none := get_state_at_absent fun raw stored => lt_irrefl _ (newer _ stored)
  rw [add_unchanged_eq,absent,state_before_newer newer]
  simp

/-- A completed tick is marked when it is newer than the newest entry and this one is a value. -/
theorem push_unchanged_eq (self : ConfirmedHistory C) (tick : Tick) :
    (self.push_unchanged tick).1 =
      if (∀ newest ∈ self.buffer.getLast?,
        newest.1 < tick) ∧ ((resolved self.buffer).bind HistoryState.value).isSome then
        self.insert_raw tick .SameAsPrecedent
      else self := by
  apply ConfirmedHistory.ext
  change (self.buffer.push_unchanged tick).1 = _
  unfold ConfirmedEntries.push_unchanged
  cases isNewest : self.buffer.getLast? with
  | none => simp [List.getLast?_eq_none_iff.mp isNewest]
  | some newest =>
    obtain ⟨newest_tick,newest_raw⟩ := newest
    have positive : self.buffer.length - 1 + 1 = self.buffer.length :=
      Nat.sub_add_cancel (List.length_pos_of_mem (List.mem_of_getLast? isNewest))
    have whole : self.buffer.resolve_state_at_index (self.buffer.length - 1) = resolved self.buffer :=
      show resolved (self.buffer.take (self.buffer.length - 1 + 1)) = _ by rw [positive,List.take_length]
    simp only [whole,Option.mem_def,Option.some.injEq,forall_eq',← not_le]
    by_cases old : tick ≤ newest_tick
    · simp [old]
    · have newer : ∀ entry ∈ self.buffer,entry.1 < tick := newer_of_newest (by simpa [isNewest] using old)
      have added := add_unchanged_newer newer
      cases resolves : resolved self.buffer with
      | none => simp
      | some state =>
        rw [resolves,if_neg (by simp)] at added
        have marked : (self.buffer.add_unchanged tick).1 = (self.insert_raw tick .SameAsPrecedent).buffer :=
          congrArg (·.1.buffer) added
        cases state <;> simp [HistoryState.value,old,marked]

end Newer

end ConfirmedHistory
end Lightyear.Core

namespace Lightyear.Interpolation
open Message Sorted Lightyear.Core Runs

variable {C Overstep Duration Context : Type}

/-- The loop of `drain_old_history`, for a number of rounds. -/
def drain_rounds (current_interpolate_tick : Tick) : Nat → ConfirmedHistory C → ConfirmedHistory C
  | 0, history => history
  | rounds + 1, history =>
    if 3 ≤ history.len ∧ (history.get_nth_tick 1).any (· ≤ current_interpolate_tick) then
      drain_rounds current_interpolate_tick rounds history.pop_present.1
    else history

/-- Every round pops an entry, so that the length of the history is enough rounds. -/
def drain_old_history (history : ConfirmedHistory C) (current_interpolate_tick : Tick) : ConfirmedHistory C :=
  drain_rounds current_interpolate_tick history.len history

def previous_index (history : ConfirmedHistory C) (interpolation_tick : Tick) : Option Nat :=
  ((List.range history.len).takeWhile fun i => (history.get_nth_tick i).any (· ≤ interpolation_tick)).getLast?

section
/- `InterpolationSampleContext::from_ticks` -/
variable (from_ticks : Tick → Tick → Tick → Overstep → Option Duration → Context)

def sample_history_with_interpolation (interpolation : Option (C → C → Context → C)) (history : ConfirmedHistory C)
    (interpolation_tick : Tick) (interpolation_overstep : Overstep) (tick_duration : Option Duration) :
    Option (HistoryState C) := do
  let previous_index ← previous_index history interpolation_tick
  let (start_tick,start_state) ← history.get_nth_state previous_index
  match start_state with
  | .Removed => some .Removed
  | .Updated start =>
    match history.get_nth_state (previous_index + 1), interpolation with
    | some (end_tick,.Updated last), some interpolate =>
      let context := from_ticks start_tick end_tick interpolation_tick interpolation_overstep tick_duration
      some (.Updated (interpolate start last context))
    | _, _ => some (.Updated start)

structure UpdateHistoryContext (Overstep Duration : Type) where
  server_complete_tick : Option Tick
  current_interpolate_tick : Tick
  interpolation_overstep : Overstep
  tick_duration : Option Duration

/-- The part of `update_history_inner` before the drain. -/
def advance_unchanged (history : ConfirmedHistory C) (server_complete_tick : Option Tick) : ConfirmedHistory C :=
  match server_complete_tick with
  | some tick => (history.push_unchanged tick).1
  | none => history

def update_history_inner (history : ConfirmedHistory C) (ctx : UpdateHistoryContext Overstep Duration) :
    ConfirmedHistory C :=
  drain_old_history (advance_unchanged history ctx.server_complete_tick) ctx.current_interpolate_tick

/-- A deferred command on the live component. -/
inductive Deferred (C : Type) where
  | remove
  | insert (value : C)

def queue_history_presence (present : Bool) (sample : Option (HistoryState C)) : Option (Deferred C) :=
  match sample, present with
  | none, true => some .remove
  | some .Removed, true => some .remove
  | some (.Updated value), false => some (.insert value)
  | _, _ => none

def Deferred.apply (live : Option C) : Option (Deferred C) → Option C
  | none => live
  | some .remove => none
  | some (.insert value) => some value

/-- An interpolated entity, with the history from which nothing was popped. -/
structure Interpolated (C : Type) where
  full : ConfirmedHistory C
  history : ConfirmedHistory C
  current : Tick
  live : Option C

/-- `update_history_archetype_erased` of one entity, with the deferred command applied. -/
def Interpolated.frame (entity : Interpolated C) (interpolation : Option (C → C → Context → C))
    (ctx : UpdateHistoryContext Overstep Duration) : Interpolated C :=
  let history := update_history_inner entity.history ctx
  let sample := sample_history_with_interpolation from_ticks interpolation history ctx.current_interpolate_tick
    ctx.interpolation_overstep ctx.tick_duration
  { full := advance_unchanged entity.full ctx.server_complete_tick
    history := history
    current := ctx.current_interpolate_tick
    live := Deferred.apply entity.live (queue_history_presence entity.live.isSome sample) }

/-- The states that replication writes, and the frames. -/
inductive Event (C Overstep Duration Context : Type) where
  | insert (tick : Tick) (state : HistoryState C)
  | insert_explicit (tick : Tick) (state : HistoryState C)
  | add_unchanged (tick : Tick)
  | frame (interpolation : Option (C → C → Context → C)) (ctx : UpdateHistoryContext Overstep Duration)

def step (eq : HistoryState C → HistoryState C → Bool) (entity : Interpolated C) :
    Event C Overstep Duration Context → Option (Interpolated C)
  | .insert tick state =>
    some { entity with
      full := entity.full.insert_where eq tick state, history := entity.history.insert_where eq tick state }
  | .insert_explicit tick state =>
    some { entity with
      full := entity.full.insert_explicit tick state, history := entity.history.insert_explicit tick state }
  | .add_unchanged tick =>
    some { entity with full := (entity.full.add_unchanged tick).1, history := (entity.history.add_unchanged tick).1 }
  | .frame interpolation ctx => some (entity.frame from_ticks interpolation ctx)
end

/-- The ticks of inserts are newer than the newest entry, and those of frames do not decrease. -/
def Later (entity : Interpolated C) : Event C Overstep Duration Context → Interpolated C → Prop
  | .insert tick _, _ | .insert_explicit tick _, _ | .add_unchanged tick, _ =>
    ∀ newest ∈ entity.full.buffer.getLast?, newest.1 < tick
  | .frame _ ctx, _ => entity.current ≤ ctx.current_interpolate_tick

instance (entity : Interpolated C) (event : Event C Overstep Duration Context) (after : Interpolated C) :
    Decidable (Later entity event after) := by
  cases event <;> unfold Later <;> infer_instance

private theorem takeWhile_range {α : Type} (holds : α → Bool) (entries : List α) :
    (List.range entries.length).takeWhile (fun i => (entries[i]?).any holds) =
      List.range (entries.takeWhile holds).length := by
  induction entries with
  | nil => rfl
  | cons first rest ih =>
    rw [List.length_cons,List.range_succ_eq_map]
    cases passes : holds first with
    | false => simp [passes]
    | true =>
      rw [List.takeWhile_cons_of_pos passes,List.length_cons,List.range_succ_eq_map,← ih]
      simp [passes,List.takeWhile_map,Function.comp_def]

theorem previous_index_eq (history : ConfirmedHistory C) (tick : Tick) :
    previous_index history tick = (List.range (VecDeque.partition_point (·.1 ≤ tick) history.buffer)).getLast? := by
  rw [VecDeque.partition_point,← takeWhile_range,previous_index]
  simp [ConfirmedHistory.len,ConfirmedHistory.get_nth_tick,Option.any_map]

/-- What the component is sampled as, for an interpolation that never removes it. -/
theorem sample_present (from_ticks : Tick → Tick → Tick → Overstep → Option Duration → Context)
    (interpolation : Option (C → C → Context → C)) (history : ConfirmedHistory C) (tick : Tick) (overstep : Overstep)
    (duration : Option Duration) :
    (∃ value,sample_history_with_interpolation from_ticks interpolation history tick overstep duration =
      some (.Updated value)) ↔
      ∃ value,history.get_state_at_or_before tick = some (.Updated value) := by
  rw [history.get_state_at_or_before_eq,← (history.sorted.upTo tick).1,sample_history_with_interpolation,
    previous_index_eq]
  cases isPoint : VecDeque.partition_point (·.1 ≤ tick) history.buffer with
  | zero => simp
  | succ previous =>
    obtain ⟨entry,rest,stored,-⟩ := VecDeque.partition_point_succ isPoint
    have nth : history.buffer[previous]? = some entry := by rw [← List.head?_drop,stored,List.head?_cons]
    have reads : history.get_nth_state previous =
        (ConfirmedHistory.resolved (history.buffer.take (previous + 1))).map (entry.1,·) := by
      rw [history.get_nth_state_eq,nth,Option.bind_some]
    simp only [List.getLast?_range,Nat.add_one_ne_zero,↓reduceIte,Nat.add_one_sub_one,Option.bind_eq_bind,
      Option.bind_some,reads]
    cases ConfirmedHistory.resolved (history.buffer.take (previous + 1)) with
    | none => simp
    | some state =>
      cases state with
      | Removed => simp
      | Updated start =>
        simp only [Option.map_some,Option.bind_some]
        split <;> simp

/-! ### Histories that differ by what was popped -/

/-- One history is the other without some of its oldest entries. What remains begins with the state that they led
to, and they were passed by the interpolation tick. -/
def Drained (current : Tick) (full history : ConfirmedHistory C) : Prop :=
  full.buffer = [] ∧ history.buffer = [] ∨
    ∃ dropped tick raw state rest,full.buffer = dropped ++ (tick,raw) :: rest ∧
      history.buffer = (tick,.Explicit state) :: rest ∧
      ConfirmedHistory.resolved (dropped ++ [(tick,raw)]) = some state ∧ (dropped ≠ [] → tick ≤ current)

variable {current tick : Tick} {full history : ConfirmedHistory C}

theorem Drained.start (front : ∀ first ∈ history.buffer.head?,first.2 ≠ .SameAsPrecedent) (current : Tick) :
    Drained current history history := by
  cases stored : history.buffer with
  | nil => exact .inl ⟨stored,stored⟩
  | cons first rest =>
    obtain ⟨tick,state | _⟩ := first
    · exact .inr ⟨[],tick,.Explicit state,state,rest,stored,stored,rfl,fun some => absurd rfl some⟩
    · exact absurd rfl (front _ (by rw [stored,List.head?_cons]; rfl))

theorem Drained.mono {later : Tick} (drained : Drained current full history) (after : current ≤ later) :
    Drained later full history := by
  rcases drained with none | ⟨dropped,tick,raw,state,rest,isFull,isHistory,reads,passed⟩
  · exact .inl none
  · exact .inr ⟨dropped,tick,raw,state,rest,isFull,isHistory,reads,fun some => (passed some).trans after⟩

theorem Drained.ticks (drained : Drained current full history) :
    ∃ dropped,full.buffer.map Prod.fst = dropped ++ history.buffer.map Prod.fst := by
  rcases drained with ⟨isFull,isHistory⟩ | ⟨dropped,tick,raw,state,rest,isFull,isHistory,-⟩
  · exact ⟨[],by rw [isFull,isHistory]; rfl⟩
  · exact ⟨dropped.map Prod.fst,by simp [isFull,isHistory]⟩

theorem Drained.newest (drained : Drained current full history) :
    history.buffer.getLast?.map Prod.fst = full.buffer.getLast?.map Prod.fst := by
  rcases drained with ⟨isFull,isHistory⟩ | ⟨dropped,tick,raw,state,rest,isFull,isHistory,-⟩
  · rw [isFull,isHistory]
  · rw [isFull,isHistory,List.getLast?_append_of_ne_nil _ (List.cons_ne_nil _ _)]
    simp only [List.getLast?_cons]
    cases rest.getLast? <;> rfl

/-- The whole histories read the same. -/
theorem Drained.reads (drained : Drained current full history) :
    ConfirmedHistory.resolved history.buffer = ConfirmedHistory.resolved full.buffer := by
  rcases drained with ⟨isFull,isHistory⟩ | ⟨dropped,tick,raw,state,rest,isFull,isHistory,reads,-⟩
  · rw [isFull,isHistory]
  · rw [isFull,isHistory,List.append_cons,ConfirmedHistory.resolved_append _ rest,reads,← List.singleton_append,
      ConfirmedHistory.resolved_append _ rest]
    rfl

theorem Drained.snoc (drained : Drained current full history) {full' history' : ConfirmedHistory C}
    {entry : Tick × ConfirmedHistoryState C} (isFull : full'.buffer = full.buffer ++ [entry])
    (isHistory : history'.buffer = history.buffer ++ [entry])
    (explicit : full.buffer = [] → entry.2 ≠ .SameAsPrecedent) :
    Drained current full' history' := by
  rcases drained with ⟨none,none'⟩ | ⟨dropped,tick,raw,state,rest,wasFull,wasHistory,reads,passed⟩
  · rw [none,List.nil_append] at isFull
    rw [none',List.nil_append] at isHistory
    obtain ⟨tick,state | _⟩ := entry
    · exact .inr ⟨[],tick,.Explicit state,state,[],isFull,isHistory,rfl,fun some => absurd rfl some⟩
    · exact absurd rfl (explicit none)
  · refine .inr ⟨dropped,tick,raw,state,rest ++ [entry],?_,?_,reads,passed⟩
    · rw [isFull,wasFull,List.append_assoc,List.cons_append]
    · rw [isHistory,wasHistory,List.cons_append]

theorem Drained.newer (drained : Drained current full history) (newer : ∀ entry ∈ full.buffer,entry.1 < tick) :
    ∀ entry ∈ history.buffer,entry.1 < tick := by
  intro entry stored
  obtain ⟨dropped,ticks⟩ := drained.ticks
  obtain ⟨other,member,same⟩ := List.mem_map.mp (ticks ▸ List.mem_append_right dropped (List.mem_map_of_mem stored))
  exact same ▸ newer other member

theorem Drained.insert_raw (drained : Drained current full history) (newer : ∀ entry ∈ full.buffer,entry.1 < tick)
    {raw : ConfirmedHistoryState C} (explicit : full.buffer = [] → raw ≠ .SameAsPrecedent) :
    Drained current (full.insert_raw tick raw) (history.insert_raw tick raw) :=
  drained.snoc (ConfirmedHistory.insert_raw_newer newer raw)
    (ConfirmedHistory.insert_raw_newer (drained.newer newer) raw) explicit

theorem Drained.insert_where (drained : Drained current full history) (newer : ∀ entry ∈ full.buffer,entry.1 < tick)
    (eq : HistoryState C → HistoryState C → Bool) (state : HistoryState C) :
    Drained current (full.insert_where eq tick state) (history.insert_where eq tick state) := by
  rw [ConfirmedHistory.insert_where_newer newer,ConfirmedHistory.insert_where_newer (drained.newer newer),drained.reads]
  refine drained.insert_raw newer fun none => ?_
  simp [none]

theorem Drained.add_unchanged (drained : Drained current full history) (newer : ∀ entry ∈ full.buffer,entry.1 < tick) :
    Drained current (full.add_unchanged tick).1 (history.add_unchanged tick).1 := by
  rw [ConfirmedHistory.add_unchanged_newer newer,ConfirmedHistory.add_unchanged_newer (drained.newer newer),
    drained.reads]
  split
  · exact drained
  next some => exact drained.insert_raw newer fun none => absurd (by rw [none]; rfl) some

theorem Drained.push_unchanged (drained : Drained current full history) (tick : Tick) :
    Drained current (full.push_unchanged tick).1 (history.push_unchanged tick).1 := by
  have newest : (∀ newest ∈ history.buffer.getLast?,newest.1 < tick) ↔
      ∀ newest ∈ full.buffer.getLast?,newest.1 < tick := by
    have ticks := drained.newest
    cases h : history.buffer.getLast? <;> cases f : full.buffer.getLast? <;> simp_all
  rw [ConfirmedHistory.push_unchanged_eq,ConfirmedHistory.push_unchanged_eq,drained.reads]
  simp only [newest]
  split
  next advances =>
    refine drained.insert_raw (ConfirmedHistory.newer_of_newest advances.1) fun none => ?_
    rw [none] at advances
    exact nomatch advances.2
  · exact drained

private theorem without_front_cons (tick second_tick : Tick) (state : HistoryState C) (raw : ConfirmedHistoryState C)
    (rest : List (Tick × ConfirmedHistoryState C)) :
    ConfirmedEntries.without_front ((tick,.Explicit state) :: (second_tick,raw) :: rest) =
      (second_tick,.Explicit (raw.explicit_state.getD state)) :: rest := by
  cases raw <;> rfl

theorem Drained.pop (drained : Drained current full history)
    (passed : 3 ≤ history.len ∧ (history.get_nth_tick 1).any (· ≤ current)) :
    Drained current full history.pop_present.1 := by
  rcases drained with ⟨-,isHistory⟩ | ⟨dropped,tick,raw,state,rest,isFull,isHistory,reads,-⟩
  · simp [ConfirmedHistory.len,isHistory] at passed
  · obtain ⟨some,behind⟩ := passed
    obtain _ | ⟨⟨second_tick,second⟩,rest⟩ := rest
    · simp [ConfirmedHistory.len,isHistory] at some
    · rw [ConfirmedHistory.get_nth_tick,isHistory] at behind
      refine .inr ⟨dropped ++ [(tick,raw)],second_tick,second,second.explicit_state.getD state,rest,?_,?_,?_,?_⟩
      · rw [isFull,List.append_cons]
      · exact (congrArg ConfirmedEntries.without_front isHistory).trans (without_front_cons ..)
      · rw [ConfirmedHistory.resolved_snoc,reads]
        cases second <;> rfl
      · exact fun _ => by simpa using behind

theorem Drained.drain_rounds (drained : Drained current full history) (rounds : Nat) :
    Drained current full (drain_rounds current rounds history) := by
  induction rounds generalizing history with
  | zero => exact drained
  | succ rounds ih =>
    unfold Interpolation.drain_rounds
    split
    next passed => exact ih (drained.pop passed)
    · exact drained

theorem length_pop (history : ConfirmedHistory C) : history.pop_present.1.len = history.len - 1 := by
  have ticks := congrArg List.length (ConfirmedEntries.without_front_ticks history.buffer)
  simpa [ConfirmedHistory.pop_present,ConfirmedEntries.pop_present,ConfirmedHistory.len] using ticks

/-- The rounds are enough: the loop of the drain has come to its end. -/
theorem drain_finished (history : ConfirmedHistory C) (current : Tick) :
    ¬ (3 ≤ (drain_old_history history current).len ∧
      ((drain_old_history history current).get_nth_tick 1).any (· ≤ current)) := by
  have enough (rounds : Nat) (history : ConfirmedHistory C) (most : history.len ≤ rounds) :
      ¬ (3 ≤ (drain_rounds current rounds history).len ∧
        ((drain_rounds current rounds history).get_nth_tick 1).any (· ≤ current)) := by
    induction rounds generalizing history with
    | zero => exact fun ended => absurd (ended.1.trans most) (by decide)
    | succ rounds ih =>
      unfold drain_rounds
      split
      · exact ih _ (by rw [length_pop]; omega)
      next ended => exact ended
  exact enough _ history le_rfl

/-- From the interpolation tick on the indices of a drained history are those of the other one, moved by a constant. -/
theorem Drained.indices (drained : Drained current full history) :
    ∃ offset,(∀ tick,current ≤ tick → previous_index full tick = (previous_index history tick).map (offset + ·)) ∧
      ∀ n,full.get_nth_state (offset + n) = history.get_nth_state n := by
  rcases drained with ⟨isFull,isHistory⟩ | ⟨dropped,tick,raw,state,rest,isFull,isHistory,reads,passed⟩
  · refine ⟨0,fun tick _ => ?_,fun n => ?_⟩
    · simp [previous_index_eq,isFull,isHistory,VecDeque.partition_point]
    · simp [ConfirmedHistory.get_nth_state_eq,isFull,isHistory]
  · refine ⟨dropped.length,fun later after => ?_,fun n => ?_⟩
    · have point : VecDeque.partition_point (·.1 ≤ later) history.buffer =
          VecDeque.partition_point (·.1 ≤ later) ((tick,raw) :: rest) := by
        rw [isHistory,VecDeque.partition_point,VecDeque.partition_point]
        by_cases behind : tick ≤ later <;> simp [behind]
      rw [previous_index_eq,previous_index_eq,point,isFull]
      by_cases none : dropped = []
      · simp [none]
      · have behind : tick ≤ later := (passed none).trans after
        have before : ∀ entry ∈ dropped,entry.1 < tick := fun entry stored =>
          (List.pairwise_append.mp (isFull ▸ full.sorted)).2.2 entry stored (tick,raw) List.mem_cons_self
        have all : ∀ entry ∈ dropped,decide (entry.1 ≤ later) = true := fun entry stored => by
          simpa using (before entry stored).le.trans behind
        rw [VecDeque.partition_point,VecDeque.partition_point,List.takeWhile_append_of_pos all,
          List.takeWhile_cons_of_pos (by simpa using behind),
          List.length_append,List.length_cons]
        simp [List.getLast?_range,Nat.add_sub_assoc]
    · have stored : (full.buffer[dropped.length + n]?).map Prod.fst = (history.buffer[n]?).map Prod.fst := by
        rw [isFull,isHistory,List.getElem?_append_right (Nat.le_add_right _ _),Nat.add_sub_cancel_left]
        cases n <;> rfl
      have states : ConfirmedHistory.resolved (full.buffer.take (dropped.length + n + 1)) =
          ConfirmedHistory.resolved (history.buffer.take (n + 1)) := by
        rw [isFull,isHistory,Nat.add_assoc,List.take_length_add_append,List.take_succ_cons,List.take_succ_cons,
          List.append_cons,
          ConfirmedHistory.resolved_append _ (rest.take n),reads,← List.singleton_append,
          ConfirmedHistory.resolved_append _ (rest.take n)]
        rfl
      rw [ConfirmedHistory.get_nth_state_eq,ConfirmedHistory.get_nth_state_eq,states]
      cases f : full.buffer[dropped.length + n]? <;> cases h : history.buffer[n]? <;> simp_all

theorem Drained.sample (drained : Drained current full history)
    (from_ticks : Tick → Tick → Tick → Overstep → Option Duration → Context)
    (interpolation : Option (C → C → Context → C)) (after : current ≤ tick) (overstep : Overstep)
    (duration : Option Duration) :
    sample_history_with_interpolation from_ticks interpolation history tick overstep duration =
      sample_history_with_interpolation from_ticks interpolation full tick overstep duration := by
  obtain ⟨offset,index,states⟩ := drained.indices
  rw [sample_history_with_interpolation,sample_history_with_interpolation,index tick after]
  cases previous_index history tick with
  | none => rfl
  | some previous => simp [states,Nat.add_assoc]

/-! ### Runs -/

theorem Drained.frame (drained : Drained current full history) (ctx : UpdateHistoryContext Overstep Duration)
    (after : current ≤ ctx.current_interpolate_tick) :
    Drained ctx.current_interpolate_tick (advance_unchanged full ctx.server_complete_tick)
      (update_history_inner history ctx) := by
  have advanced : Drained current (advance_unchanged full ctx.server_complete_tick)
      (advance_unchanged history ctx.server_complete_tick) := by
    cases ctx.server_complete_tick with
    | none => exact drained
    | some tick => exact drained.push_unchanged tick
  exact (advanced.mono after).drain_rounds _

section Run
variable (from_ticks : Tick → Tick → Tick → Overstep → Option Duration → Context)
  (eq : HistoryState C → HistoryState C → Bool)

theorem step_drained {entity after : Interpolated C} {event : Event C Overstep Duration Context}
    (drained : Drained entity.current entity.full entity.history)
    (executed : step from_ticks eq entity event = some after)
    (later : Later entity event after) : Drained after.current after.full after.history := by
  cases event with
  | insert tick state =>
    cases executed
    exact drained.insert_where (ConfirmedHistory.newer_of_newest later) eq state
  | insert_explicit tick state =>
    cases executed
    exact drained.insert_raw (ConfirmedHistory.newer_of_newest later) fun _ => (nomatch ·)
  | add_unchanged tick =>
    cases executed
    exact drained.add_unchanged (ConfirmedHistory.newer_of_newest later)
  | frame interpolation ctx =>
    cases executed
    exact drained.frame ctx later

/-- The presence that a sample leads to. -/
theorem queue_history_presence_apply (live : Option C) (sample : Option (HistoryState C)) :
    (Deferred.apply live (queue_history_presence live.isSome sample)).isSome ↔
      ∃ value,sample = some (.Updated value) := by
  rcases live with _ | value <;> rcases sample with _ | _ | other <;> simp [queue_history_presence,Deferred.apply]

/-- From the interpolation tick on a history samples as if nothing had been popped from it, and the live component is
present after a frame exactly if the newest state up to the tick is a value. -/
theorem upkeep_invisible {first : ConfirmedHistory C}
    (front : ∀ oldest ∈ first.buffer.head?,oldest.2 ≠ .SameAsPrecedent)
    {start : Tick} {live : Option C} {entity : Interpolated C}
    (reached : Reaches (step from_ticks eq) Later ⟨first,first,start,live⟩ entity) :
    (∀ (interpolation : Option (C → C → Context → C)) (tick : Tick),entity.current ≤ tick →
      ∀ (overstep : Overstep) (duration : Option Duration),
        sample_history_with_interpolation from_ticks interpolation entity.history tick overstep duration =
          sample_history_with_interpolation from_ticks interpolation entity.full tick overstep duration) ∧
    ∀ (interpolation : Option (C → C → Context → C)) (ctx : UpdateHistoryContext Overstep Duration),
      entity.current ≤ ctx.current_interpolate_tick →
        let after := entity.frame from_ticks interpolation ctx
        after.live.isSome ↔ ∃ value,after.full.get_state_at_or_before ctx.current_interpolate_tick =
          some (.Updated value) := by
  have drained : Drained entity.current entity.full entity.history :=
    reached.invariant (fun entity => Drained entity.current entity.full entity.history) (.start front start)
      fun _ _ _ drained executed later => step_drained from_ticks eq drained executed later
  constructor
  · exact fun interpolation tick after overstep duration =>
      drained.sample from_ticks interpolation after overstep duration
  · intro interpolation ctx later
    have sampled := (drained.frame ctx later).sample from_ticks interpolation le_rfl ctx.interpolation_overstep
      ctx.tick_duration
    simp only [Interpolated.frame,queue_history_presence_apply,sampled]
    exact sample_present ..

end Run

/-- Linear interpolation on whole numbers. -/
def linear (start last : Nat) (context : Tick × Tick × Tick) : Nat :=
  start + (last - start) * (context.2.2.toNat - context.1.toNat) / (context.2.1.toNat - context.1.toNat)

/-- A marker becomes the oldest entry of a history and is then popped as well. -/
theorem upkeep_invisible_marker :
    let from_ticks (start last tick : Tick) (_ : Unit) (_ : Option Unit) := (start,last,tick)
    ∃ entity : Interpolated Nat,(entity.history.len = 2 ∧ entity.full.len = 4 ∧ entity.current ≤ 35) ∧
      sample_history_with_interpolation from_ticks (some linear) entity.history 35 () none =
        sample_history_with_interpolation from_ticks (some linear) entity.full 35 () none := by
  intro from_ticks
  let first : ConfirmedHistory Nat := ⟨[(10,.Explicit (.Updated 4)),(20,.SameAsPrecedent)],by decide⟩
  obtain ⟨entity,reached,lengths⟩ := reaches_of_check (step from_ticks fun a b => decide (a = b)) Later
    (⟨first,first,5,none⟩ : Interpolated Nat)
    (fun entity => entity.history.len = 2 ∧ entity.full.len = 4 ∧ entity.current ≤ 35)
    [.insert 30 (.Updated 4),.frame (some linear) ⟨none,25,(),none⟩,.insert_explicit 40 (.Updated 9),
      .frame (some linear) ⟨none,33,(),none⟩] (by decide +kernel)
  simp only [decide_eq_true_eq] at lengths
  exact ⟨entity,lengths,(upkeep_invisible from_ticks _ (by decide) reached).1 (some linear) 35 lengths.2.2 () none⟩

end Lightyear.Interpolation
