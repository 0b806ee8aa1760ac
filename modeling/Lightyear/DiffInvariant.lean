import Lightyear.DiffWire
import Lightyear.Runs
import Lightyear.Snoc

/-!
What `HistoryDiffReceiver` says of itself: the retained base is at the lowest tick, and
the cursors of the states after it and of the messages that wait are newer. A state that
arrives late is recorded at its own tick, however old it is.
-/
namespace Lightyear.DiffHistory
open Message Lightyear.Core Runs

variable {I C Diff E : Type}

/-- Shifts all the ticks. -/
def HistoryDiffReceiver.update_ticks (delta : Int) (self : HistoryDiffReceiver I Diff) :
    HistoryDiffReceiver I Diff where
  base_cursor := self.base_cursor
  base_tick := self.base_tick.map (·.add_signed delta)
  diff_ticks := self.diff_ticks.map fun entry => (entry.1,entry.2.add_signed delta)
  pending := self.pending.map fun pending => {pending with tick := pending.tick.add_signed delta}

/-- The operations of a receiver, each with the confirmed history that it is given. -/
inductive ReceiverEvent (I C Diff : Type) where
  | record_cursor (tick : Tick) (cursor : Option I)
  | queue_diffs (tick : Tick) (first_diff_index : I) (diffs : List Diff)
  | take_ready_update (history : ConfirmedHistory C)
  | clear_before_tick (tick : Tick) (history : ConfirmedHistory C)
  | update_ticks (delta : Int)

namespace HistoryDiffReceiver
section
variable [DecidableEq I] (indexing : DiffIndexing I)

/-- A message with too many diffs is an error, and is not queued. -/
def step (apply_diff : C → Diff → Except E C) (self : HistoryDiffReceiver I Diff) :
    ReceiverEvent I C Diff → Option (HistoryDiffReceiver I Diff)
  | .record_cursor tick cursor => some (self.record_cursor indexing tick cursor)
  | .queue_diffs tick first_diff_index diffs =>
    match (self.queue_diffs indexing tick first_diff_index diffs : Except (DiffError I E) _) with
    | .ok receiver => some receiver
    | .error _ => some self
  | .take_ready_update history => some (self.take_ready_update indexing apply_diff history).1
  | .clear_before_tick tick history => some (self.clear_before_tick indexing tick history)
  | .update_ticks delta => some (self.update_ticks delta)

/-- A cursor is recorded at no tick before that of the retained base, and the base not again after that of a
newer cursor. -/
def Timely (self : HistoryDiffReceiver I Diff) (tick : Tick) (cursor : I) : Prop :=
  if self.base_cursor = some cursor then self.base_tick.all (· ≤ tick) = true → self.diff_ticks.all (tick ≤ ·.2) = true
  else self.is_retired_cursor indexing cursor = true ∨ self.base_tick.all (· ≤ tick) = true

instance (self : HistoryDiffReceiver I Diff) (tick : Tick) (cursor : I) :
    Decidable (self.Timely indexing tick cursor) := by
  unfold Timely
  infer_instance

/-- The documented invariant. -/
structure Retained (receiver : HistoryDiffReceiver I Diff) : Prop where
  lowest : ∀ base_tick,receiver.base_tick = some base_tick → ∀ entry ∈ receiver.diff_ticks,base_tick ≤ entry.2
  newer : ∀ base_cursor,receiver.base_cursor = some base_cursor →
    ∀ entry ∈ receiver.diff_ticks,indexing.is_newer entry.1 base_cursor = true
  once : (receiver.diff_ticks.map Prod.fst).Nodup
  pending : ∀ base_cursor,receiver.base_cursor = some base_cursor →
    ∀ message ∈ receiver.pending,message.is_newer indexing base_cursor = true

/-- What a pruning leaves: the base, if any, at its tick, and newer cursors from there on. -/
structure Pruned (before : HistoryDiffReceiver I Diff) (tick : Tick) (after : HistoryDiffReceiver I Diff) : Prop where
  idle : after.pending = []
  atTick : ∀ base_tick,after.base_tick = some base_tick → base_tick = tick
  kept : after.diff_ticks.Sublist before.diff_ticks
  late : ∀ entry ∈ after.diff_ticks,tick ≤ entry.2
  newer : ∀ base_cursor,after.base_cursor = some base_cursor →
    ∀ entry ∈ after.diff_ticks,indexing.is_newer entry.1 base_cursor = true
end

/-- The indexes are not half the index space apart. -/
def Comparable (index other : BitVec 16) : Prop := index - other ≠ BitVec.intMin 16

instance (index other : BitVec 16) : Decidable (Comparable index other) := inferInstanceAs (Decidable (_ ≠ _))

/-- The state before a message can be compared with the base. -/
def InWindow (indexing : DiffIndexing (BitVec 16)) (self : HistoryDiffReceiver (BitVec 16) Diff) :
    ReceiverEvent (BitVec 16) C Diff → HistoryDiffReceiver (BitVec 16) Diff → Prop
  | .queue_diffs _ first_diff_index _, _ => ∀ base_cursor ∈ self.base_cursor,
      Comparable base_cursor (indexing.sub first_diff_index 1)
  | _, _ => True

/-- Cursors are recorded timely. -/
def Meets (indexing : DiffIndexing (BitVec 16)) (self : HistoryDiffReceiver (BitVec 16) Diff) :
    ReceiverEvent (BitVec 16) C Diff → HistoryDiffReceiver (BitVec 16) Diff → Prop
  | .record_cursor tick (some cursor), _ => self.Timely indexing tick cursor
  | event, after => self.InWindow indexing event after

instance (indexing : DiffIndexing (BitVec 16)) (self after : HistoryDiffReceiver (BitVec 16) Diff) :
    (event : ReceiverEvent (BitVec 16) C Diff) → Decidable (self.InWindow indexing event after)
  | .queue_diffs _ _ _ => Option.decidableForallMem self.base_cursor
  | .record_cursor _ _ | .take_ready_update _ | .clear_before_tick _ _ | .update_ticks _ =>
    inferInstanceAs (Decidable True)

instance (indexing : DiffIndexing (BitVec 16)) (self after : HistoryDiffReceiver (BitVec 16) Diff) :
    (event : ReceiverEvent (BitVec 16) C Diff) → Decidable (self.Meets indexing event after)
  | .record_cursor tick (some cursor) => inferInstanceAs (Decidable (self.Timely indexing tick cursor))
  | .record_cursor _ none | .take_ready_update _ | .clear_before_tick _ _ | .update_ticks _ =>
    inferInstanceAs (Decidable True)
  | .queue_diffs tick first_diff_index diffs =>
    inferInstanceAs (Decidable
      (self.InWindow indexing (.queue_diffs tick first_diff_index diffs : ReceiverEvent _ C Diff) after))

end HistoryDiffReceiver

theorem PendingDiffMessage.cursor_eq_ok {indexing : DiffIndexing I} {self : PendingDiffMessage I Diff} {cursor : I} :
    (self.cursor indexing : Except (DiffError I E) I) = .ok cursor ↔
      self.diffs.length - 1 < 2 ^ 16 ∧ indexing.add self.first_diff_index (self.diffs.length - 1) = cursor := by
  unfold PendingDiffMessage.cursor offset
  split_ifs with few
  · exact ⟨fun same => ⟨few,Except.ok.inj same⟩,fun known => congrArg Except.ok known.2⟩
  · exact ⟨nofun,fun known => absurd known.1 few⟩

theorem PendingDiffMessage.is_newer_cursor {indexing : DiffIndexing I} {self : PendingDiffMessage I Diff} {cursor : I}
    (isCursor : (self.cursor indexing : Except (DiffError I E) I) = .ok cursor) (other : I) :
    self.is_newer indexing other = indexing.is_newer cursor other := by
  unfold PendingDiffMessage.is_newer
  rw [cursor_eq_ok.mpr (cursor_eq_ok.mp isCursor)]

namespace HistoryDiffReceiver
section
variable {indexing : DiffIndexing I} {self : HistoryDiffReceiver I Diff} {tick : Tick} {cursor : I}

theorem Retained.queue (retained : self.Retained indexing) {message : PendingDiffMessage I Diff}
    (newer : ∀ base_cursor,self.base_cursor = some base_cursor → message.is_newer indexing base_cursor = true) :
    ({self with pending := self.pending ++ [message]} : HistoryDiffReceiver I Diff).Retained indexing := by
  refine ⟨retained.lowest,retained.newer,retained.once,fun base_cursor isBase other member => ?_⟩
  rcases List.mem_append.mp member with old | new
  · exact retained.pending base_cursor isBase other old
  · rw [List.mem_singleton.mp new]
    exact newer base_cursor isBase

theorem Retained.take (retained : self.Retained indexing) {kept : List (PendingDiffMessage I Diff)}
    (fewer : kept ⊆ self.pending) :
    ({self with pending := kept} : HistoryDiffReceiver I Diff).Retained indexing :=
  ⟨retained.lowest,retained.newer,retained.once,fun base_cursor isBase message member =>
    retained.pending base_cursor isBase message (fewer member)⟩

/-- What is retained is not before the base. -/
theorem Retained.base_le (retained : self.Retained indexing) {entry : Option I × Tick}
    (member : entry ∈ self.retained) :
    self.base_tick.all (· ≤ entry.2) = true := by
  cases isBase : self.base_tick with
  | none => rfl
  | some base_tick =>
    refine decide_eq_true ?_
    rcases mem_retained.mp member with ⟨tick,isTick,rfl⟩ | ⟨stored,isStored,rfl⟩
    · exact (Option.some.inj (isBase.symm.trans isTick)).le
    · exact retained.lowest base_tick isBase stored isStored

private theorem clear_before_tick_cases (indexing : DiffIndexing I) (self : HistoryDiffReceiver I Diff) (tick : Tick)
    (history : ConfirmedHistory C) :
    self.clear_before_tick indexing tick history = self ∨
      Pruned indexing self tick (self.clear_before_tick indexing tick history) := by
  unfold HistoryDiffReceiver.clear_before_tick
  split
  · exact Or.inl rfl
  next idle =>
  split
  · exact Or.inl rfl
  right
  have empty : self.pending = [] := by simpa [has_pending_diffs] using idle
  have late : ∀ (kept : List (I × Tick)),∀ entry ∈ kept.filter (tick ≤ ·.2),tick ≤ entry.2 := fun kept entry member =>
    of_decide_eq_true (List.mem_filter.mp member).2
  have bare : Pruned indexing self tick ⟨none,none,self.diff_ticks.filter (tick ≤ ·.2),[]⟩ :=
    ⟨rfl,fun _ isTick => absurd isTick (by simp),List.filter_sublist,late _,fun _ isBase => absurd isBase (by simp)⟩
  rw [empty]
  cases self.cursor_at_or_before tick with
  | none => exact bare
  | some cut =>
    by_cases present : (history.get_present tick).isSome = true
    · simp only [Option.map_some,if_pos present,List.filter_nil]
      have atTick : ∀ other,some tick = some other → other = tick := fun _ isOther => (Option.some.inj isOther).symm
      cases cut.1 with
      | none => exact ⟨rfl,atTick,List.filter_sublist,late _,fun _ isBase => absurd isBase (by simp)⟩
      | some base_cursor =>
        refine ⟨rfl,atTick,List.filter_sublist.trans List.filter_sublist,late _,fun other isBase entry member => ?_⟩
        rw [← Option.some.inj isBase]
        exact (List.mem_filter.mp (List.mem_of_mem_filter member)).2
    · simp only [Option.map_some,if_neg present,List.filter_nil]
      exact bare

theorem Retained.clear_before_tick (retained : self.Retained indexing) (tick : Tick) (history : ConfirmedHistory C) :
    (self.clear_before_tick indexing tick history).Retained indexing := by
  rcases clear_before_tick_cases indexing self tick history with same | pruned
  · rwa [same]
  refine ⟨fun other isOther entry member => ?_,pruned.newer,retained.once.sublist (pruned.kept.map Prod.fst),
    fun _ _ message member => ?_⟩
  · rw [pruned.atTick other isOther]
    exact pruned.late entry member
  · rw [pruned.idle] at member
    exact nomatch member

theorem Retained.update_ticks (retained : self.Retained indexing) (delta : Int) :
    (self.update_ticks delta).Retained indexing := by
  refine ⟨fun base_tick isBase entry member => ?_,fun base_cursor isBase entry member => ?_,?_,
    fun base_cursor isBase message member => ?_⟩
  · obtain ⟨before,isBefore,rfl⟩ := Option.map_eq_some_iff.mp isBase
    obtain ⟨stored,isStored,rfl⟩ := List.mem_map.mp member
    exact Tick.add_signed_le (retained.lowest before isBefore stored isStored)
  · obtain ⟨stored,isStored,rfl⟩ := List.mem_map.mp member
    exact retained.newer base_cursor isBase stored isStored
  · rw [HistoryDiffReceiver.update_ticks,List.map_map]
    exact retained.once
  · obtain ⟨stored,isStored,rfl⟩ := List.mem_map.mp member
    exact retained.pending base_cursor isBase stored isStored

section
variable [DecidableEq I]

/-- The cursors stay, or there is a new one. -/
private theorem put_cursor_keys (indexing : DiffIndexing I) (self : HistoryDiffReceiver I Diff) (tick : Tick)
    (cursor : I) :
    ((self.put_cursor indexing tick cursor).diff_ticks.map Prod.fst = self.diff_ticks.map Prod.fst ∨
    cursor ∉ self.diff_ticks.map Prod.fst ∧
      (self.put_cursor indexing tick cursor).diff_ticks.map Prod.fst = self.diff_ticks.map Prod.fst ++ [cursor]) ∧
    (cursor,tick) ∈ (self.put_cursor indexing tick cursor).diff_ticks := by
  unfold put_cursor
  dsimp only
  split
  next index known =>
    obtain ⟨low,same,-⟩ := List.findIdx?_eq_some_iff_getElem.mp known
    refine ⟨Or.inl ?_,List.mem_set low (cursor,tick)⟩
    have within : index < (self.diff_ticks.map Prod.fst).length := by simpa using low
    have key : cursor = (self.diff_ticks.map Prod.fst)[index] := by
      rw [List.getElem_map]
      exact (of_decide_eq_true same).symm
    rw [List.map_set,key,List.set_getElem_self]
  next unknown =>
    rw [List.findIdx?_eq_none_iff] at unknown
    refine ⟨Or.inr ⟨fun member => ?_,List.map_append⟩,List.mem_append_right _ List.mem_cons_self⟩
    obtain ⟨entry,member,same⟩ := List.mem_map.mp member
    simpa [same] using unknown entry member

/-- A newer cursor than the base keeps the invariant exactly if its tick is not before the base. -/
private theorem put_cursor_iff (retained : self.Retained indexing)
    (newer : ∀ base_cursor,self.base_cursor = some base_cursor → indexing.is_newer cursor base_cursor = true) :
    (self.put_cursor indexing tick cursor).Retained indexing ↔ self.base_tick.all (· ≤ tick) = true := by
  obtain ⟨keys,recorded⟩ := put_cursor_keys indexing self tick cursor
  constructor
  · intro after
    cases isBase : self.base_tick with
    | none => rfl
    | some base_tick => exact decide_eq_true (after.lowest base_tick isBase _ recorded)
  intro late
  refine ⟨fun base_tick isBase entry member => ?_,fun base_cursor isBase entry member => ?_,?_,
    fun base_cursor isBase message member => ?_⟩
  · rcases put_cursor_diff_ticks member with old | rfl
    · exact retained.lowest base_tick isBase entry old
    · rw [show self.base_tick = some base_tick from isBase] at late
      exact of_decide_eq_true late
  · rcases put_cursor_diff_ticks member with old | rfl
    · exact retained.newer base_cursor isBase entry old
    · exact newer base_cursor isBase
  · rcases keys with same | ⟨fresh,more⟩
    · rw [same]
      exact retained.once
    · rw [more]
      exact Snoc.nodup_snoc retained.once fresh
  · exact retained.pending base_cursor isBase message (List.mem_of_mem_filter member)

/-- To record a cursor keeps the invariant exactly if it is timely. -/
theorem record_cursor_iff (retained : self.Retained indexing) :
    (self.record_cursor indexing tick (some cursor)).Retained indexing ↔ self.Timely indexing tick cursor := by
  unfold Timely record_cursor is_retired_cursor
  cases isBase : self.base_cursor with
  | none => simpa using put_cursor_iff retained fun _ isBase' => (nomatch isBase.symm.trans isBase')
  | some base_cursor =>
    dsimp only
    by_cases same : cursor = base_cursor
    · subst same
      rw [if_neg fun differs => differs.1 rfl,if_pos rfl,if_pos rfl]
      have newer := retained.newer cursor isBase
      rw [List.filter_eq_self.mpr newer]
      constructor
      · intro after late
        exact List.all_eq_true.mpr fun entry member => decide_eq_true (after.lowest tick (if_pos late) entry member)
      · intro late
        refine ⟨fun base_tick isTick entry member => ?_,fun other isOther => ?_,retained.once,
          fun other isOther message member => ?_⟩
        · dsimp only at isTick
          split at isTick
          next later => exact Option.some.inj isTick ▸ of_decide_eq_true (List.all_eq_true.mp (late later) entry member)
          · exact retained.lowest base_tick isTick entry member
        · exact retained.newer other (isBase.trans isOther)
        · exact retained.pending other (isBase.trans isOther) message (List.mem_of_mem_filter member)
    · rw [if_neg fun other => same (Option.some.inj other).symm]
      by_cases newer : indexing.is_newer cursor base_cursor = true
      · rw [if_neg fun older => by simp [newer] at older,if_neg same,put_cursor_iff retained]
        · simp [same,newer]
        · intro other isOther
          rwa [← Option.some.inj (isBase.symm.trans isOther)]
      · rw [if_pos ⟨same,by simpa using newer⟩]
        simp [newer,retained]

theorem Retained.reset (retained : self.Retained indexing) (tick : Tick) :
    (self.record_cursor indexing tick none).Retained indexing := by
  unfold record_cursor
  dsimp only
  split
  · exact retained
  · exact ⟨fun _ _ _ member => (nomatch member),fun _ isBase => (nomatch isBase),List.nodup_nil,
      fun _ isBase => (nomatch isBase)⟩

/-- A message is applied after its base, so that its cursor is timely. -/
theorem Retained.take_ready_update (irrefl : ∀ index,indexing.is_newer index index = false)
    (retained : self.Retained indexing)
    (apply_diff : C → Diff → Except E C) (history : ConfirmedHistory C) :
    (self.take_ready_update indexing apply_diff history).1.Retained indexing := by
  cases taken : self.take_ready_update indexing apply_diff history with
  | mk receiver result =>
  rcases take_ready_update_cases taken with
    ⟨pending,kept,base,cursor,value,member,fewer,isBase,isCursor,-,-,rfl⟩ | ⟨-,kept,fewer,rfl⟩
  · obtain ⟨base_tick,known,notBefore,-⟩ := base_value_retained isBase
    refine (record_cursor_iff (retained.take fewer)).mpr ?_
    unfold Timely
    split
    next same =>
      have newer := retained.pending cursor same pending member
      rw [PendingDiffMessage.is_newer_cursor isCursor,irrefl] at newer
      cases newer
    · refine Or.inr ?_
      have base_le := retained.base_le known
      dsimp only at base_le ⊢
      cases isTick : self.base_tick with
      | none => rfl
      | some first =>
        rw [isTick] at base_le
        exact decide_eq_true ((of_decide_eq_true base_le).trans notBefore)
  · exact retained.take fewer

end
end

/-! ### Messages -/

section
variable {indexing : DiffIndexing (BitVec 16)} {self receiver : HistoryDiffReceiver (BitVec 16) Diff}

/-- The indexes of the wire that can be compared, as numbers. -/
theorem Comparable.numbers {index other : BitVec 16} (comparable : Comparable index other) (number : Int)
    (isOther : wire number = other) : ∃ compared : Int,wire compared = index ∧
      -2 ^ 15 < compared - number ∧ compared - number < 2 ^ 15 := by
  have low : -2 ^ 16 ≤ 2 * (index - other).toInt := BitVec.le_two_mul_toInt
  have high : 2 * (index - other).toInt < 2 ^ 16 := BitVec.two_mul_toInt_lt
  have differs : (index - other).toInt ≠ (BitVec.intMin 16).toInt := fun same => comparable (BitVec.toInt_inj.mp same)
  have least : (BitVec.intMin 16).toInt = -2 ^ 15 := by decide
  refine ⟨number + (index - other).toInt,?_,by omega,by omega⟩
  unfold wire at isOther ⊢
  rw [Serial.wrap_add,isOther,Serial.wrap_toInt]
  rw [BitVec.add_comm]
  exact BitVec.sub_add_cancel index other

/-- The suffix of a message that overlaps the base has the cursor of the message. -/
private theorem trimmed_cursor (wraps : Wraps indexing) {base_cursor first_diff_index : BitVec 16}
    (comparable : Comparable base_cursor (indexing.sub first_diff_index 1))
    (overlaps : indexing.is_newer base_cursor (indexing.sub first_diff_index 1) = true) {count : Nat}
    (kept : indexing.distance_after (indexing.add base_cursor 1) first_diff_index < count) :
    indexing.add (indexing.add base_cursor 1)
      (count - indexing.distance_after (indexing.add base_cursor 1) first_diff_index - 1) =
        indexing.add first_diff_index (count - 1) := by
  obtain ⟨first,rfl⟩ : ∃ first,wire first = first_diff_index := ⟨_,Serial.wrap_toInt first_diff_index⟩
  obtain ⟨base,rfl,low,high⟩ := comparable.numbers (first - 1) (wraps.sub first 1).symm
  rw [show indexing.sub (wire first) 1 = wire (first - 1) from wraps.sub first 1,
    wraps.is_newer base (first - 1) low high] at overlaps
  have after := of_decide_eq_true overlaps
  have next : indexing.add (wire base) 1 = wire (base + 1) := wraps.add base 1
  rw [next,wraps.distance_after (base + 1) first (by omega) (by omega)] at kept ⊢
  rw [wraps.add,wraps.add]
  congr 1
  omega

theorem Retained.queue_diffs (wraps : Wraps indexing) (retained : self.Retained indexing) {tick : Tick}
    {first_diff_index : BitVec 16} {diffs : List Diff}
    (inWindow : ∀ base_cursor ∈ self.base_cursor,Comparable base_cursor (indexing.sub first_diff_index 1))
    (queued : (self.queue_diffs indexing tick first_diff_index diffs : Except (DiffError (BitVec 16) E) _) =
      .ok receiver) :
    receiver.Retained indexing := by
  simp only [HistoryDiffReceiver.queue_diffs,bind,Except.bind,pure,Except.pure] at queued
  split_ifs at queued with empty
  · exact Except.ok.inj queued ▸ retained
  split at queued
  · cases queued
  next cursor isCursor =>
  split_ifs at queued with known
  · exact Except.ok.inj queued ▸ retained
  have recent : ∀ base_cursor,self.base_cursor = some base_cursor → indexing.is_newer cursor base_cursor = true := by
    intro base_cursor isBase
    by_contra older
    exact known (by simp [is_retired_cursor,isBase,older])
  have pushed : ∀ message : PendingDiffMessage (BitVec 16) Diff,
      (∀ base_cursor,self.base_cursor = some base_cursor → message.is_newer indexing base_cursor = true) →
      (self.push_pending indexing message : Except (DiffError (BitVec 16) E) _) = .ok receiver →
        receiver.Retained indexing := by
    intro message newer queued
    rcases push_pending_cases queued with rfl | rfl
    · exact retained
    · exact retained.queue newer
  have whole : ∀ base_cursor,self.base_cursor = some base_cursor →
      PendingDiffMessage.is_newer indexing base_cursor ⟨tick,first_diff_index,diffs⟩ = true := fun base_cursor isBase =>
    (PendingDiffMessage.is_newer_cursor isCursor base_cursor).trans (recent base_cursor isBase)
  split at queued
  next base_cursor isBase =>
    split_ifs at queued with overlaps retired
    · exact Except.ok.inj queued ▸ retained
    · refine pushed _ (fun other isOther => ?_) queued
      obtain rfl : base_cursor = other := Option.some.inj (isBase.symm.trans isOther)
      obtain ⟨few,rfl⟩ := PendingDiffMessage.cursor_eq_ok.mp isCursor
      refine (PendingDiffMessage.is_newer_cursor (E := E) (PendingDiffMessage.cursor_eq_ok.mpr ⟨?_,rfl⟩) _).trans ?_
      · have short : (diffs.drop (indexing.distance_after (indexing.add base_cursor 1) first_diff_index)).length ≤
            diffs.length :=
          (List.drop_sublist _ _).length_le
        exact (Nat.sub_le_sub_right short 1).trans_lt few
      · dsimp only
        rw [List.length_drop,trimmed_cursor wraps (inWindow base_cursor isBase) overlaps (not_le.mp retired)]
        exact recent base_cursor isBase
    · exact pushed _ whole queued
  · exact pushed _ whole queued

end

/-- A step that meets the condition keeps the invariant. -/
theorem step_retained {indexing : DiffIndexing (BitVec 16)} {self after : HistoryDiffReceiver (BitVec 16) Diff}
    (wraps : Wraps indexing) {apply_diff : C → Diff → Except E C} (retained : self.Retained indexing)
    {event : ReceiverEvent (BitVec 16) C Diff} (executed : self.step indexing apply_diff event = some after)
    (meets : self.Meets indexing event after) : after.Retained indexing := by
  cases event with
  | record_cursor tick cursor =>
    cases executed
    cases cursor with
    | none => exact retained.reset tick
    | some cursor => exact (record_cursor_iff retained).mpr meets
  | queue_diffs tick first_diff_index diffs =>
    simp only [step] at executed
    split at executed
    next queued =>
      cases executed
      exact retained.queue_diffs wraps meets queued
    · cases executed
      exact retained
  | take_ready_update history =>
    cases executed
    refine retained.take_ready_update (fun index => ?_) apply_diff history
    obtain ⟨number,rfl⟩ : ∃ number,wire number = index := ⟨_,Serial.wrap_toInt index⟩
    rw [wraps.is_newer number number (by omega) (by omega)]
    simp
  | clear_before_tick tick history => cases executed; exact retained.clear_before_tick tick history
  | update_ticks delta => cases executed; exact retained.update_ticks delta

/-- In a run in which every cursor is recorded timely, the documented invariant holds. -/
theorem receiver_invariant {indexing : DiffIndexing (BitVec 16)} (wraps : Wraps indexing)
    (apply_diff : C → Diff → Except E C)
    {receiver : HistoryDiffReceiver (BitVec 16) Diff}
    (reached : Reaches (step indexing apply_diff) (Meets indexing) default receiver) : receiver.Retained indexing := by
  refine reached.invariant (fun receiver => receiver.Retained indexing) ?_ fun _ _ _ retained executed meets =>
    step_retained wraps retained executed meets
  exact ⟨fun _ isTick => (nomatch isTick),fun _ isBase => (nomatch isBase),List.nodup_nil,
    fun _ isBase => (nomatch isBase)⟩

/-- A snapshot, a message of the diffs after it, and a pruning at the tick of the message. -/
theorem receiver_invariant_two : ∃ receiver : HistoryDiffReceiver (BitVec 16) Unit,
    Reaches (step wrapping increment) (Meets wrapping) default receiver ∧
      (receiver.base_cursor = some 2 ∧ receiver.base_tick = some 9) ∧ receiver.Retained wrapping := by
  obtain ⟨receiver,reached,based⟩ := reaches_of_check (step wrapping increment) (Meets wrapping) default
    (fun receiver => decide (receiver.base_cursor = some 2 ∧ receiver.base_tick = some 9))
    [.record_cursor 5 (some 0),.queue_diffs 7 1 [(),()],
      .take_ready_update (ConfirmedHistory.default.insert 5 (.Updated 0)),.update_ticks 2,
      .clear_before_tick 9 (ConfirmedHistory.default.insert 9 (.Updated 2))] (by decide +kernel)
  exact ⟨receiver,reached,of_decide_eq_true based,receiver_invariant wraps_wrapping increment reached⟩

/-- A snapshot of a newer state arrives late, for a tick before the base. -/
theorem late_snapshot_precedes_base : ¬∀ receiver : HistoryDiffReceiver (BitVec 16) Unit,
    Reaches (step wrapping increment) (InWindow wrapping) default receiver → receiver.Retained wrapping := by
  intro holds
  obtain ⟨receiver,reached,based⟩ := reaches_of_check (step wrapping increment) (InWindow wrapping) default
    (fun receiver => decide (receiver.base_tick = some 10 ∧ (1,5) ∈ receiver.diff_ticks))
    [.record_cursor 4 (some 0),.clear_before_tick 10 (ConfirmedHistory.default.insert 4 (.Updated 0)),
      .record_cursor 5 (some 1)]
    (by decide +kernel)
  obtain ⟨isTick,recorded⟩ := of_decide_eq_true based
  exact absurd ((holds receiver reached).lowest 10 isTick _ recorded) (by decide)

end HistoryDiffReceiver

end Lightyear.DiffHistory
