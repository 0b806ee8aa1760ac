import Lightyear.DiffSoundness
import Lightyear.Serial

/-!
The indexes of diffs on the wire are the last 16 bits of their numbers. The receiver of
such indexes does what the receiver of the numbers does, as long as the numbers that it
retains and receives lie less than half the index space apart.
-/
namespace Lightyear.DiffHistory
open Message Lightyear.Core

/-- The index that a number is sent as. -/
def wire (number : Int) : BitVec 16 := Serial.wrap 16 number

/-- A `DiffIndex` wraps, and its comparisons are right for indexes less than half the space apart. -/
structure Wraps (indexing : DiffIndexing (BitVec 16)) : Prop where
  add : ∀ number offset,indexing.add (wire number) offset = wire (number + offset)
  sub : ∀ number offset,indexing.sub (wire number) offset = wire (number - offset)
  is_newer : ∀ number other,-2 ^ 15 < number - other → number - other < 2 ^ 15 →
    indexing.is_newer (wire number) (wire other) = decide (other < number)
  distance_after : ∀ number other,0 ≤ number - other → number - other < 2 ^ 15 →
    indexing.distance_after (wire number) (wire other) = (number - other).toNat

section
variable {I J C Diff : Type}

def PendingDiffMessage.map (f : I → J) (self : PendingDiffMessage I Diff) : PendingDiffMessage J Diff :=
  ⟨self.tick,f self.first_diff_index,self.diffs⟩

def HistoryDiffReceiver.map (f : I → J) (self : HistoryDiffReceiver I Diff) : HistoryDiffReceiver J Diff :=
  ⟨self.base_cursor.map f,self.base_tick,self.diff_ticks.map fun entry => (f entry.1,entry.2),
    self.pending.map (PendingDiffMessage.map f)⟩

def Received.map (f : I → J) (self : Received I C Diff) : Received J C Diff := ⟨self.receiver.map f,self.history⟩

def Event.map (f : I → J) : Event I C Diff → Event J C Diff
  | .snapshot tick index component => .snapshot tick (f index) component
  | .diffs tick index sent => .diffs tick (f index) sent
  | .take_ready_update => .take_ready_update
  | .clear_before_tick tick => .clear_before_tick tick
  | .add_unchanged tick => .add_unchanged tick
end

variable {C Diff E : Type}

/-- A number in a window of half the index space. -/
def Near (low number : Int) : Prop := low ≤ number ∧ number < low + 2 ^ 15

instance (low number : Int) : Decidable (Near low number) := inferInstanceAs (Decidable (_ ∧ _))

def PendingDiffMessage.Within (low : Int) (self : PendingDiffMessage Int Diff) : Prop :=
  Near low (self.first_diff_index - 1) ∧ Near low self.last

instance (low : Int) (pending : PendingDiffMessage Int Diff) : Decidable (pending.Within low) :=
  inferInstanceAs (Decidable (_ ∧ _))

/-- The cursors of a receiver lie in a window. -/
structure HistoryDiffReceiver.Within (low : Int) (receiver : HistoryDiffReceiver Int Diff) : Prop where
  base_cursor : ∀ cursor,receiver.base_cursor = some cursor → Near low cursor
  diff_ticks : ∀ entry ∈ receiver.diff_ticks,Near low entry.1
  pending : ∀ pending ∈ receiver.pending,pending.Within low

def Event.Within (low : Int) : Event Int C Diff → Prop
  | .snapshot _ number _ => Near low number
  | .diffs _ number sent => Near low (number - sent.length) ∧ Near low number
  | _ => True

section
variable {α β : Type} {entries : List α}

private theorem findIdx?_same {test other : α → Bool} (same : ∀ entry ∈ entries,test entry = other entry) :
    entries.findIdx? test = entries.findIdx? other := by
  induction entries with
  | nil => rfl
  | cons entry entries ih =>
    rw [List.findIdx?_cons,List.findIdx?_cons,same entry List.mem_cons_self,
      ih fun entry member => same entry (List.mem_cons_of_mem _ member)]

private theorem findSome?_same {read other : α → Option β} (same : ∀ entry ∈ entries,read entry = other entry) :
    entries.findSome? read = entries.findSome? other := by
  induction entries with
  | nil => rfl
  | cons entry entries ih =>
    rw [List.findSome?_cons,List.findSome?_cons,same entry List.mem_cons_self,
      ih fun entry member => same entry (List.mem_cons_of_mem _ member)]
end

variable {indexing : DiffIndexing (BitVec 16)} {low : Int}

theorem Near.wire_inj {number other : Int} (near : Near low number) (near' : Near low other) :
    wire number = wire other ↔ number = other := by
  refine ⟨fun same => Serial.wrap_inj ?_ ?_ same,congrArg wire⟩ <;> unfold Near at near near' <;> omega

theorem Wraps.is_newer_near (wraps : Wraps indexing) {number other : Int} (near : Near low number)
    (near' : Near low other) :
    indexing.is_newer (wire number) (wire other) = numbers.is_newer number other := by
  unfold Near at near near'
  exact wraps.is_newer number other (by omega) (by omega)

namespace PendingDiffMessage
variable {self : PendingDiffMessage Int Diff}

theorem Within.first (within : self.Within low) : Near low self.first_diff_index := by
  unfold PendingDiffMessage.Within PendingDiffMessage.last Near at *
  omega

theorem base_cursor_map (wraps : Wraps indexing) :
    (self.map wire).base_cursor indexing = wire (self.base_cursor numbers) := wraps.sub _ _

theorem cursor_map (wraps : Wraps indexing) {cursor : Int}
    (isCursor : (self.cursor numbers : Except (DiffError Int E) Int) = .ok cursor) :
    ((self.map wire).cursor indexing : Except (DiffError (BitVec 16) E) _) = .ok (wire cursor) := by
  unfold PendingDiffMessage.cursor at *
  simp only [PendingDiffMessage.map]
  split at isCursor
  · cases isCursor
    exact congrArg Except.ok (wraps.add _ _)
  · exact nomatch isCursor

theorem Within.cursor (within : self.Within low) :
    (self.cursor numbers : Except (DiffError Int E) Int) = .ok self.last := by
  have few : self.diffs.length - 1 < 2 ^ 16 := by
    unfold PendingDiffMessage.Within PendingDiffMessage.last Near at within
    omega
  simp only [PendingDiffMessage.cursor,DiffHistory.offset,if_pos few,numbers,PendingDiffMessage.last]

theorem is_newer_map (wraps : Wraps indexing) (within : self.Within low) {cursor : Int} (near : Near low cursor) :
    (self.map wire).is_newer indexing (wire cursor) = self.is_newer numbers cursor := by
  simp only [PendingDiffMessage.is_newer,cursor_map wraps within.cursor,within.cursor]
  exact wraps.is_newer_near within.2 near

theorem is_queued_map (wraps : Wraps indexing) (within : self.Within low) {pending : PendingDiffMessage Int Diff}
    (near : pending.Within low) :
    (self.map wire).is_queued indexing (pending.map wire) (wire pending.last) =
      self.is_queued numbers pending pending.last := by
  rw [Bool.eq_iff_iff]
  simp only [is_queued,cursor_map wraps within.cursor,within.cursor,Bool.and_eq_true,decide_eq_true_eq,
    within.2.wire_inj near.2]
  simp only [PendingDiffMessage.map,within.first.wire_inj near.first]

end PendingDiffMessage

namespace HistoryDiffReceiver
variable {self : HistoryDiffReceiver Int Diff} {tick : Tick} {cursor : Int}

private theorem filter_pending_map (wraps : Wraps indexing) {pending : List (PendingDiffMessage Int Diff)}
    (within : ∀ message ∈ pending,message.Within low) (near : Near low cursor) :
    (pending.map (PendingDiffMessage.map wire)).filter (·.is_newer indexing (wire cursor)) =
      (pending.filter (·.is_newer numbers cursor)).map (PendingDiffMessage.map wire) := by
  rw [List.filter_map]
  exact congrArg _ (List.filter_congr fun message member => PendingDiffMessage.is_newer_map wraps
    (within message member) near)

private theorem filter_ticks_map (wraps : Wraps indexing) {entries : List (Int × Tick)}
    (within : ∀ entry ∈ entries,Near low entry.1) (near : Near low cursor) :
    (entries.map fun entry => (wire entry.1,entry.2)).filter (indexing.is_newer ·.1 (wire cursor)) =
      (entries.filter (numbers.is_newer ·.1 cursor)).map fun entry => (wire entry.1,entry.2) := by
  rw [List.filter_map]
  exact congrArg _ (List.filter_congr fun entry member => wraps.is_newer_near (within entry member) near)

private theorem put_cursor_map (tick : Tick) (wraps : Wraps indexing) (within : self.Within low)
    (near : Near low cursor) :
    (self.map wire).put_cursor indexing tick (wire cursor) = (self.put_cursor numbers tick cursor).map wire := by
  have found : (self.diff_ticks.map fun entry => (wire entry.1,entry.2)).findIdx? (·.1 = wire cursor) =
      self.diff_ticks.findIdx? (·.1 = cursor) := by
    rw [List.findIdx?_map]
    refine findIdx?_same fun entry member => ?_
    simp [(within.diff_ticks entry member).wire_inj near]
  have fewer := filter_pending_map wraps within.pending near
  simp only [put_cursor,HistoryDiffReceiver.map,found,fewer]
  split <;> simp

theorem record_cursor_map (tick : Tick) (wraps : Wraps indexing) (within : self.Within low) (near : Near low cursor) :
    (self.map wire).record_cursor indexing tick (some (wire cursor)) =
      (self.record_cursor numbers tick (some cursor)).map wire := by
  have put := put_cursor_map tick wraps within near
  cases isBase : self.base_cursor with
  | none =>
    simpa [record_cursor,HistoryDiffReceiver.map,isBase] using put
  | some base =>
    have nearBase := within.base_cursor base isBase
    have fewer := filter_pending_map wraps within.pending near
    have fewerTicks := filter_ticks_map wraps within.diff_ticks near
    have newer := wraps.is_newer_near near nearBase
    have same : wire cursor = wire base ↔ cursor = base := near.wire_inj nearBase
    simp only [record_cursor,HistoryDiffReceiver.map,isBase,Option.map_some,newer,same,ne_eq,fewer,fewerTicks] at put ⊢
    split_ifs
    · simp [isBase]
    · rfl
    · rfl
    · exact put

theorem tick_for_cursor_map (within : self.Within low) (near : Near low cursor) :
    (self.map wire).tick_for_cursor (some (wire cursor)) = self.tick_for_cursor (some cursor) := by
  have found : (self.diff_ticks.map fun entry => (wire entry.1,entry.2)).find? (·.1 = wire cursor) =
      (self.diff_ticks.find? (·.1 = cursor)).map fun entry => (wire entry.1,entry.2) := by
    rw [List.find?_map]
    refine congrArg _ (List.find?_congr fun entry member => ?_)
    simp [(within.diff_ticks entry member).wire_inj near]
  have same : some (wire cursor) = self.base_cursor.map wire ↔ some cursor = self.base_cursor := by
    cases isBase : self.base_cursor with
    | none => simp
    | some base => simpa using near.wire_inj (within.base_cursor base isBase)
  simp only [tick_for_cursor,HistoryDiffReceiver.map,bind,Option.bind_some,found,same]
  split
  · rfl
  · cases self.diff_ticks.find? (·.1 = cursor) <;> rfl

theorem retained_map (f : Int → BitVec 16) :
    (self.map f).retained = self.retained.map fun entry => (entry.1.map f,entry.2) := by
  cases isTick : self.base_tick <;> simp [retained,HistoryDiffReceiver.map,isTick]

theorem last_max_map {α β : Type} (f : α → β) (entries : List (α × Tick)) :
    last_max (entries.map fun entry => (f entry.1,entry.2)) = (last_max entries).map fun entry =>
      (f entry.1,entry.2) := by
  induction entries using List.reverseRecOn with
  | nil => rfl
  | append_singleton entries entry ih =>
    rw [List.map_append,last_max,last_max,List.foldl_append,List.foldl_append,← last_max,← last_max,ih]
    cases last_max entries with
    | none => rfl
    | some kept =>
      simp only [Option.map_some,List.map_cons,List.map_nil,List.foldl_cons,List.foldl_nil]
      split <;> rfl

theorem cursor_at_or_before_map (f : Int → BitVec 16) :
    (self.map f).cursor_at_or_before tick = (self.cursor_at_or_before tick).map fun entry =>
      (entry.1.map f,entry.2) := by
  rw [cursor_at_or_before,retained_map,List.filter_map,last_max_map]
  rfl

theorem Within.retained (within : self.Within low) {number : Int} (member : (some number,tick) ∈ self.retained) :
    Near low number := by
  rcases mem_retained.mp member with ⟨base_tick,-,isBase⟩ | ⟨stored,isStored,same⟩
  · exact within.base_cursor number (Prod.mk.inj isBase).1.symm
  · cases same
    exact within.diff_ticks stored isStored

theorem clear_before_tick_map (tick : Tick) (wraps : Wraps indexing) (within : self.Within low)
    (history : ConfirmedHistory C) :
    (self.map wire).clear_before_tick indexing tick history =
      (self.clear_before_tick numbers tick history).map wire := by
  have idle : (self.map wire).has_pending_diffs = self.has_pending_diffs := by
    simp [has_pending_diffs,HistoryDiffReceiver.map]
  unfold clear_before_tick
  rw [idle]
  split
  · rfl
  next none =>
  have empty : self.pending = [] := by simpa [has_pending_diffs] using none
  by_cases early : self.base_tick.any (tick < ·) = true
  · rw [if_pos early]
    exact if_pos early
  rw [if_neg early,if_neg (by exact early),cursor_at_or_before_map]
  cases isCut : self.cursor_at_or_before tick with
  | none => simp [HistoryDiffReceiver.map,empty,List.filter_map,Function.comp_def]
  | some cut =>
    obtain ⟨cursor,other⟩ := cut
    by_cases present : (history.get_present tick).isSome = true
    · cases cursor with
      | none => simp [HistoryDiffReceiver.map,present,empty,List.filter_map,Function.comp_def]
      | some number =>
        have near := within.retained (cursor_at_or_before_retained isCut)
        have fewer := filter_ticks_map wraps within.diff_ticks near
        simp only [HistoryDiffReceiver.map,Option.map_some,present,↓reduceIte,fewer,empty,List.map_nil,List.filter_nil]
        simp [List.filter_map,Function.comp_def]
    · simp [HistoryDiffReceiver.map,present,empty,List.filter_map,Function.comp_def]

variable (E) in
private theorem push_pending_map (wraps : Wraps indexing) (within : self.Within low)
    {pending : PendingDiffMessage Int Diff}
    (near : pending.Within low) :
    ∃ receiver,(self.push_pending numbers pending : Except (DiffError Int E) _) = .ok receiver ∧
      ((self.map wire).push_pending indexing (pending.map wire) : Except (DiffError (BitVec 16) E) _) =
        .ok (receiver.map wire) := by
  have queued : (self.map wire).pending.any (·.is_queued indexing (pending.map wire) (wire pending.last)) =
      self.pending.any (·.is_queued numbers pending pending.last) := by
    simp only [HistoryDiffReceiver.map,List.any_map]
    rw [Bool.eq_iff_iff,List.any_eq_true,List.any_eq_true]
    refine exists_congr fun other => and_congr_right fun member => ?_
    rw [Function.comp_apply,PendingDiffMessage.is_queued_map wraps (within.pending other member) near]
  simp only [push_pending,bind,Except.bind,pure,Except.pure,near.cursor,PendingDiffMessage.cursor_map wraps near.cursor,
    tick_for_cursor_map within near.2,queued]
  split
  · exact ⟨self,rfl,rfl⟩
  · exact ⟨_,rfl,by simp [HistoryDiffReceiver.map]⟩

private theorem is_retired_cursor_map (wraps : Wraps indexing) (within : self.Within low) (near : Near low cursor) :
    (self.map wire).is_retired_cursor indexing (wire cursor) = self.is_retired_cursor numbers cursor := by
  cases isBase : self.base_cursor with
  | none => simp [is_retired_cursor,HistoryDiffReceiver.map,isBase]
  | some base =>
    have nearBase := within.base_cursor base isBase
    simp [is_retired_cursor,HistoryDiffReceiver.map,isBase,wraps.is_newer_near near nearBase,near.wire_inj nearBase]

private theorem queue_diffs_map (wraps : Wraps indexing) (within : self.Within low) {first : Int} {diffs : List Diff}
    (some : 0 < diffs.length) (near : PendingDiffMessage.Within low ⟨tick,first,diffs⟩) :
    ∃ receiver,(self.queue_diffs numbers tick first diffs : Except (DiffError Int E) _) = .ok receiver ∧
      ((self.map wire).queue_diffs indexing tick (wire first) diffs : Except (DiffError (BitVec 16) E) _) =
        .ok (receiver.map wire) := by
  have isCursor : (PendingDiffMessage.cursor indexing ⟨tick,wire first,diffs⟩ : Except (DiffError (BitVec 16) E) _) =
      .ok (wire (PendingDiffMessage.last ⟨tick,first,diffs⟩)) := PendingDiffMessage.cursor_map wraps near.cursor
  have known := tick_for_cursor_map within near.2
  have retired := is_retired_cursor_map wraps within near.2
  have whole := push_pending_map E wraps within near
  have notEmpty : diffs.isEmpty = false := by simpa [List.isEmpty_iff] using List.ne_nil_of_length_pos some
  simp only [queue_diffs,bind,Except.bind,pure,Except.pure,notEmpty,Bool.false_eq_true,↓reduceIte,near.cursor,isCursor,
    retired,known]
  split
  · exact ⟨self,rfl,rfl⟩
  have mapped : (self.map wire).base_cursor = self.base_cursor.map wire := rfl
  cases isBase : self.base_cursor with
  | none =>
    simp only [mapped,isBase,Option.map_none]
    exact whole
  | some base =>
    have nearBase := within.base_cursor base isBase
    have before : PendingDiffMessage.base_cursor indexing ⟨tick,wire first,diffs⟩ = wire (first - 1) := wraps.sub _ _
    have overlap : indexing.is_newer (wire base) (wire (first - 1)) = decide (first - 1 < base) :=
      wraps.is_newer_near nearBase near.1
    have trimmed : indexing.add (wire base) 1 = wire (base + 1) := wraps.add _ _
    have beforeNumber : PendingDiffMessage.base_cursor numbers ⟨tick,first,diffs⟩ = first - 1 := rfl
    have overlapNumber : numbers.is_newer base (first - 1) = decide (first - 1 < base) := rfl
    simp only [mapped,isBase,Option.map_some,before,overlap,trimmed,beforeNumber,overlapNumber]
    by_cases overlaps : first - 1 < base
    · have dropped : indexing.distance_after (wire (base + 1)) (wire first) = (base + 1 - first).toNat := by
        unfold PendingDiffMessage.Within Near at near nearBase
        simp only at near
        exact wraps.distance_after _ _ (by omega) (by omega)
      have droppedNumber : numbers.distance_after (numbers.add base 1) first = (base + 1 - first).toNat := rfl
      simp only [overlaps,decide_true,↓reduceIte,dropped,droppedNumber]
      split
      · exact ⟨self,rfl,rfl⟩
      next kept =>
      have nearRest : PendingDiffMessage.Within low ⟨tick,base + 1,diffs.drop (base + 1 - first).toNat⟩ := by
        simp only [PendingDiffMessage.Within,PendingDiffMessage.last,Near,List.length_drop] at near nearBase ⊢
        omega
      exact push_pending_map E wraps within nearRest
    · simp only [overlaps,decide_false,Bool.false_eq_true,↓reduceIte]
      exact whole

variable (E) in
theorem queue_diff_map (tick : Tick) (wraps : Wraps indexing) (within : self.Within low) {number : Int}
    {diffs : List Diff}
    (first : Near low (number - diffs.length)) (last : Near low number) :
    ∃ receiver,(self.queue_diff numbers tick number diffs : Except (DiffError Int E) _) = .ok receiver ∧
      ((self.map wire).queue_diff indexing tick (wire number) diffs : Except (DiffError (BitVec 16) E) _) =
        .ok (receiver.map wire) := by
  unfold queue_diff
  split
  · exact ⟨self,rfl,rfl⟩
  next some =>
  have nonempty : 0 < diffs.length := List.length_pos_iff.mpr (by simpa using some)
  have few : offset diffs = Option.some (diffs.length - 1) := if_pos (by unfold Near at first last; omega)
  have near : PendingDiffMessage.Within low ⟨tick,numbers.sub number (diffs.length - 1),diffs⟩ := by
    simp only [PendingDiffMessage.Within,PendingDiffMessage.last,numbers,Near] at first last ⊢
    omega
  rw [few]
  simp only [wraps.sub]
  exact queue_diffs_map wraps within nonempty near

/-! ### One step -/

theorem base_value_map (wraps : Wraps indexing) (within : self.Within low) {history : ConfirmedHistory C}
    {pending : PendingDiffMessage Int Diff} (near : pending.Within low) :
    (self.map wire).base_value indexing history (pending.map wire) = self.base_value numbers history pending := by
  have known : (self.map wire).tick_for_cursor (some (wire (pending.base_cursor numbers))) =
      self.tick_for_cursor (some (pending.base_cursor numbers)) := tick_for_cursor_map within near.1
  rw [base_value,base_value,PendingDiffMessage.base_cursor_map wraps,known]
  rfl

private theorem ready_map (wraps : Wraps indexing) (within : self.Within low) (history : ConfirmedHistory C) :
    ((self.map wire).pending.zipIdx.findSome? fun (pending,pending_index) =>
      ((self.map wire).base_value indexing history pending).map fun value => (pending,pending_index,value)) =
    (self.pending.zipIdx.findSome? fun (pending,pending_index) =>
      (self.base_value numbers history pending).map fun value => (pending,pending_index,value)).map
        fun (pending,pending_index,value) => (pending.map wire,pending_index,value) := by
  have zipped : (self.map wire).pending.zipIdx = self.pending.zipIdx.map (Prod.map (PendingDiffMessage.map wire) id) :=
    List.zipIdx_map
  rw [zipped,List.findSome?_map,List.map_findSome?]
  refine findSome?_same fun entry member => ?_
  have near := within.pending entry.1 (List.fst_mem_of_mem_zipIdx member)
  simp only [Function.comp_apply,Prod.map_fst,Prod.map_snd,base_value_map wraps within near]
  cases self.base_value numbers history entry.1 <;> rfl

theorem Within.erase (within : self.Within low) (index : Nat) :
    Within low {self with pending := self.pending.eraseIdx index} :=
  ⟨within.base_cursor,within.diff_ticks,fun pending member => within.pending pending (List.mem_of_mem_eraseIdx member)⟩

end HistoryDiffReceiver

section
variable [DecidableEq C] {apply_diff : C → Diff → Except E C} {received : Received Int C Diff}

/-- The receiver of the indexes does what the receiver of the numbers does. -/
theorem step_map (wraps : Wraps indexing) (within : received.receiver.Within low) {event : Event Int C Diff}
    (near : event.Within low) :
    (received.map wire).step indexing apply_diff (event.map wire) =
      ((received.step numbers apply_diff event).1.map wire,
        (received.step numbers apply_diff event).2.map fun applied => (applied.1.map wire,applied.2)) := by
  cases event with
  | snapshot tick number component =>
    have recorded := HistoryDiffReceiver.record_cursor_map tick wraps within near
    simp only [Event.map,Received.step,Received.map,recorded,Option.map_none]
  | diffs tick number diffs =>
    obtain ⟨receiver,queued,queuedMap⟩ := HistoryDiffReceiver.queue_diff_map E tick wraps within near.1 near.2
    simp only [Event.map,Received.step,Received.map,queued,queuedMap,Option.map_none]
  | take_ready_update =>
    have ready := HistoryDiffReceiver.ready_map wraps within received.history
    simp only [Event.map,Received.step,Received.map,HistoryDiffReceiver.take_ready_update]
    rw [ready]
    cases isReady : received.receiver.pending.zipIdx.findSome? fun (pending,pending_index) =>
      (received.receiver.base_value numbers received.history pending).map fun value =>
        (pending,pending_index,value) with
    | none => rfl
    | some found =>
      obtain ⟨pending,index,value⟩ := found
      obtain ⟨entry,member,isBase⟩ := List.exists_of_findSome?_eq_some isReady
      simp only [Option.map_eq_some_iff,Prod.mk.injEq] at isBase
      obtain ⟨base,-,rfl,rfl,rfl⟩ := isBase
      have near := within.pending entry.1 (List.fst_mem_of_mem_zipIdx member)
      have isCursor : ((entry.1.map wire).cursor indexing : Except (DiffError (BitVec 16) E) _) =
          .ok (wire entry.1.last) :=
        PendingDiffMessage.cursor_map wraps near.cursor
      have recorded := HistoryDiffReceiver.record_cursor_map entry.1.tick wraps (within.erase entry.2) near.2
      have erased : (received.receiver.map wire).pending.eraseIdx entry.2 =
          (received.receiver.pending.eraseIdx entry.2).map (PendingDiffMessage.map wire) := List.eraseIdx_map _ _ _
      simp only [Option.map_some,isCursor,near.cursor,erased]
      have same : (entry.1.map wire).diffs = entry.1.diffs := rfl
      rw [same]
      cases entry.1.diffs.foldlM apply_diff base with
      | error _ => rfl
      | ok value =>
        simp only [HistoryDiffReceiver.map,PendingDiffMessage.map,Option.map_some] at recorded ⊢
        rw [recorded]
  | clear_before_tick tick =>
    have cleared := HistoryDiffReceiver.clear_before_tick_map tick wraps within received.history
    simp only [Event.map,Received.step,Received.map,cleared,Option.map_none]
  | add_unchanged tick => rfl

/-- Every event of a run is allowed where it happens, and meets numbers in one window. -/
def AllowedRun (stream : Stream apply_diff) : Received Int C Diff → List (Event Int C Diff) → Prop
  | _,[] => True
  | received,event :: events =>
    (∃ low,received.receiver.Within low ∧ event.Within low) ∧ Allowed stream received event ∧
      AllowedRun stream (received.step numbers apply_diff event).1 events

private theorem run_map (wraps : Wraps indexing) {stream : Stream apply_diff} {events : List (Event Int C Diff)}
    {received : Received Int C Diff} (allowed : AllowedRun stream received events) :
    ((received.map wire).run indexing apply_diff (events.map (Event.map wire))).2 =
      (received.run numbers apply_diff events).2.map fun applied => (applied.1.map wire,applied.2) := by
  induction events generalizing received with
  | nil => rfl
  | cons event events ih =>
    obtain ⟨⟨low,within,near⟩,-,rest⟩ := allowed
    simp only [List.map_cons,Received.run,step_map wraps within near,ih rest,List.map_append]
    cases (received.step numbers apply_diff event).2 <;> rfl

private theorem sound_run {stream : Stream apply_diff} {Sent : Tick → Int → Prop} {events : List (Event Int C Diff)}
    {received : Received Int C Diff} (sound : Sound stream Sent received) (isOf : ∀ event ∈ events,event.Of stream)
    (allowed : AllowedRun stream received events)
    (sent : ∀ tick number diffs,.diffs tick number diffs ∈ events → Sent tick number) :
    ∀ applied ∈ (received.run numbers apply_diff events).2,
      applied.2 = stream.state applied.1.last ∧ Sent applied.1.tick applied.1.last ∧
        (applied.1.cursor numbers : Except (DiffError Int E) Int) = .ok applied.1.last := by
  induction events generalizing received with
  | nil => exact nofun
  | cons event events ih =>
    obtain ⟨-,allowedNow,rest⟩ := allowed
    have step := sound_step sound (isOf event List.mem_cons_self) allowedNow fun tick number diffs isEvent =>
      sent tick number diffs (isEvent ▸ List.mem_cons_self)
    intro applied member
    rcases List.mem_append.mp member with now | later
    · exact step.2 applied (Option.mem_toList.mp now)
    · exact ih step.1 (fun event member => isOf event (List.mem_cons_of_mem _ member)) rest
        (fun tick number diffs member => sent tick number diffs (List.mem_cons_of_mem _ member)) applied later

/-- In a run of the messages of a stream, in any order, what is applied is the state of the server after the last diff
of a message that was sent. -/
theorem applied_states (wraps : Wraps indexing) (stream : Stream apply_diff) (events : List (Event Int C Diff))
    (isOf : ∀ event ∈ events,event.Of stream) (allowed : AllowedRun stream .default events) :
    ∀ applied ∈ (Received.default.run indexing apply_diff (events.map (Event.map wire))).2,
      ∃ number diffs,.diffs applied.1.tick number diffs ∈ events ∧
        (applied.1.cursor indexing : Except (DiffError (BitVec 16) E) _) = .ok (wire number) ∧
        applied.2 = stream.state number := by
  have start : Sound stream (fun tick number => ∃ diffs,.diffs tick number diffs ∈ events) Received.default :=
    ⟨nofun,nofun⟩
  intro applied output
  have mapped := run_map wraps allowed
  rw [show (Received.default : Received Int C Diff).map wire = .default from rfl] at mapped
  rw [mapped] at output
  obtain ⟨counted,member,rfl⟩ := List.mem_map.mp output
  obtain ⟨right,⟨diffs,sent⟩,isCursor⟩ :=
    sound_run start isOf allowed (fun tick number diffs isSent => ⟨diffs,isSent⟩) counted member
  exact ⟨counted.1.last,diffs,sent,PendingDiffMessage.cursor_map wraps isCursor,right⟩

end

/-! ### A component that counts its diffs -/

/-- Indexes that wrap, compared by the sign of their difference. -/
def wrapping : DiffIndexing (BitVec 16) where
  add index offset := index + BitVec.ofNat 16 offset
  sub index offset := index - BitVec.ofNat 16 offset
  is_newer index other := 0 < Serial.dist index other
  distance_after index other := (index - other).toNat

private theorem wire_natCast (offset : Nat) :
    BitVec.ofNat 16 offset = wire offset := (BitVec.ofInt_natCast 16 offset).symm

private theorem wire_sub (number other : Int) : wire number - wire other = wire (number - other) := by
  have whole := Serial.wrap_add 16 (number - other) other
  rw [sub_add_cancel] at whole
  exact BitVec.sub_eq_iff_eq_add.mpr whole

theorem wraps_wrapping : Wraps wrapping where
  add number offset := by
    simp only [wrapping,wire_natCast]
    exact (Serial.wrap_add 16 number offset).symm
  sub number offset := by
    simp only [wrapping,wire_natCast]
    exact wire_sub number offset
  is_newer number other low high := by
    simp only [wrapping,wire]
    rw [Serial.dist_wrap (by omega) (by omega)]
    simp
  distance_after number other low high := by
    simp only [wrapping]
    rw [wire_sub,wire,Serial.wrap,BitVec.toNat_ofInt]
    omega

def increment (component : Int) (_ : Unit) : Except Unit Int := .ok (component + 1)

def counter : Stream increment where
  state number := number
  diff _ := ()
  follows number := by simp [increment]

/-- The diffs 1 and 2 on the state of a snapshot. -/
theorem applied_states_counter : ∃ number diffs,
    .diffs 6 number diffs ∈ ([.snapshot 5 0 0,.diffs 6 2 [(),()],.take_ready_update] : List (Event Int Int Unit)) ∧
      (PendingDiffMessage.cursor wrapping ⟨6,1,[(),()]⟩ : Except (DiffError (BitVec 16) Unit) _) = .ok (wire number) ∧
      2 = counter.state number := by
  refine applied_states wraps_wrapping counter [.snapshot 5 0 0,.diffs 6 2 [(),()],.take_ready_update] ?_ ?_
    (⟨6,1,[(),()]⟩,2) (by decide)
  · simp [Event.Of,counter,Stream.diffs]
  · have unset {receiver : HistoryDiffReceiver Int Unit} (isUnset : receiver.base_cursor = none) :
        ∀ cursor,receiver.base_cursor = some cursor → Near 0 cursor :=
          fun cursor isBase => absurd (isUnset.symm.trans isBase) (by simp)
    have bare {receiver : HistoryDiffReceiver Int Unit} (isBare : receiver.pending = []) :
        ∀ pending ∈ receiver.pending,PendingDiffMessage.Within 0 pending := fun pending member =>
      absurd (isBare ▸ member) List.not_mem_nil
    refine ⟨⟨0,⟨unset rfl,fun _ member => absurd member List.not_mem_nil,bare rfl⟩,by simp [Event.Within,Near]⟩,
      fun _ _ known => absurd known List.not_mem_nil,⟨0,⟨unset rfl,?_,bare rfl⟩,by simp [Event.Within,Near]⟩,trivial,
      ⟨0,⟨unset rfl,?_,?_⟩,trivial⟩,?_,trivial⟩
    · decide
    · decide
    · decide
    · intro pending member _
      obtain rfl := List.mem_singleton.mp (show pending ∈ [⟨6,1,[(),()]⟩] from member)
      intro cursor other known
      cases List.mem_singleton.mp (show (some cursor,other) ∈ [(some 0,5)] from known)
      exact Or.inr (.inl (by decide))

/-- The messages of a server: one with a later tick has no earlier number. -/
def Event.message : Event Int C Diff → Option (Tick × Int)
  | .snapshot tick number _ => some (tick,number)
  | .diffs tick number _ => some (tick,number)
  | _ => none

def InOrder (events : List (Event Int C Diff)) : Prop :=
  ∀ event ∈ events,∀ other ∈ events,∀ message ∈ event.message,∀ message' ∈ other.message,message.1 < message'.1 →
    message.2 ≤ message'.2

/-- The state of diff 1 is written at the tick of the snapshot before it, from which the next message applies the diffs
1 and 2. -/
theorem shared_tick_overwrites : ¬ ∀ events : List (Event Int Int Unit),
    (∀ event ∈ events,event.Of counter) → InOrder events →
      ∀ applied ∈ (Received.default.run wrapping increment (events.map (Event.map wire))).2,
        ∃ number diffs,.diffs applied.1.tick number diffs ∈ events ∧
          (applied.1.cursor wrapping : Except (DiffError (BitVec 16) Unit) _) = .ok (wire number) ∧
          applied.2 = counter.state number := by
  intro right
  have output : (⟨6,1,[(),()]⟩,3) ∈ (Received.default.run wrapping increment
      (([.snapshot 5 0 0,.diffs 5 1 [()],.take_ready_update,.diffs 6 2 [(),()],.take_ready_update] :
        List (Event Int Int Unit)).map (Event.map wire))).2 := by decide
  obtain ⟨number,diffs,sent,-,read⟩ := right _ (by simp [Event.Of,counter,Stream.diffs])
    (by simp [InOrder,Event.message]) _ output
  simp only [List.mem_cons,Event.diffs.injEq,reduceCtorEq,List.not_mem_nil] at sent
  have three : 3 = number := read
  subst three
  simp at sent

end Lightyear.DiffHistory
