import Lightyear.DiffHistory

/-!
The receiver of diffs against the stream that the server sends, with the diffs counted
from the first one and no index wrapped. What keeps its values right is that the
history reads, at the tick of every cursor that is retained, the state for this cursor.
The history is keyed by ticks and not by cursors, so that a write can take this from
another cursor: `Allowed` names the writes and prunings that do not.
-/
namespace Lightyear.DiffHistory
open Message Lightyear.Core

/-- The numbers of the diffs in their stream. -/
def numbers : DiffIndexing Int where
  add number offset := number + offset
  sub number offset := number - offset
  is_newer number other := other < number
  distance_after number other := (number - other).toNat

/-- The states of a component on the server and the diffs between them: each diff leads from the state before its number
to the state of its number. -/
structure Stream {C Diff E : Type} (apply_diff : C → Diff → Except E C) where
  state : Int → C
  diff : Int → Diff
  follows : ∀ number, apply_diff (state (number - 1)) (diff number) = .ok (state number)

variable {I C Diff E : Type} {apply_diff : C → Diff → Except E C}

/-- Consecutive diffs from a number on. -/
def Stream.diffs (stream : Stream apply_diff) (first : Int) (count : Nat) : List Diff :=
  (List.range count).map fun offset : Nat => stream.diff (first + offset)

@[simp] theorem Stream.length_diffs (stream : Stream apply_diff) (first : Int) (count : Nat) :
    (stream.diffs first count).length = count := by
  simp [Stream.diffs]

theorem Stream.drop_diffs (stream : Stream apply_diff) (first : Int) (count dropped : Nat) :
    (stream.diffs first count).drop dropped = stream.diffs (first + dropped) (count - dropped) := by
  refine List.ext_getElem (by simp) fun i _ _ => ?_
  simp [Stream.diffs,add_assoc]

/-- The diffs after a state lead to the state of the last one. -/
theorem Stream.apply_diffs (stream : Stream apply_diff) (base : Int) (count : Nat) :
    (stream.diffs (base + 1) count).foldlM apply_diff (stream.state base) = .ok (stream.state (base + count)) := by
  induction count with
  | zero => simp [Stream.diffs,pure,Except.pure]
  | succ count ih =>
    have next := stream.follows (base + 1 + count)
    rw [add_right_comm,add_sub_cancel_right] at next
    rw [Stream.diffs] at ih ⊢
    rw [List.range_succ,List.map_append,List.foldlM_append,ih]
    simp only [List.map_cons,List.map_nil,List.foldlM_cons,List.foldlM_nil]
    rw [add_right_comm base 1]
    simp only [bind,Except.bind,next,pure,Except.pure]
    push_cast
    rw [add_assoc]

/-- The messages of a stream. A message of diffs has the number of its last diff. -/
def Event.Of (stream : Stream apply_diff) : Event Int C Diff → Prop
  | .snapshot _ number component => component = stream.state number
  | .diffs _ number sent => sent = stream.diffs (number + 1 - sent.length) sent.length
  | _ => True

/-- The number of the last diff. -/
def PendingDiffMessage.last (self : PendingDiffMessage Int Diff) :
    Int := self.first_diff_index + (self.diffs.length - 1 : Nat)

/-- A message that is pending has diffs of the stream. -/
def PendingDiffMessage.Of (stream : Stream apply_diff) (self : PendingDiffMessage Int Diff) : Prop :=
  self.diffs ≠ [] ∧ self.diffs = stream.diffs self.first_diff_index self.diffs.length

section
variable [DecidableEq C]

/-- To write the state of a number at a tick does not change what is read for other states: each cursor that is retained
is for an equal state, is at an earlier tick, or is read from an explicit state after the tick. -/
def Undisturbed (stream : Stream apply_diff) (received : Received Int C Diff) (tick : Tick) (number : Int) : Prop :=
  ∀ cursor other, (some cursor,other) ∈ received.receiver.retained →
    stream.state cursor = stream.state number ∨ other < tick ∨
      ∃ between explicit, tick < between ∧ between ≤ other ∧ (between,.Explicit explicit) ∈ received.history.buffer

/-- A cursor is given a later tick only where the history reads the same state. -/
def Moved (received : Received Int C Diff) (tick : Tick) : Prop :=
  received.receiver.has_pending_diffs = false → (received.history.get_present tick).isSome →
    ∀ cursor other, received.receiver.cursor_at_or_before tick = some (cursor,other) →
      received.history.get_present tick = received.history.get_present other

/-- What may happen next. -/
def Allowed (stream : Stream apply_diff) (received : Received Int C Diff) : Event Int C Diff → Prop
  | .snapshot tick number _ => Undisturbed stream received tick number
  | .take_ready_update => ∀ pending ∈ received.receiver.pending,
      (received.receiver.base_value numbers received.history pending).isSome →
        Undisturbed stream received pending.tick pending.last
  | .clear_before_tick tick => Moved received tick
  | _ => True

/-- The history reads, at the tick of every cursor, the state for this cursor, and what is pending was sent. -/
structure Sound (stream : Stream apply_diff) (Sent : Tick → Int → Prop) (received : Received Int C Diff) : Prop where
  known : ∀ entry ∈ received.receiver.retained,∃ number, entry.1 = some number ∧
    received.history.get_present entry.2 = some (stream.state number)
  queued : ∀ pending ∈ received.receiver.pending, pending.Of stream ∧ Sent pending.tick pending.last
end

namespace HistoryDiffReceiver

theorem mem_retained {self : HistoryDiffReceiver I Diff} {entry : Option I × Tick} :
    entry ∈ self.retained ↔ (∃ tick, self.base_tick = some tick ∧ entry = (self.base_cursor,tick)) ∨
      ∃ stored ∈ self.diff_ticks, entry = (some stored.1,stored.2) := by
  simp only [retained,List.mem_append,Option.mem_toList,Option.map_eq_some_iff,List.mem_map]
  simp only [eq_comm]

variable {indexing : DiffIndexing I} {self : HistoryDiffReceiver I Diff} {tick : Tick}

section
variable [DecidableEq I]

theorem tick_for_cursor_retained {cursor : Option I} (known : self.tick_for_cursor cursor = some tick) :
    (cursor,tick) ∈ self.retained := by
  unfold tick_for_cursor at known
  split at known
  · next isBase => exact mem_retained.mpr (.inl ⟨tick,known,by rw [isBase]⟩)
  · cases cursor with
    | none => exact nomatch known
    | some cursor =>
      simp only [bind,Option.bind_some,Option.bind_eq_some_iff,Option.some_inj] at known
      obtain ⟨stored,found,rfl⟩ := known
      have same : stored.1 = cursor := by simpa using List.find?_some found
      exact mem_retained.mpr (.inr ⟨stored,List.mem_of_find?_eq_some found,by rw [same]⟩)

theorem put_cursor_diff_ticks {cursor : I} {stored : I × Tick}
    (isStored : stored ∈ (self.put_cursor indexing tick cursor).diff_ticks) :
    stored ∈ self.diff_ticks ∨ stored = (cursor,tick) := by
  simp only [put_cursor] at isStored
  split at isStored
  · exact List.mem_or_eq_of_mem_set isStored
  · simpa using isStored

private theorem put_cursor_retained {cursor : I} {entry : Option I × Tick}
    (member : entry ∈ (self.put_cursor indexing tick cursor).retained) :
    entry ∈ self.retained ∨ entry = (some cursor,tick) := by
  rcases mem_retained.mp member with isBase | ⟨stored,isStored,rfl⟩
  · exact Or.inl (mem_retained.mpr (.inl isBase))
  · rcases put_cursor_diff_ticks isStored with kept | rfl
    · exact Or.inl (mem_retained.mpr (.inr ⟨stored,kept,rfl⟩))
    · exact Or.inr rfl

/-- A recorded cursor is retained or is left out, and no other cursor is moved. -/
theorem record_cursor_retained {cursor : I} {entry : Option I × Tick}
    (member : entry ∈ (self.record_cursor indexing tick (some cursor)).retained) :
    entry ∈ self.retained ∨ entry = (some cursor,tick) := by
  simp only [record_cursor] at member
  split at member
  · next base_cursor isBase =>
    split at member
    · exact Or.inl member
    split at member
    · next same =>
      subst same
      rcases mem_retained.mp member with ⟨base_tick,isTick,rfl⟩ | ⟨stored,isStored,rfl⟩
      · simp only at isTick ⊢
        split at isTick
        · cases isTick
          exact Or.inr (by rw [isBase])
        · exact Or.inl (mem_retained.mpr (.inl ⟨base_tick,isTick,rfl⟩))
      · exact Or.inl (mem_retained.mpr (.inr ⟨stored,List.mem_of_mem_filter isStored,rfl⟩))
    · exact put_cursor_retained member
  · exact put_cursor_retained member

theorem record_cursor_pending {cursor : I} {pending : PendingDiffMessage I Diff}
    (member : pending ∈ (self.record_cursor indexing tick (some cursor)).pending) : pending ∈ self.pending := by
  simp only [record_cursor,put_cursor] at member
  split at member
  · split at member
    · exact member
    split at member <;> exact List.mem_of_mem_filter member
  · exact List.mem_of_mem_filter member

end

theorem last_max_mem {α : Type} {entries : List (α × Tick)} {greatest : α × Tick}
    (isMax : last_max entries = some greatest) :
    greatest ∈ entries := by
  induction entries using List.reverseRecOn generalizing greatest with
  | nil => exact nomatch isMax
  | append_singleton entries entry ih =>
    rw [last_max,List.foldl_append,← last_max] at isMax
    simp only [List.foldl_cons,List.foldl_nil] at isMax
    split at isMax
    · next kept isKept =>
      split at isMax
      · cases isMax
        exact List.mem_append_right _ List.mem_cons_self
      · cases isMax
        exact List.mem_append_left _ (ih isKept)
    · cases isMax
      exact List.mem_append_right _ List.mem_cons_self

/-- Pruning drops cursors, and gives the newest one of those up to its tick this tick. -/
theorem clear_before_tick_retained {history : ConfirmedHistory C} {entry : Option I × Tick}
    (member : entry ∈ (self.clear_before_tick indexing tick history).retained) :
    entry ∈ self.retained ∨ self.has_pending_diffs = false ∧ (history.get_present tick).isSome ∧
      ∃ cursor other, self.cursor_at_or_before tick = some (cursor,other) ∧ entry = (cursor,tick) := by
  unfold clear_before_tick at member
  split at member
  · exact Or.inl member
  next none =>
  split at member
  · exact Or.inl member
  rcases mem_retained.mp member with ⟨base_tick,isTick,rfl⟩ | ⟨stored,isStored,rfl⟩
  · right
    refine ⟨by simpa using none,?_⟩
    cases isCut : self.cursor_at_or_before tick with
    | none => simp [isCut] at isTick
    | some cut =>
      by_cases present : (history.get_present tick).isSome
      · simp only [isCut,Option.map_some,present,↓reduceIte,Option.some_inj] at isTick ⊢
        exact ⟨trivial,cut.1,cut.2,rfl,by rw [isTick]⟩
      · simp [isCut,present] at isTick
  · left
    refine mem_retained.mpr (.inr ⟨stored,?_,rfl⟩)
    have kept := List.mem_of_mem_filter isStored
    split at kept
    · exact List.mem_of_mem_filter kept
    · exact kept

theorem cursor_at_or_before_retained {cursor : Option I} {other : Tick}
    (isCut : self.cursor_at_or_before tick = some (cursor,other)) : (cursor,other) ∈ self.retained :=
  List.mem_of_mem_filter (last_max_mem isCut)

theorem clear_before_tick_pending {history : ConfirmedHistory C} {pending : PendingDiffMessage I Diff}
    (member : pending ∈ (self.clear_before_tick indexing tick history).pending) : pending ∈ self.pending := by
  unfold clear_before_tick at member
  split at member
  · exact member
  split at member
  · exact member
  · exact List.mem_of_mem_filter member

section
variable [DecidableEq I] {history : ConfirmedHistory C} {pending : PendingDiffMessage I Diff}

/-- A state before a message is read at the tick of its cursor, which is not after the message. -/
theorem base_value_retained {base : C} (isBase : self.base_value indexing history pending = some base) :
    ∃ base_tick, (some (pending.base_cursor indexing),base_tick) ∈ self.retained ∧ base_tick ≤ pending.tick ∧
      history.get_present base_tick = some base := by
  simp only [base_value,bind,Option.bind_eq_some_iff] at isBase
  obtain ⟨base_tick,known,read⟩ := isBase
  split at read
  · exact nomatch read
  next settled =>
    have notAfter : ¬pending.tick < base_tick := fun before => settled (by simp [before])
    exact ⟨base_tick,tick_for_cursor_retained known,not_lt.mp notAfter,read⟩

/-- A message that is ready is taken and its cursor recorded, or the cursors stay as they are. -/
theorem take_ready_update_cases {receiver : HistoryDiffReceiver I Diff}
    {result : Except (DiffError I E) (Option (PendingDiffMessage I Diff × C))}
    (taken : self.take_ready_update indexing apply_diff history = (receiver,result)) :
    (∃ pending kept base cursor value, pending ∈ self.pending ∧ kept ⊆ self.pending ∧
      self.base_value indexing history pending = some base ∧ (pending.cursor indexing : Except (DiffError I E) I) =
        .ok cursor ∧
      pending.diffs.foldlM apply_diff base = .ok value ∧ result = .ok (some (pending,value)) ∧
      receiver = ({self with pending := kept} : HistoryDiffReceiver I Diff).record_cursor indexing pending.tick
        (some cursor)) ∨
    (∀ update, result ≠ .ok (some update)) ∧ ∃ kept ⊆ self.pending, receiver = {self with pending := kept} := by
  simp only [take_ready_update] at taken
  split at taken
  · cases taken
    exact Or.inr ⟨nofun,self.pending,List.Subset.refl _,rfl⟩
  next pending index base isReady =>
  obtain ⟨⟨found,foundIndex⟩,member,isBase⟩ := List.exists_of_findSome?_eq_some isReady
  simp only [Option.map_eq_some_iff,Prod.mk.injEq] at isBase
  obtain ⟨_,isBase,rfl,rfl,rfl⟩ := isBase
  have fewer : self.pending.eraseIdx foundIndex ⊆ self.pending := (List.eraseIdx_sublist _ _).subset
  split at taken
  · cases taken
    exact Or.inr ⟨nofun,_,fewer,rfl⟩
  · cases taken
    exact Or.inr ⟨nofun,_,fewer,rfl⟩
  · next cursor value isCursor applied =>
    cases taken
    exact Or.inl ⟨found,_,_,cursor,value,List.fst_mem_of_mem_zipIdx member,fewer,isBase,isCursor,applied,rfl,rfl⟩

end
end HistoryDiffReceiver

/-! ### One step -/

namespace PendingDiffMessage

theorem cursor_ok {indexing : DiffIndexing I} {self : PendingDiffMessage I Diff} {cursor : I}
    (isCursor : (self.cursor indexing : Except (DiffError I E) I) = .ok cursor) :
    cursor = indexing.add self.first_diff_index (self.diffs.length - 1) := by
  unfold PendingDiffMessage.cursor offset at isCursor
  split_ifs at isCursor
  exact (Except.ok.inj isCursor).symm

end PendingDiffMessage

namespace HistoryDiffReceiver

theorem push_pending_cases [DecidableEq I] {indexing : DiffIndexing I} {self receiver : HistoryDiffReceiver I Diff}
    {pending : PendingDiffMessage I Diff}
    (pushed : (self.push_pending indexing pending : Except (DiffError I E) _) = .ok receiver) :
    receiver = self ∨ receiver = {self with pending := self.pending ++ [pending]} := by
  simp only [push_pending,bind,Except.bind,pure,Except.pure] at pushed
  split at pushed
  · exact nomatch pushed
  split at pushed
  · exact Or.inl (Except.ok.inj pushed).symm
  · exact Or.inr (Except.ok.inj pushed).symm

/-- A message is queued whole or without the first of its diffs, or not at all. -/
theorem queue_diff_cases {self receiver : HistoryDiffReceiver Int Diff} {tick : Tick} {number : Int} {diffs : List Diff}
    (queued : (self.queue_diff numbers tick number diffs : Except (DiffError Int E) _) = .ok receiver) :
    receiver = self ∨ ∃ dropped < diffs.length, receiver = {self with
      pending := self.pending ++ [⟨tick,number + 1 - diffs.length + dropped,diffs.drop dropped⟩]} := by
  unfold queue_diff at queued
  split at queued
  · exact Or.inl (Except.ok.inj queued).symm
  next some =>
  have nonempty : 0 < diffs.length := List.length_pos_iff.mpr (by simpa using some)
  split at queued
  · next offset isOffset =>
    have first : numbers.sub number offset = number + 1 - diffs.length := by
      unfold DiffHistory.offset at isOffset
      split_ifs at isOffset
      cases isOffset
      simp only [numbers]
      omega
    have whole : number + 1 - diffs.length + (0 : Nat) = number + 1 - diffs.length := by simp
    simp only [queue_diffs,bind,Except.bind,pure,Except.pure,first] at queued
    split_ifs at queued
    split at queued
    · exact nomatch queued
    split_ifs at queued
    · exact Or.inl (Except.ok.inj queued).symm
    split at queued
    · next base_cursor _ =>
      split_ifs at queued with overlaps retired
      · exact Or.inl (Except.ok.inj queued).symm
      · rcases push_pending_cases queued with same | pushed
        · exact Or.inl same
        · simp only [numbers,PendingDiffMessage.base_cursor,decide_eq_true_eq] at overlaps retired pushed
          refine Or.inr ⟨(base_cursor + (1 : Nat) - (number + 1 - diffs.length)).toNat,by omega,pushed.trans ?_⟩
          have trimmed : base_cursor + (1 : Nat) =
              number + 1 - diffs.length + ((base_cursor + (1 : Nat) - (number + 1 - diffs.length)).toNat : Int) := by
                omega
          rw [← trimmed]
      · rcases push_pending_cases queued with same | pushed
        · exact Or.inl same
        · exact Or.inr ⟨0,nonempty,by rw [pushed,whole,List.drop_zero]⟩
    · rcases push_pending_cases queued with same | pushed
      · exact Or.inl same
      · exact Or.inr ⟨0,nonempty,by rw [pushed,whole,List.drop_zero]⟩
  · exact nomatch queued

end HistoryDiffReceiver

private theorem present_updated {history : ConfirmedHistory C} {tick : Tick} {component : C} :
    history.get_present tick = some component ↔ history.get_state_at_or_before tick = some (.Updated component) := by
  simp only [ConfirmedHistory.get_present,bind,Option.bind_eq_some_iff]
  constructor
  · rintro ⟨state,read,value⟩
    cases state with
    | Updated => cases value; exact read
    | Removed => exact nomatch value
  · exact fun read => ⟨_,read,rfl⟩

section
variable [DecidableEq C] {stream : Stream apply_diff} {Sent : Tick → Int → Prop} {received : Received Int C Diff}

/-- After a state is written that disturbs no other, every cursor and the new one are at the ticks of their states. -/
private theorem known_insert (sound : Sound stream Sent received) {tick : Tick} {number : Int}
    (undisturbed : Undisturbed stream received tick number) {entry : Option Int × Tick}
    (member : entry ∈ received.receiver.retained ∨ entry = (some number,tick)) :
    ∃ cursor, entry.1 = some cursor ∧
      (received.history.insert tick (.Updated (stream.state number))).get_present entry.2 =
        some (stream.state cursor) := by
  rcases member with member | rfl
  · obtain ⟨cursor,isCursor,read⟩ := sound.known entry member
    refine ⟨cursor,isCursor,?_⟩
    rw [present_updated] at read ⊢
    rcases lt_or_ge entry.2 tick with before | after
    · rw [ConfirmedHistory.insert_before _ before,read]
    · rw [ConfirmedHistory.get_state_at_or_before_from _ after] at read
      rw [ConfirmedHistory.insert_from _ after]
      rcases undisturbed cursor entry.2 (by rwa [← isCursor]) with same | before |
        ⟨between,explicit,less,notAfter,stored⟩
      · cases shadow : ConfirmedHistory.resolved
          ((received.history.buffer.filter (tick < ·.1)).filter (·.1 ≤ entry.2)) with
        | none => rw [same]; rfl
        | some shown => rwa [shadow] at read
      · exact absurd before (not_lt.mpr after)
      · have shadows : (ConfirmedHistory.resolved
            ((received.history.buffer.filter (tick < ·.1)).filter (·.1 ≤ entry.2))).isSome := by
          rw [ConfirmedHistory.resolved,List.findSome?_isSome_iff]
          exact ⟨(between,.Explicit explicit),by simp [stored,less,notAfter],rfl⟩
        obtain ⟨shown,shadow⟩ := Option.isSome_iff_exists.mp shadows
        rwa [shadow] at read ⊢
  · exact ⟨number,rfl,present_updated.mpr (ConfirmedHistory.insert_at _ _ _)⟩

/-- One step keeps the invariant, and what it applies has the value of the server. -/
theorem sound_step (sound : Sound stream Sent received) {event : Event Int C Diff} (isOf : event.Of stream)
    (allowed : Allowed stream received event)
    (sent : ∀ tick number diffs, event = .diffs tick number diffs → Sent tick number) :
    Sound stream Sent (received.step numbers apply_diff event).1 ∧
      ∀ applied ∈ (received.step numbers apply_diff event).2,
        applied.2 = stream.state applied.1.last ∧ Sent applied.1.tick applied.1.last ∧
          (applied.1.cursor numbers : Except (DiffError Int E) Int) = .ok applied.1.last := by
  cases event with
  | snapshot tick number component =>
    cases (isOf : component = stream.state number)
    refine ⟨⟨fun entry member => ?_,fun pending member => ?_⟩,nofun⟩
    · exact known_insert sound allowed (HistoryDiffReceiver.record_cursor_retained member)
    · exact sound.queued pending (HistoryDiffReceiver.record_cursor_pending member)
  | diffs tick number diffs =>
    have sent := sent tick number diffs rfl
    simp only [Received.step]
    split
    · next receiver queued =>
      rcases HistoryDiffReceiver.queue_diff_cases queued with rfl | ⟨dropped,few,rfl⟩
      · exact ⟨sound,nofun⟩
      refine ⟨⟨sound.known,fun pending member => ?_⟩,nofun⟩
      rcases List.mem_append.mp member with old | new
      · exact sound.queued pending old
      · cases List.mem_singleton.mp new
        have last : number + 1 - diffs.length + dropped + ((diffs.length - dropped) - 1 : Nat) = number := by omega
        refine ⟨⟨?_,?_⟩,?_⟩
        · exact fun empty => by simpa [few.not_ge] using List.drop_eq_nil_iff.mp empty
        · conv_lhs => rw [show diffs = _ from isOf]
          simp [Stream.drop_diffs]
        · rwa [PendingDiffMessage.last,List.length_drop,last]
    · exact ⟨sound,nofun⟩
  | take_ready_update =>
    simp only [Received.step]
    cases taken : received.receiver.take_ready_update numbers apply_diff received.history with
    | mk receiver result =>
    rcases HistoryDiffReceiver.take_ready_update_cases taken with
      ⟨pending,kept,base,cursor,value,member,fewer,isBase,isCursor,applied,rfl,rfl⟩ | ⟨none,kept,fewer,rfl⟩
    · obtain ⟨isOf,sent⟩ := sound.queued pending member
      have last : cursor = pending.last := PendingDiffMessage.cursor_ok isCursor
      have right : value = stream.state pending.last := by
        obtain ⟨base_tick,retained,-,read⟩ := HistoryDiffReceiver.base_value_retained isBase
        obtain ⟨number,isNumber,read'⟩ := sound.known _ retained
        cases isNumber
        rw [read] at read'
        cases read'
        have before : numbers.sub pending.first_diff_index 1 + 1 = pending.first_diff_index := by simp [numbers]
        have after : numbers.sub pending.first_diff_index 1 + pending.diffs.length = pending.last := by
          have := List.length_pos_iff.mpr isOf.1
          simp only [numbers,PendingDiffMessage.last]
          omega
        have leads := stream.apply_diffs (numbers.sub pending.first_diff_index 1) pending.diffs.length
        rw [before,← isOf.2,after] at leads
        exact Except.ok.inj (applied.symm.trans leads)
      subst right last
      have undisturbed := allowed pending member (by rw [isBase]; rfl)
      refine ⟨⟨fun entry member => ?_,fun other member => ?_⟩,?_⟩
      · have known := HistoryDiffReceiver.record_cursor_retained member
        exact known_insert sound undisturbed known
      · exact sound.queued other (fewer (HistoryDiffReceiver.record_cursor_pending member))
      · rintro _ ⟨⟩
        exact ⟨rfl,sent,isCursor⟩
    · split
      · next found =>
        cases found
        exact absurd rfl (none _)
      · next found =>
        cases found
        exact ⟨⟨sound.known,fun pending member => sound.queued pending (fewer member)⟩,nofun⟩
  | clear_before_tick tick =>
    refine ⟨⟨fun entry member => ?_,fun pending member => ?_⟩,nofun⟩
    · rcases HistoryDiffReceiver.clear_before_tick_retained member with old | ⟨idle,present,cursor,other,isCut,rfl⟩
      · exact sound.known entry old
      · obtain ⟨number,isNumber,read⟩ := sound.known _ (HistoryDiffReceiver.cursor_at_or_before_retained isCut)
        exact ⟨number,isNumber,(allowed idle present cursor other isCut).trans read⟩
    · exact sound.queued pending (HistoryDiffReceiver.clear_before_tick_pending member)
  | add_unchanged tick =>
    refine ⟨⟨fun entry member => ?_,sound.queued⟩,nofun⟩
    obtain ⟨number,isNumber,read⟩ := sound.known entry member
    refine ⟨number,isNumber,?_⟩
    rw [present_updated] at read ⊢
    exact (ConfirmedHistory.add_unchanged_reads _ _ _).trans read

end
end Lightyear.DiffHistory
