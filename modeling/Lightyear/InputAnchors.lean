import Lightyear.InputLookup
import Lightyear.NativeInputs
import Lightyear.Runs

/-!
What keeps a lookup in the buffer going back to an input: the first entry is not a
marker. The functions that change a buffer keep it so, but for the writes that put a
marker in front.
-/
namespace Lightyear.Inputs
open Message

namespace InputBuffer
variable {S : Type}

/-- Every lookup ends, and each marker has a last entry before it that is not a marker and that its lookups find. -/
structure Resolves (inputs : InputBuffer S) : Prop where
  ends : ∀ tick, ∃ visits value, inputs.look visits tick = some value
  nearest : ∀ index, inputs.buffer[index]? = some .SameAsPrecedent →
    ∃ earlier < index, ∃ entry, inputs.buffer[earlier]? = some entry ∧ entry ≠ .SameAsPrecedent ∧
      (∀ later, earlier < later → later ≤ index → inputs.buffer[later]? = some .SameAsPrecedent) ∧
      ∀ tick, inputs.Holds tick index → inputs.Gets tick (keep none entry)

/-- The first entry is not a marker. -/
structure Anchored (inputs : InputBuffer S) : Prop where
  unset : inputs.start_tick = none → inputs.buffer = []
  head : inputs.buffer[0]? ≠ some .SameAsPrecedent

/-- An empty buffer is not written after its first tick, where the ticks between would become markers, and not at all if
that is tick 0, where the source takes the last tick of the buffer to be tick 0 and finds no entry for it. -/
def Room (self : InputBuffer S) (tick : Tick) : Prop :=
  self.buffer = [] → ∀ start_tick ∈ self.start_tick, 0 < start_tick ∧ tick ≤ start_tick

section
variable {self : InputBuffer S} {tick start_tick : Tick} {value : Compressed S}

theorem Anchored.resolves (anchored : self.Anchored) : self.Resolves := by
  have noMarkers (index : Nat) : ¬∀ earlier ≤ index, self.buffer[earlier]? = some .SameAsPrecedent :=
    fun markers => anchored.head (markers 0 (Nat.zero_le index))
  refine ⟨fun tick => look_of_not_endless fun ⟨_,index,_,markers⟩ => noMarkers index markers,fun index marker => ?_⟩
  rcases explicit_or_markers self.buffer (List.getElem?_eq_some_iff.mp marker).1 with
    ⟨earlier,le,entry,explicit,noMarker,between⟩ | markers
  · refine ⟨earlier,lt_of_le_of_ne le fun same => noMarker ?_,entry,explicit,noMarker,between,
      fun tick holds => ⟨_,holds.look_back le explicit noMarker between⟩⟩
    rw [same] at explicit
    exact Option.some.inj (explicit.symm.trans marker)
  · exact absurd markers (noMarkers index)

/-- Setting an entry puts a marker in front only if it is the first. -/
private theorem head_set {entries : List (Compressed S)} {index : Nat} (head : entries[0]? ≠ some .SameAsPrecedent)
    (first : value = .SameAsPrecedent → index ≠ 0) : (entries.set index value)[0]? ≠ some .SameAsPrecedent := by
  rw [List.getElem?_set]
  split
  · next same =>
    split
    · exact fun marker => first (Option.some.inj marker) same
    · exact nofun
  · exact head

private theorem head_append {entries rest : List (Compressed S)} (some : entries ≠ []) :
    (entries ++ rest)[0]? = entries[0]? :=
  List.getElem?_append_left (List.length_pos_of_ne_nil some)

/-- Setting an entry of a buffer that has entries. -/
private theorem Anchored.set_raw_some (anchored : self.Anchored) (started : self.start_tick = some start_tick)
    (some : self.buffer ≠ []) (first : value = .SameAsPrecedent → start_tick ≠ tick) :
    (self.set_raw tick value).Anchored ∧ (self.set_raw tick value).start_tick = Option.some start_tick ∧
      (self.set_raw tick value).buffer ≠ [] := by
  simp only [set_raw,started]
  split
  · exact ⟨anchored,started,some⟩
  · next inside =>
    refine ⟨⟨fun unset => (by cases unset),head_set ?_ fun marker zero => ?_⟩,rfl,?_⟩
    · split
      · rw [List.append_assoc,head_append some]
        exact anchored.head
      · exact anchored.head
    · rw [not_lt,Tick.le_iff] at inside
      rw [Tick.diff] at zero
      exact first marker (BitVec.eq_of_toNat_eq (by omega))
    · rw [Ne,List.set_eq_nil_iff]
      split <;> simp [some]

/-- The first write to an empty buffer that has a first tick. -/
private theorem set_raw_first (started : self.start_tick = some start_tick) (none : self.buffer = [])
    (positive : 0 < start_tick) : self.set_raw start_tick value = {self with buffer := [value]} := by
  have last : last_tick start_tick 0 = start_tick.sub 1 := by
    rw [Tick.lt_iff] at positive
    refine BitVec.eq_of_toNat_eq ?_
    rw [last_tick,Tick.toNat_add_signed,Tick.toNat_sub,show as_i32 ((0 : Nat) - 1) = -1 from rfl]
    have := start_tick.isLt
    omega
  have before : start_tick.sub 1 < start_tick := by
    rw [Tick.lt_iff] at positive ⊢
    rw [Tick.toNat_sub]
    simp at positive
    omega
  have next : (start_tick.diff (start_tick.sub 1) - 1).toNat = 0 := by
    rw [Tick.diff,Tick.toNat_sub]
    omega
  have index : (start_tick.diff start_tick).toNat = 0 := by
    rw [Tick.diff]
    omega
  simp only [set_raw,started,lt_irrefl,if_false,none,List.length_nil,last,if_pos before,next,index]
  rfl

/-- A write that does not put a marker in front. -/
theorem Anchored.written (anchored : self.Anchored) (room : self.Room tick)
    (inside : ∀ start_tick ∈ self.start_tick, start_tick ≤ tick)
    (notFirst : value = .SameAsPrecedent → ∃ start_tick ∈ self.start_tick, start_tick ≠ tick) :
    (self.set_raw tick value).Anchored ∧ (self.set_raw tick value).buffer ≠ [] ∧
      ∃ first ≤ tick, (self.set_raw tick value).start_tick = some first := by
  cases started : self.start_tick with
  | none =>
    rw [set_raw_of_unset started,anchored.unset started]
    refine ⟨⟨nofun,fun marker => ?_⟩,by simp,tick,le_rfl,rfl⟩
    obtain ⟨start_tick,isStart,-⟩ := notFirst (Option.some.inj marker)
    cases started.symm.trans isStart
  | some start_tick =>
    have atMost := inside start_tick started
    have differs (marker : value = .SameAsPrecedent) : start_tick ≠ tick := by
      obtain ⟨start,isStart,differs⟩ := notFirst marker
      obtain rfl := Option.some.inj (started.symm.trans isStart)
      exact differs
    by_cases none : self.buffer = []
    · obtain ⟨positive,le⟩ := room none start_tick started
      obtain rfl := le_antisymm le atMost
      rw [set_raw_first started none positive]
      exact ⟨⟨fun unset => (nomatch started.symm.trans unset),fun marker => differs (Option.some.inj marker) rfl⟩,
        by simp,tick,le_rfl,started⟩
    · obtain ⟨kept,isStart,some⟩ := anchored.set_raw_some started none differs
      exact ⟨kept,some,start_tick,atMost,isStart⟩

theorem Anchored.set_raw (anchored : self.Anchored) (room : self.Room tick)
    (notFirst : value = .SameAsPrecedent → ∃ start_tick ∈ self.start_tick, start_tick ≠ tick) :
    (self.set_raw tick value).Anchored := by
  by_cases inside : ∀ start_tick ∈ self.start_tick, start_tick ≤ tick
  · exact (anchored.written room inside notFirst).1
  · push Not at inside
    obtain ⟨start_tick,started,before⟩ := inside
    rw [InputBuffer.set_raw,started]
    simp only [if_pos before]
    exact anchored

theorem Anchored.clip_after (anchored : self.Anchored) (tick : Tick) : (self.clip_after tick).Anchored := by
  unfold InputBuffer.clip_after
  split
  · exact anchored
  · next start_tick started =>
    split_ifs
    · exact ⟨fun _ => rfl,nofun⟩
    · exact anchored
    · refine ⟨fun unset => (nomatch started.symm.trans unset),?_⟩
      simp only [List.getElem?_take]
      split
      · exact anchored.head
      · exact nofun

private theorem clip_after_some (started : self.start_tick = some start_tick) (inside : start_tick ≤ tick)
    (some : self.buffer ≠ []) :
    (self.clip_after tick).start_tick = Option.some start_tick ∧ (self.clip_after tick).buffer ≠ [] := by
  simp only [InputBuffer.clip_after,started,if_neg inside.not_gt]
  split
  · exact ⟨started,some⟩
  · refine ⟨rfl,fun none => ?_⟩
    rw [List.take_eq_nil_iff] at none
    rw [Tick.le_iff] at inside
    rw [Tick.diff] at none
    exact none.elim (fun zero => by omega) some

theorem Anchored.extend_to_range (anchored : self.Anchored) (start_tick end_tick : Tick) :
    (self.extend_to_range start_tick end_tick).Anchored := by
  have absent {entries : List (Compressed S)} (head : entries[0]? ≠ some .SameAsPrecedent) (count : Nat) :
      (entries ++ List.replicate count .Absent)[0]? ≠ some .SameAsPrecedent ∧
        (List.replicate count .Absent ++ entries)[0]? ≠ some .SameAsPrecedent := by
    constructor
    · cases entries with
      | nil => cases count <;> simp [List.replicate_succ]
      | cons entry rest => exact head
    · cases count with
      | zero => exact head
      | succ count => simp [List.replicate_succ]
  refine ⟨nofun,?_⟩
  simp only [InputBuffer.extend_to_range]
  split_ifs
  · exact (absent (absent anchored.head _).2 _).1
  · exact (absent anchored.head _).2
  · exact (absent anchored.head _).1
  · exact anchored.head

theorem last_popped_ne (entries : List (Compressed S)) : last_popped entries ≠ .SameAsPrecedent := by
  induction entries using List.reverseRecOn with
  | nil => simp [last_popped]
  | append_singleton entries entry ih =>
    rw [last_popped,List.foldl_append,List.foldl_cons,List.foldl_nil]
    cases entry with
    | SameAsPrecedent => exact ih
    | Absent | Input _ => simp

theorem Anchored.pop (anchored : self.Anchored) (tick : Tick) : (self.pop tick).2.Anchored := by
  unfold InputBuffer.pop
  split
  · exact anchored
  · next start_tick started =>
    split_ifs
    · exact anchored
    · exact ⟨nofun,nofun⟩
    · refine ⟨nofun,?_⟩
      simp only [resumed]
      split
      · exact fun marker => last_popped_ne _ (Option.some.inj marker)
      · next rest noMarker =>
        cases entries : self.buffer.drop ((tick.add_signed 1).diff start_tick).toNat with
        | nil => exact nofun
        | cons entry rest => exact fun marker => noMarker rest (by rw [entries,Option.some.inj marker])

theorem Anchored.set [DecidableEq S] (anchored : self.Anchored) (room : self.Room tick) {value : S}
    (notFirst : ¬(tick = 0 ∧ self.start_tick = some 0 ∧ self.buffer[0]? = some (.Input value))) :
    (self.set tick value).Anchored := by
  unfold InputBuffer.set
  split
  · next before =>
    refine anchored.set_raw room fun _ => ?_
    cases started : self.start_tick with
    | none => cases (get_of_unset started _).symm.trans before
    | some start_tick =>
      refine ⟨start_tick,rfl,?_⟩
      rintro rfl
      by_cases zero : start_tick.toNat = 0
      · refine notFirst ⟨BitVec.eq_of_toNat_eq zero,started.trans (congrArg some (BitVec.eq_of_toNat_eq zero)),?_⟩
        rw [get,show (start_tick.sub 1).toNat = 0 by rw [Tick.toNat_sub]; omega,get_number] at before
        split at before
        · next raw =>
          by_cases outside : ∀ index, ¬self.Holds (BitVec.ofNat 32 0) index
          · cases raw.symm.trans (get_raw_of_not_holds outside)
          · push Not at outside
            obtain ⟨index,holds⟩ := outside
            obtain ⟨-,_,-,place⟩ := holds.place
            obtain rfl : index = 0 := by simp at place; omega
            rw [holds.get_raw,raw,Option.some.inj before]
        · cases before
      · cases before.symm.trans (get_of_before started (by rw [Tick.lt_iff,Tick.toNat_sub]; omega))
  · exact anchored.set_raw room fun marker => by cases marker

end
end InputBuffer

open InputBuffer

section
variable {S : Type} (inputs : InputBuffer S) (start_tick : Tick) (snapshots : List (Compressed S))

/-- The update of a buffer from a message does not put a marker in front. An empty buffer that has a first tick gets the
input of that tick before a later one, and the snapshot after the first one that is too early, which empties the buffer,
is not a marker. -/
structure Continued : Prop where
  few : snapshots.length < 2 ^ 32
  short : inputs.buffer.length < 2 ^ 31
  joins : inputs.buffer = [] → ∀ first ∈ inputs.start_tick, 0 < first ∧
    ∀ delta < snapshots.length, Newer inputs (message_tick start_tick delta) → first < message_tick start_tick delta →
      ∃ earlier < delta, Newer inputs (message_tick start_tick earlier) ∧
        (message_tick start_tick earlier = first ∨ TooEarly inputs start_tick snapshots earlier)
  restarts : ∀ delta, TooEarly inputs start_tick snapshots delta →
    (∀ earlier < delta, ¬TooEarly inputs start_tick snapshots earlier) → snapshots[delta + 1]? ≠ some .SameAsPrecedent

/-- Where an update can be after some snapshots: it wrote nothing, it wrote to the buffer, or it has emptied it. -/
private inductive Stage : UpdateState S → Prop
  | untouched {state : UpdateState S} : state.input_buffer = inputs → state.earliest_mismatch = none →
      state.latest_received_input = held snapshots →
      (∀ delta < snapshots.length, Newer inputs (message_tick start_tick delta) →
        ¬TooEarly inputs start_tick snapshots delta ∧
        (inputs.buffer = [] → ∀ first ∈ inputs.start_tick, message_tick start_tick delta < first)) → Stage state
  | written {state : UpdateState S} (first : Tick) :
    state.input_buffer.Anchored → state.input_buffer.start_tick = some first →
      state.input_buffer.buffer ≠ [] → first.toNat < start_tick.toNat + snapshots.length → Stage state
  | emptied {state : UpdateState S} (delta : Nat) : state.input_buffer.Anchored → state.input_buffer.start_tick = none →
      state.earliest_mismatch.isSome → snapshots.length = delta + 1 → TooEarly inputs start_tick snapshots delta →
      (∀ earlier < delta, ¬TooEarly inputs start_tick snapshots earlier) → Stage state

variable {inputs start_tick snapshots}

private theorem tooEarly_append {input : Compressed S} {delta : Nat} (inside : delta < snapshots.length) :
    TooEarly inputs start_tick (snapshots ++ [input]) delta ↔ TooEarly inputs start_tick snapshots delta := by
  rw [TooEarly,TooEarly,value_at_append,if_neg inside.ne]

private theorem TooEarly.inside {delta : Nat} (early : TooEarly inputs start_tick snapshots delta) :
    delta < snapshots.length := by
  by_contra outside
  exact early.2.1 (if_neg outside)

private theorem Continued.init {input : Compressed S} (continued : Continued inputs start_tick (snapshots ++ [input])) :
    Continued inputs start_tick snapshots := by
  obtain ⟨few,short,joins,restarts⟩ := continued
  rw [List.length_append,List.length_singleton] at few
  refine ⟨by omega,short,fun none first isFirst => ?_,fun delta early firstEarly => ?_⟩
  · obtain ⟨positive,joins⟩ := joins none first isFirst
    refine ⟨positive,fun delta inside newer after => ?_⟩
    obtain ⟨earlier,before,newer,place⟩ := joins delta (by simp; omega) newer after
    exact ⟨earlier,before,newer,place.imp id (tooEarly_append (before.trans inside)).mp⟩
  · have inside := early.inside
    intro marker
    refine restarts delta ((tooEarly_append inside).mpr early) (fun earlier before early => ?_) ?_
    · exact firstEarly earlier before ((tooEarly_append (before.trans inside)).mp early)
    · rw [List.getElem?_append_left (List.getElem?_eq_some_iff.mp marker).1]
      exact marker

variable [DecidableEq S]

variable (inputs start_tick) in
/-- What one snapshot can do to the buffer as long as there is no mismatch. -/
private theorem update_step_effect (decay_tick : S → S) (state : UpdateState S) (input : Compressed S) (delta : Nat)
    (noMismatch : state.earliest_mismatch = none) :
    let tick := message_tick start_tick delta
    let received := keep state.latest_received_input input
    let next := update_step decay_tick inputs.last_remote_tick inputs.end_tick start_tick state (input,delta)
    next.latest_received_input = received ∧
      (next.input_buffer = state.input_buffer ∧ next.earliest_mismatch = none ∧
          (Newer inputs tick → ¬Beyond inputs tick ∧ state.input_buffer.get tick = received) ∨
        next.input_buffer = state.input_buffer.set_raw tick (.from_option received) ∧ next.earliest_mismatch = none ∧
          Newer inputs tick ∧ Beyond inputs tick ∨
        next.input_buffer = (state.input_buffer.set_raw tick (.from_option received)).clip_after tick ∧
          next.earliest_mismatch = some tick ∧ Newer inputs tick ∧
          (¬Beyond inputs tick → state.input_buffer.get tick ≠ received)) := by
  intro tick received next
  have inBuffer (inBuffer : ¬Beyond inputs tick) : (if inputs.end_tick.any (tick ≤ ·) then state.input_buffer.get tick
      else state.previous_predicted_input.map decay_tick) = state.input_buffer.get tick :=
    if_pos ((not_beyond_iff tick).mpr inBuffer)
  rcases update_step_cases decay_tick inputs start_tick state input delta noMismatch with
    ⟨unfolded,kept⟩ | ⟨unfolded,newer,-,beyond⟩ | ⟨unfolded,newer,differs⟩ <;> rw [show next = _ from unfolded]
  · refine ⟨rfl,.inl ⟨rfl,rfl,fun newer => ?_⟩⟩
    obtain ⟨equal,beyond⟩ := kept newer
    exact ⟨beyond,(inBuffer beyond).symm.trans equal⟩
  · exact ⟨rfl,.inr (.inl ⟨rfl,rfl,newer,beyond⟩)⟩
  · exact ⟨rfl,.inr (.inr ⟨rfl,rfl,newer,fun beyond same => differs ((inBuffer beyond).trans same)⟩)⟩

variable (inputs start_tick) in
/-- After a mismatch a snapshot is written as it is. -/
private theorem update_step_after (decay_tick : S → S) (state : UpdateState S) (input : Compressed S) (delta : Nat)
    (mismatch : state.earliest_mismatch.isSome) :
    let next := update_step decay_tick inputs.last_remote_tick inputs.end_tick start_tick state (input,delta)
    next.input_buffer = state.input_buffer.set_raw (message_tick start_tick delta) input ∧
      next.earliest_mismatch = state.earliest_mismatch := by
  simp only [update_step,mismatch,if_true,and_self]

omit [DecidableEq S] in
private theorem from_option_ne (value : Option S) : Compressed.from_option value ≠ .SameAsPrecedent := by
  cases value <;> exact nofun

omit [DecidableEq S] in
/-- A tick before the start of a buffer is not after its end. -/
private theorem not_beyond_of_before {first tick : Tick} (started : inputs.start_tick = some first)
    (short : inputs.buffer.length < 2 ^ 31) (before : tick < first) : ¬Beyond inputs tick := by
  intro beyond
  have after := beyond (last_tick first inputs.buffer.length) (by rw [end_tick,started]; rfl)
  have cast : as_i32 (inputs.buffer.length - 1) = inputs.buffer.length - 1 := Int.bmod_eq_of_le (by omega) (by omega)
  rw [Tick.lt_iff,last_tick,Tick.toNat_add_signed,cast] at after
  rw [Tick.lt_iff] at before
  have := first.isLt
  omega

omit [DecidableEq S] in
/-- An empty buffer ends before its first tick. -/
private theorem before_of_not_beyond {first tick : Tick} (started : inputs.start_tick = some first)
    (none : inputs.buffer = [])
    (positive : 0 < first) (inBuffer : ¬Beyond inputs tick) : tick < first := by
  by_contra after
  refine inBuffer fun last isLast => ?_
  rw [end_tick,started,none,Option.map_some,Option.mem_some_iff] at isLast
  rw [← isLast,last_tick,Tick.lt_iff,Tick.toNat_add_signed,show as_i32 (([] : List (Compressed S)).length - 1) =
    -1 from rfl]
  rw [Tick.lt_iff] at after positive
  have : (0 : Tick).toNat = 0 := rfl
  omega

private theorem stage_step (anchored : inputs.Anchored) {input : Compressed S}
    (continued : Continued inputs start_tick (snapshots ++ [input]))
    (room : start_tick.toNat + snapshots.length < 2 ^ 32)
    (decay_tick : S → S) {state : UpdateState S} (stage : Stage inputs start_tick snapshots state) :
    Stage inputs start_tick (snapshots ++ [input])
      (update_step decay_tick inputs.last_remote_tick inputs.end_tick start_tick state (input,snapshots.length)) := by
  have place := message_tick_toNat start_tick snapshots.length room
  have length : (snapshots ++ [input]).length = snapshots.length + 1 := by simp
  cases stage with
  | untouched same noMismatch latest nothing =>
    have value : value_at (snapshots ++ [input]) snapshots.length = keep state.latest_received_input input := by
      rw [value_at_append,if_pos rfl,latest]
    have fits (newer : Newer inputs (message_tick start_tick snapshots.length)) :
        inputs.Room (message_tick start_tick snapshots.length) := by
      intro none first isFirst
      obtain ⟨positive,joins⟩ := continued.joins none first isFirst
      refine ⟨positive,?_⟩
      by_contra after
      obtain ⟨earlier,before,newer,atFirst | early⟩ := joins snapshots.length (by simp) newer (not_le.mp after)
      · exact ((nothing earlier before newer).2 none first isFirst).ne atFirst
      · exact (nothing earlier before newer).1 ((tooEarly_append before).mp early)
    rcases update_step_effect inputs start_tick decay_tick state input snapshots.length noMismatch with
      ⟨received,⟨buffer,mismatch,kept⟩ | ⟨buffer,mismatch,newer,beyond⟩ | ⟨buffer,mismatch,newer,differs⟩⟩ <;>
        rw [same] at buffer
    · refine .untouched buffer mismatch (received.trans (by rw [latest,held_append])) fun delta inside newer => ?_
      by_cases last : delta = snapshots.length
      · subst last
        obtain ⟨inBuffer,equal⟩ := kept newer
        refine ⟨fun ⟨_,isSome,first,started,before⟩ => isSome ?_,fun none first isFirst =>
          before_of_not_beyond isFirst none (continued.joins none first isFirst).1 inBuffer⟩
        rw [value,← equal,same,get_of_before started before]
      · have earlier : delta < snapshots.length := by omega
        exact (nothing delta earlier newer).imp (mt (tooEarly_append earlier).mp) id
    · have inside : ∀ first ∈ inputs.start_tick, first ≤ message_tick start_tick snapshots.length :=
        fun first started => not_lt.mp fun before => not_beyond_of_before started continued.short before beyond
      obtain ⟨isAnchored,some,first,le,started⟩ := anchored.written (fits newer) inside
        fun marker => absurd marker (from_option_ne (keep state.latest_received_input input))
      rw [← buffer] at isAnchored some started
      rw [Tick.le_iff] at le
      exact .written first isAnchored started some (by omega)
    · by_cases inside : ∀ first ∈ inputs.start_tick, first ≤ message_tick start_tick snapshots.length
      · obtain ⟨isAnchored,some,first,le,started⟩ := anchored.written (fits newer) inside
          fun marker => absurd marker (from_option_ne (keep state.latest_received_input input))
        obtain ⟨started,some⟩ := clip_after_some started le some
        have isAnchored := isAnchored.clip_after (message_tick start_tick snapshots.length)
        rw [← buffer] at isAnchored some started
        rw [Tick.le_iff] at le
        exact .written first isAnchored started some (by omega)
      · push Not at inside
        obtain ⟨first,started,before⟩ := inside
        rw [clip_set_raw_before started before] at buffer
        refine .emptied snapshots.length ?_ ?_ ?_ length ⟨newer,?_,first,started,before⟩ fun earlier inside early => ?_
        · rw [buffer]
          exact ⟨fun _ => rfl,nofun⟩
        · rw [buffer]
        · rw [mismatch]
          rfl
        · have := differs (not_beyond_of_before started continued.short before)
          rw [same,get_of_before started before] at this
          rw [value]
          exact this.symm
        · exact (nothing earlier inside early.1).1 ((tooEarly_append inside).mp early)
  | written first isAnchored started some before =>
    have le : first < message_tick start_tick snapshots.length := by
      rw [Tick.lt_iff]
      omega
    have set (value : Compressed S) :
        (state.input_buffer.set_raw (message_tick start_tick snapshots.length) value).Anchored ∧ _ ∧ _ :=
      isAnchored.set_raw_some started some fun _ => le.ne
    cases noMismatch : state.earliest_mismatch with
    | some mismatch =>
      obtain ⟨buffer,-⟩ := update_step_after inputs start_tick decay_tick state input snapshots.length
        (noMismatch ▸ rfl)
      obtain ⟨isAnchored,started,some⟩ := set input
      rw [← buffer] at isAnchored some started
      exact .written first isAnchored started some (by omega)
    | none =>
      rcases update_step_effect inputs start_tick decay_tick state input snapshots.length noMismatch with
        ⟨-,⟨buffer,-⟩ | ⟨buffer,-⟩ | ⟨buffer,-⟩⟩
      · rw [← buffer] at isAnchored some started
        exact .written first isAnchored started some (by omega)
      · obtain ⟨isAnchored,started,some⟩ := set (.from_option (keep state.latest_received_input input))
        rw [← buffer] at isAnchored some started
        exact .written first isAnchored started some (by omega)
      · obtain ⟨isAnchored,started,some⟩ := set (.from_option (keep state.latest_received_input input))
        obtain ⟨started,some⟩ := clip_after_some started le.le some
        have isAnchored := isAnchored.clip_after (message_tick start_tick snapshots.length)
        rw [← buffer] at isAnchored some started
        exact .written first isAnchored started some (by omega)
  | emptied delta isAnchored unset mismatch last early firstEarly =>
    obtain ⟨buffer,-⟩ := update_step_after inputs start_tick decay_tick state input snapshots.length mismatch
    have inside : delta < snapshots.length := by omega
    have noMarker : input ≠ .SameAsPrecedent := by
      rintro rfl
      refine continued.restarts delta ((tooEarly_append inside).mpr early) (fun earlier before early => ?_) ?_
      · exact firstEarly earlier before ((tooEarly_append (before.trans inside)).mp early)
      · rw [← last,List.getElem?_append_right le_rfl,Nat.sub_self]
        rfl
    rw [set_raw_of_unset unset,isAnchored.unset unset] at buffer
    refine .written (message_tick start_tick snapshots.length) ?_ ?_ ?_ (by omega) <;> rw [buffer]
    · exact ⟨nofun,fun marker => noMarker (Option.some.inj marker)⟩
    · exact List.cons_ne_nil _ _

private theorem stage_run (anchored : inputs.Anchored) (continued : Continued inputs start_tick snapshots)
    (room : start_tick.toNat + snapshots.length ≤ 2 ^ 32) (decay_tick : S → S) :
    Stage inputs start_tick snapshots (run decay_tick inputs start_tick snapshots) := by
  induction snapshots using List.reverseRecOn with
  | nil => exact .untouched rfl rfl rfl fun delta inside => absurd inside (Nat.not_lt_zero delta)
  | append_singleton snapshots input ih =>
    rw [List.length_append,List.length_singleton] at room
    rw [run_append]
    exact stage_step anchored continued (by omega) decay_tick (ih continued.init (by omega))

/-- An update that continues the buffer. -/
theorem InputBuffer.Anchored.update_buffer {Seq : Type} (backend : ActionStateSequence Seq S) (self : Seq)
    (end_tick : Tick)
    (tick_duration : Duration) (anchored : inputs.Anchored)
    (continued : Continued inputs (message_start end_tick (backend.len self))
      (backend.get_snapshots_from_message self tick_duration)) :
    (update_buffer backend self inputs end_tick tick_duration).2.Anchored := by
  have length := backend.length_snapshots self tick_duration
  have room : (message_start end_tick (backend.len self)).toNat +
      (backend.get_snapshots_from_message self tick_duration).length ≤ 2 ^ 32 := by
    have few := continued.few
    rw [length] at few ⊢
    rw [message_start,Tick.toNat_sub,Tick.toNat_add_signed,Nat.mod_eq_of_lt few]
    omega
  have stage := stage_run anchored continued room (backend.decay_tick · tick_duration)
  have isAnchored : (run (backend.decay_tick · tick_duration) inputs (message_start end_tick (backend.len self))
      (backend.get_snapshots_from_message self tick_duration)).input_buffer.Anchored := by
    cases stage with
    | untouched same =>
      rw [same]
      exact anchored
    | written _ isAnchored => exact isAnchored
    | emptied _ isAnchored => exact isAnchored
  rw [update_buffer_eq]
  exact ⟨isAnchored.unset,isAnchored.head⟩

end

/-- A call of a function that changes a buffer. -/
inductive Call (Seq S : Type) where
  | set (tick : Tick) (value : S)
  | set_raw (tick : Tick) (value : Compressed S)
  | set_empty (tick : Tick)
  | extend_to_range (start_tick end_tick : Tick)
  | clip_after (tick : Tick)
  | pop (tick : Tick)
  | update_buffer (sequence : Seq) (end_tick : Tick) (tick_duration : Duration)

namespace InputBuffer

section
variable {Seq S : Type} [DecidableEq S] (backend : ActionStateSequence Seq S)

def call (self : InputBuffer S) : Call Seq S → InputBuffer S
  | .set tick value => self.set tick value
  | .set_raw tick value => self.set_raw tick value
  | .set_empty tick => self.set_empty tick
  | .extend_to_range start_tick end_tick => self.extend_to_range start_tick end_tick
  | .clip_after tick => self.clip_after tick
  | .pop tick => (self.pop tick).2
  | .update_buffer sequence end_tick tick_duration => (update_buffer backend sequence self end_tick tick_duration).2

/-- A call that does not put a marker in front. The tick before tick 0 is tick 0, so that the input there
repeats itself. -/
def Keeps (self : InputBuffer S) : Call Seq S → Prop
  | .set tick value => self.Room tick ∧ ¬(tick = 0 ∧ self.start_tick = some 0 ∧ self.buffer[0]? = some (.Input value))
  | .set_raw tick value =>
    self.Room tick ∧ (value = .SameAsPrecedent → ∃ start_tick ∈ self.start_tick, start_tick ≠ tick)
  | .set_empty tick => self.Room tick
  | .update_buffer sequence end_tick tick_duration =>
    Continued self (message_start end_tick (backend.len sequence))
      (backend.get_snapshots_from_message sequence tick_duration)
  | _ => True

theorem Anchored.call {self : InputBuffer S} (anchored : self.Anchored) (call : Call Seq S)
    (keeps : self.Keeps backend call) :
    (self.call backend call).Anchored := by
  cases call with
  | set tick value => exact anchored.set keeps.1 keeps.2
  | set_raw tick value => exact anchored.set_raw keeps.1 keeps.2
  | set_empty tick => exact anchored.set_raw keeps nofun
  | extend_to_range start_tick end_tick => exact anchored.extend_to_range start_tick end_tick
  | clip_after tick => exact anchored.clip_after tick
  | pop tick => exact anchored.pop tick
  | update_buffer sequence end_tick tick_duration =>
    exact anchored.update_buffer backend sequence end_tick tick_duration keeps

/-- In every buffer that calls reach without putting a marker in front, lookups end and markers are resolved. -/
theorem reached_resolves {self : InputBuffer S}
    (reached : Runs.Reaches (fun before call => some (before.call backend call))
      (fun before call _ => before.Keeps backend call)
      default self) : self.Resolves := by
  refine (reached.invariant InputBuffer.Anchored ⟨fun _ => rfl,?_⟩ fun before call after anchored executed keeps =>
    ?_).resolves
  · exact fun marker => nomatch (marker : ([] : List (Compressed S))[0]? = _)
  · obtain rfl := Option.some.inj executed
    exact anchored.call backend call keeps

end

open NativeStateSequence (native)

/-- The same input for three ticks, of which the first is removed. -/
theorem reached_resolves_popped : Resolves (S := ActionState Nat) ⟨some 1,[.Input ⟨5⟩,.SameAsPrecedent],none⟩ := by
  refine reached_resolves (native (A := Nat))
    (.step (.pop 0) (.step (.set 2 ⟨5⟩) (.step (.set 1 ⟨5⟩) (.step (.set 0 ⟨5⟩) .start
    rfl ?_) rfl ?_) rfl ?_) rfl trivial)
  · exact ⟨fun _ _ isStart => (nomatch isStart),fun first => (nomatch first.2.1)⟩
  · exact ⟨fun none => (nomatch none),fun first => absurd first.1 (by decide)⟩
  · exact ⟨fun none => (nomatch none),fun first => absurd first.1 (by decide)⟩

/-- The same input twice for tick 0. The second time it is stored as a marker, and its lookup has no end. -/
theorem first_tick_endless : ¬ ∀ self : InputBuffer (ActionState Nat),
    Runs.Reaches (fun before call => some (before.call (native (A := Nat)) call)) (fun _ _ _ => True) default self →
    self.Resolves := by
  intro resolves
  have reached : Runs.Reaches (fun before call => some (before.call (native (A := Nat)) call))
    (fun _ _ _ => True) default
      ⟨some 0,[.SameAsPrecedent],none⟩ := .step (.set 0 ⟨5⟩) (.step (.set 0 ⟨5⟩) .start rfl trivial) rfl trivial
  obtain ⟨visits,value,found⟩ := (resolves _ reached).ends 0
  have endless : Endless (S := ActionState Nat) ⟨some 0,[.SameAsPrecedent],none⟩ 0 := by
    refine ⟨rfl,0,⟨0,rfl,nofun,le_rfl,by decide,rfl⟩,fun earlier le => ?_⟩
    rw [Nat.le_zero.mp le]
    rfl
  cases (endless.look visits).symm.trans found

end InputBuffer
end Lightyear.Inputs
