import Lightyear.NativeInputs
import Lightyear.LeafwingInputs
import Lightyear.BeiInputs

/-!
What the receiver of an input message reads, for each of the three backends. Native
inputs come through as they are. The leafwing backend sends what is read of an action
that is not disabled, the BEI backend states and values; the rest is computed again.
-/
namespace Lightyear.Inputs
open Message InputBuffer

variable {Seq S : Type}

/-- A tick by its number. -/
private def tick_of (number : Nat) : Tick := BitVec.ofNat 32 number

private theorem toNat_tick_of {number : Nat} (small : number < 2 ^ 32) : (tick_of number).toNat = number := by
  rw [tick_of,BitVec.toNat_ofNat,Nat.mod_eq_of_lt small]

private theorem add_one {tick end_tick : Tick} (below : end_tick.toNat + 1 < 2 ^ 32) (inside : tick ≤ end_tick) :
    (tick.add 1).toNat = tick.toNat + 1 := by
  rw [Tick.le_iff] at inside
  rw [Tick.toNat_add]
  omega

private theorem first_buffered_returns (input_buffer : InputBuffer S) {end_tick : Tick}
    (below : end_tick.toNat + 1 < 2 ^ 32)
    {rounds : Nat} {start_tick : Tick} (enough : end_tick.toNat + 1 - start_tick.toNat < rounds) :
    ∃ found, first_buffered input_buffer end_tick rounds start_tick = some found ∧
      (found ≤ end_tick → (input_buffer.get found).isSome) ∧
      ∀ tick, start_tick ≤ tick → tick < found → tick ≤ end_tick → input_buffer.get tick = none := by
  induction rounds generalizing start_tick with
  | zero => omega
  | succ rounds ih =>
    rw [first_buffered]
    by_cases inside : start_tick ≤ end_tick
    · rw [if_pos inside]
      by_cases present : (input_buffer.get start_tick).isSome
      · rw [if_pos present]
        exact ⟨start_tick,rfl,fun _ => present,fun tick after before => absurd before after.not_gt⟩
      · have next := add_one below inside
        rw [Tick.le_iff] at inside
        obtain ⟨found,returned,isFound,absent⟩ := @ih (start_tick.add 1) (by omega)
        rw [if_neg present]
        refine ⟨found,returned,isFound,fun tick after before => ?_⟩
        by_cases first : tick = start_tick
        · intro _
          rw [first]
          simpa using present
        · refine absent tick ?_ before
          have := BitVec.toNat_ne.mp first
          rw [Tick.le_iff] at after ⊢
          omega
    · rw [if_neg inside]
      exact ⟨start_tick,rfl,fun within => absurd within inside,fun tick after before => absurd before after.not_gt⟩

private theorem ticks_to_returns {end_tick : Tick} (below : end_tick.toNat + 1 < 2 ^ 32) {rounds : Nat} {tick : Tick}
    (enough : end_tick.toNat + 1 - tick.toNat < rounds) :
    ticks_to end_tick rounds tick = some ((List.range' tick.toNat (end_tick.toNat + 1 - tick.toNat)).map tick_of) := by
  induction rounds generalizing tick with
  | zero => omega
  | succ rounds ih =>
    rw [ticks_to]
    by_cases inside : tick ≤ end_tick
    · have next := add_one below inside
      rw [if_pos inside]
      rw [Tick.le_iff] at inside
      rw [ih (by omega),next,show end_tick.toNat + 1 - tick.toNat = end_tick.toNat + 1 - (tick.toNat + 1) + 1 by omega,
        List.range'_succ,List.map_cons,Option.map_some,tick_of,BitVec.ofNat_toNat,BitVec.setWidth_eq]
    · rw [if_neg inside]
      rw [Tick.le_iff] at inside
      rw [show end_tick.toNat + 1 - tick.toNat = 0 by omega]
      rfl

section
variable [DecidableEq S]

/-- The build returns; there is no message only if the sender has no input for its ticks, and from a message an empty
receiver reads inputs that agree with those of the sender at all of its ticks. -/
def Arrives (backend : ActionStateSequence Seq S) (sender : InputBuffer S) (num_ticks : Nat) (end_tick : Tick)
    (tick_duration : Duration) (Agrees : Tick → Option S → Prop) : Prop :=
  ∀ rounds > end_tick.toNat + 1, ∃ built,
    backend.build_from_input_buffer rounds sender num_ticks end_tick = some built ∧
    (built = none → ∀ tick, (end_tick.sub num_ticks).add_signed 1 ≤ tick → tick ≤ end_tick → sender.get tick = none) ∧
    ∀ sequence ∈ built, ∀ tick delta, Covers end_tick (backend.len sequence) tick delta →
      Agrees tick ((update_buffer backend sequence .default end_tick tick_duration).2.get tick)

/-- From an empty buffer a message is read as it is. -/
private theorem get_received (backend : ActionStateSequence Seq S) (sequence : Seq) {end_tick : Tick}
    (tick_duration : Duration) (below : end_tick.toNat + 1 < 2 ^ 32) (exist : backend.len sequence ≤ end_tick.toNat + 1)
    (short : backend.len sequence < 2 ^ 31) {tick : Tick} {delta : Nat}
    (covers : Covers end_tick (backend.len sequence) tick delta) :
    (update_buffer backend sequence .default end_tick tick_duration).2.get tick =
      value_at (backend.get_snapshots_from_message sequence tick_duration) delta := by
  have fitting : Fitting (.default : InputBuffer S) end_tick (backend.len sequence) :=
    ⟨⟨fun _ => rfl,fun _ isStart => nomatch isStart⟩,exist,below,short⟩
  rw [update_buffer_eq]
  rw [← backend.length_snapshots sequence tick_duration] at fitting covers ⊢
  rw [get_remote]
  exact (values_iff fitting _).mpr (fun _ _ _ _ _ _ isStart => nomatch isStart) tick delta covers fun _ isLast =>
    nomatch isLast

omit [DecidableEq S] in
/-- The entries of a buffer from a place on, the first of them resolved, stand for what they stand for in the buffer. -/
private theorem value_at_resume {entries rest : List (Compressed S)} {place : Nat}
    (same : ∀ index < rest.length, rest[index]? = some ((entries[place + 1 + index]?).getD .Absent)) {delta : Nat}
    (inside : delta ≤ rest.length) :
    value_at (.from_option (value_at entries place) :: rest) delta = value_at entries (place + delta) := by
  induction delta with
  | zero => exact keep_from_option none _
  | succ delta ih =>
    rw [value_at_of_raw,held_take (by simp; omega),ih (by omega),List.getElem?_cons_succ,same delta (by omega),
      Option.getD_some,
      value_at_of_raw entries (place + (delta + 1)),show place + 1 + delta = place + (delta + 1) by omega]
    cases stored : entries[place + (delta + 1)]? with
    | none => rfl
    | some entry =>
      have := (List.getElem?_eq_some_iff.mp stored).1
      rw [← Nat.add_assoc,held_take (by omega)]

private theorem as_usize_diff {tick start_tick : Tick} (after : start_tick.toNat ≤ tick.toNat)
    (near : tick.toNat < start_tick.toNat + 2 ^ 31) :
    as_usize (tick.diff start_tick) = tick.toNat - start_tick.toNat := by
  rw [diff_toNat after near,as_usize]
  omega

end

namespace NativeStateSequence
variable {A : Type} [DecidableEq A]

omit [DecidableEq A] in
/-- The snapshots of a message are the entries that were sent, the first of them resolved. -/
private theorem snapshots_of_built (sender : InputBuffer (ActionState A)) (num_ticks : Nat) {start end_tick : Tick}
    (started : sender.start_tick = some start) (fits : sender.Fits (end_tick.toNat + 1))
    (below : end_tick.toNat + 1 < 2 ^ 32)
    (requested : (end_tick.sub num_ticks).add_signed 1 ≤ end_tick) (inside : start ≤ end_tick) :
    ∃ (sequence : NativeStateSequence A) (place : Nat) (rest : List (Compressed (ActionState A))),
      build_from_input_buffer sender num_ticks end_tick = some sequence ∧
      start.toNat + place + rest.length = end_tick.toNat ∧
      (∀ tick_duration, sequence.get_snapshots_from_message tick_duration =
        .from_option (value_at sender.buffer place) :: rest) ∧
      ∀ index < rest.length, rest[index]? = some ((sender.buffer[place + 1 + index]?).getD .Absent) := by
  obtain ⟨positive,inRange,short,near⟩ := fits.room start started
  rw [Tick.le_iff] at inside
  generalize isFirst : max ((end_tick.sub num_ticks).add_signed 1) start = first
  have place : start.toNat ≤ first.toNat ∧ first.toNat ≤ end_tick.toNat := by
    rcases max_choice ((end_tick.sub num_ticks).add_signed 1) start with isMax | isMax
    all_goals
      have atLeast := le_max_right ((end_tick.sub num_ticks).add_signed 1) start
      rw [isFirst,Tick.le_iff] at atLeast
      rw [isFirst] at isMax
      refine ⟨atLeast,?_⟩
    · rw [isMax]
      exact requested
    · rw [isMax]
      exact inside
  have next {tick : Tick} (after : start.toNat ≤ tick.toNat) (before : tick.toNat ≤ end_tick.toNat) :
      as_usize ((tick.add_signed 1).diff start) = tick.toNat + 1 - start.toNat := by
    have := Tick.toNat_add_signed tick 1
    rw [as_usize_diff] <;> omega
  have built : build_from_input_buffer sender num_ticks end_tick =
      some ⟨(sender.get first).elim .Absent (.Input ·.value) ::
        (List.range' (first.toNat + 1 - start.toNat) (end_tick.toNat - first.toNat)).map (sent sender.buffer[·]?)⟩ := by
    rw [build_from_input_buffer,started]
    simp only [Option.bind_eq_bind,Option.bind_some,isFirst,next place.1 place.2,next inside le_rfl]
    rw [show end_tick.toNat + 1 - start.toNat - (first.toNat + 1 - start.toNat) = end_tick.toNat - first.toNat by omega]
  have same (entry : Option (Compressed (ActionState A))) : snapshot (sent entry) = entry.getD .Absent := by
    rcases entry with _ | _ | _ | _ <;> rfl
  refine ⟨_,first.toNat - start.toNat,
    (List.range' (first.toNat + 1 - start.toNat) (end_tick.toNat - first.toNat)).map fun idx =>
      (sender.buffer[idx]?).getD .Absent,
    built,?_,fun _ => ?_,fun index within => ?_⟩
  · simp
    omega
  · have resolved : value_at sender.buffer (first.toNat - start.toNat) = sender.get first := by
      rw [get_eq fits started,if_neg (by omega)]
    rw [get_snapshots_from_message,List.map_cons,List.map_map,resolved]
    congr 1
    · cases sender.get first <;> rfl
    · exact List.map_congr_left fun idx _ => same _
  · rw [List.length_map,List.length_range'] at within
    rw [List.getElem?_map,List.getElem?_range' within,Option.map_some]
    congr 3
    omega

omit [DecidableEq A] in
/-- The states of a message are the inputs of the buffer that it is built from. -/
theorem built_states {sender : InputBuffer (ActionState A)} {num_ticks : Nat} {end_tick : Tick}
    (fits : sender.Fits (end_tick.toNat + 1)) (below : end_tick.toNat + 1 < 2 ^ 32)
    (requested : (end_tick.sub num_ticks).add_signed 1 ≤ end_tick)
    (inside : ∀ start_tick ∈ sender.start_tick, start_tick ≤ end_tick) {sequence : NativeStateSequence A}
    (isBuilt : build_from_input_buffer sender num_ticks end_tick = some sequence) (tick_duration : Duration) :
    sequence.len ≤ end_tick.toNat + 1 ∧ sequence.len < 2 ^ 31 ∧
      ∀ tick delta, Covers end_tick sequence.len tick delta → (∀ start_tick ∈ sender.start_tick, start_tick ≤ tick) ∧
        value_at (sequence.get_snapshots_from_message tick_duration) delta = sender.get tick := by
  cases started : sender.start_tick with
  | none =>
    rw [build_from_input_buffer,started] at isBuilt
    exact nomatch isBuilt
  | some start =>
    obtain ⟨sequence',place,rest,built,wide,snapshots,same⟩ :=
      snapshots_of_built sender num_ticks started fits below requested (inside start started)
    obtain rfl : sequence' = sequence := Option.some.inj (built.symm.trans isBuilt)
    have length : sequence'.len = rest.length + 1 := by
      rw [← show _ = sequence'.len from native.length_snapshots sequence' tick_duration]
      exact congrArg List.length (snapshots tick_duration)
    have := (fits.room start started).2.2.2
    refine ⟨by omega,by omega,fun tick delta ⟨within,covered⟩ => ⟨fun start' isStart => ?_,?_⟩⟩
    · obtain rfl : start = start' := Option.some.inj isStart
      rw [Tick.le_iff]
      omega
    · rw [snapshots tick_duration,value_at_resume same (by omega),get_eq fits started,if_neg (by omega)]
      congr 1
      omega

/-- A native message brings the inputs of the sender. -/
theorem native_arrives (sender : InputBuffer (ActionState A)) (num_ticks : Nat) (end_tick : Tick)
    (tick_duration : Duration)
    (fits : sender.Fits (end_tick.toNat + 1)) (below : end_tick.toNat + 1 < 2 ^ 32)
    (requested : (end_tick.sub num_ticks).add_signed 1 ≤ end_tick)
    (inside : ∀ start_tick ∈ sender.start_tick, start_tick ≤ end_tick) :
    Arrives native sender num_ticks end_tick tick_duration fun tick received => received = sender.get tick := by
  intro rounds _
  refine ⟨_,rfl,fun isNone tick _ _ => ?_,fun sequence isBuilt tick delta covers => ?_⟩
  · cases started : sender.start_tick with
    | none => exact get_of_unset started tick
    | some start =>
      obtain ⟨sequence,-,-,built,-⟩ :=
        snapshots_of_built sender num_ticks started fits below requested (inside start started)
      exact nomatch built.symm.trans isNone
  · obtain ⟨exist,short,states⟩ := built_states fits below requested inside isBuilt tick_duration
    rw [get_received native sequence tick_duration below exist short covers]
    exact (states tick delta covers).2

end NativeStateSequence

/-- The loops of the other two backends: there is nothing to send, or they visit the ticks from the first input on. -/
private theorem loops_return (sender : InputBuffer S) {end_tick : Tick} (below : end_tick.toNat + 1 < 2 ^ 32)
    {rounds : Nat}
    (enough : end_tick.toNat + 1 < rounds) (first : Tick) :
    (∃ found, first_buffered sender end_tick rounds first = some found ∧ end_tick < found ∧
      ∀ tick, first ≤ tick → tick ≤ end_tick → sender.get tick = none) ∨
    ∃ start input, first_buffered sender end_tick rounds first = some start ∧ start ≤ end_tick ∧
      sender.get start = some input ∧
      ticks_to end_tick rounds (start.add_signed 1) =
        some ((List.range' (start.toNat + 1) (end_tick.toNat - start.toNat)).map tick_of) := by
  obtain ⟨found,returned,isFound,absent⟩ :=
    first_buffered_returns sender below (show end_tick.toNat + 1 - first.toNat < rounds by omega)
  rcases lt_or_ge end_tick found with after | before
  · exact .inl ⟨found,returned,after,fun tick atLeast inside => absent tick atLeast (inside.trans_lt after) inside⟩
  · obtain ⟨input,present⟩ := Option.isSome_iff_exists.mp (isFound before)
    rw [Tick.le_iff] at before
    have next : (found.add_signed 1).toNat = found.toNat + 1 := by
      rw [Tick.toNat_add_signed]
      omega
    refine .inr ⟨found,input,returned,before,present,?_⟩
    rw [ticks_to_returns below (by omega),next]
    congr 3
    omega

private theorem value_at_inputs (snapshots : List S) (index : Nat) :
    value_at (snapshots.map .Input) index = snapshots[index]? := by
  rw [value_at_of_raw,List.getElem?_map]
  cases snapshots[index]? <;> rfl

private theorem tick_of_self (tick : Tick) : tick_of tick.toNat = tick := by
  rw [tick_of,BitVec.ofNat_toNat,BitVec.setWidth_eq]

private theorem start_of_get {sender : InputBuffer S} {tick : Tick} {input : S}
    (present : sender.get tick = some input) :
    ∃ start, sender.start_tick = some start ∧ start ≤ tick := by
  cases started : sender.start_tick with
  | none => rw [get_of_unset started] at present; exact nomatch present
  | some start =>
    refine ⟨start,rfl,not_lt.mp fun before => ?_⟩
    rw [get_of_before started before] at present
    exact nomatch present

section
open Leafwing
variable {A V State : Type} [DecidableEq V] [DecidableEq State] {states : ActionStates A V State}
  {kind : A → InputControlKind}

/-- A leafwing message brings a state for each of its ticks. Of an action that is never disabled the receiver reads what
the sender does, at the ticks at which the sender has a state. -/
theorem leafwing_arrives (lawful : states.Lawful kind) (sender : InputBuffer State) (num_ticks : Nat) (end_tick : Tick)
    (tick_duration : Duration) (fits : sender.Fits (end_tick.toNat + 1)) (below : end_tick.toNat + 1 < 2 ^ 32) :
    Arrives (leafwing states) sender num_ticks end_tick tick_duration fun tick received =>
      ∃ got, received = some got ∧ ∀ state, sender.get tick = some state → ∀ action,
        (∀ tick state data, sender.get tick = some state → states.action_data state action = some data →
          data.disabled = false) →
        Agrees states state got action := by
  intro rounds enough
  rcases loops_return sender below enough ((end_tick.sub num_ticks).add_signed 1) with
    ⟨found,returned,after,absent⟩ | ⟨start,input,returned,inside,present,ticks⟩
  · refine ⟨none,?_,fun _ => absent,fun _ isBuilt => nomatch isBuilt⟩
    simp only [leafwing,LeafwingSequence.build_from_input_buffer,returned,Option.bind_eq_bind,Option.bind_some,
      if_pos after]
    rfl
  · let diff (number : Nat) := ActionDiff.create states ((sender.get ((tick_of number).sub 1)).getD states.default)
      ((sender.get (tick_of number)).getD states.default)
    let sequence : LeafwingSequence A V State :=
      ⟨input,(List.range' (start.toNat + 1) (end_tick.toNat - start.toNat)).map diff⟩
    have built : (leafwing states).build_from_input_buffer rounds sender num_ticks end_tick = some (some sequence) := by
      simp only [leafwing,LeafwingSequence.build_from_input_buffer,returned,Option.bind_eq_bind,Option.bind_some,
        if_neg inside.not_gt,present,ticks,List.map_map]
      rfl
    refine ⟨_,built,fun isNone => (nomatch isNone),fun sequence' isBuilt tick delta covers => ?_⟩
    obtain rfl : sequence = sequence' := Option.some.inj isBuilt
    obtain ⟨begin,started,notBefore⟩ := start_of_get present
    have near := (fits.room begin started).2.2.2
    have length : (leafwing states).len sequence = end_tick.toNat - start.toNat + 1 := by
      simp [leafwing,LeafwingSequence.len,sequence]
    rw [Tick.le_iff] at inside notBefore
    obtain ⟨within,place⟩ := covers
    rw [length] at within place
    have isTick : tick_of (start.toNat + delta) = tick := by
      rw [← tick_of_self tick]
      congr 1
      omega
    have agrees (action : A) (enabled : ∀ tick state data, sender.get tick = some state →
        states.action_data state action = some data → data.disabled = false) (delta : Nat)
        (within : start.toNat + delta ≤ end_tick.toNat) :
        Agrees states ((sender.get (tick_of (start.toNat + delta))).getD states.default)
          (((List.range' (start.toNat + 1) delta).map diff).foldl (LeafwingSequence.advance states tick_duration) input)
            action := by
      induction delta with
      | zero =>
        rw [Nat.add_zero,tick_of_self,present]
        exact agrees_self
      | succ delta ih =>
        have before : (tick_of (start.toNat + 1 + delta)).sub 1 = tick_of (start.toNat + delta) := by
          refine BitVec.eq_of_toNat_eq ?_
          rw [Tick.toNat_sub,toNat_tick_of (by omega),toNat_tick_of (by omega)]
          omega
        have step : diff (start.toNat + 1 + delta) = ActionDiff.create states
            ((sender.get (tick_of (start.toNat + delta))).getD states.default)
            ((sender.get (tick_of (start.toNat + 1 + delta))).getD states.default) := by
          rw [← before]
        rw [List.range'_1_concat,List.map_append,List.foldl_append,List.map_singleton,List.foldl_cons,List.foldl_nil,
          show start.toNat + (delta + 1) = start.toNat + 1 + delta by omega,step]
        refine advance_agrees lawful (ih (by omega)) (fun data isData => ?_) tick_duration
        cases isState : sender.get (tick_of (start.toNat + 1 + delta)) with
        | none =>
          rw [isState,Option.getD_none,lawful.default_empty] at isData
          exact nomatch isData
        | some state =>
          rw [isState,Option.getD_some] at isData
          exact enabled _ state data isState isData
    have reads : (update_buffer (leafwing states) sequence .default end_tick tick_duration).2.get tick =
        some (((List.range' (start.toNat + 1) delta).map diff).foldl (LeafwingSequence.advance states tick_duration)
          input) := by
      rw [get_received (leafwing states) sequence tick_duration below (by omega) (by omega)
        ⟨length.symm ▸ within,length.symm ▸ place⟩]
      refine (value_at_inputs (sequence.diffs.scanl _ input) delta).trans ?_
      rw [List.getElem?_scanl,if_pos (by simp [sequence]; omega)]
      simp only [sequence]
      rw [← List.map_take,List.take_range'_of_length_ge (by omega)]
    refine ⟨_,reads,fun state isState action enabled => ?_⟩
    have atTick := agrees action enabled delta (by omega)
    rwa [isTick,isState,Option.getD_some] at atTick

end
section
open Bei
variable {Trigger Value Time Events : Type} [DecidableEq Trigger] [DecidableEq Value] [DecidableEq Time]
  [DecidableEq Events]

/-- A BEI message brings the states and values of the sender, except for markers that stand for no input. -/
theorem bei_arrives (types : ActionTypes Trigger Time Events)
    (sender : InputBuffer (ActionsSnapshot Trigger Value Time Events)) (num_ticks : Nat) (end_tick : Tick)
    (tick_duration : Duration) (fits : sender.Fits (end_tick.toNat + 1)) (below : end_tick.toNat + 1 < 2 ^ 32) :
    Arrives (bei types) sender num_ticks end_tick tick_duration fun tick received =>
      (sender.get_raw tick = .SameAsPrecedent → sender.get tick ≠ none) →
        received.map (·.sent) = (sender.get tick).map (·.sent) := by
  intro rounds enough
  rcases loops_return sender below enough ((end_tick.sub num_ticks).add_signed 1) with
    ⟨found,returned,after,absent⟩ | ⟨start,input,returned,inside,present,ticks⟩
  · refine ⟨none,?_,fun _ => absent,fun _ isBuilt => nomatch isBuilt⟩
    simp only [bei,BEIStateSequence.build_from_input_buffer,returned,Option.bind_eq_bind,Option.bind_some,if_pos after]
    rfl
  · let entries := ((List.range' (start.toNat + 1) (end_tick.toNat - start.toNat)).map tick_of).map sender.get_raw
    let sequence : BEIStateSequence Trigger Value Time Events := ⟨input,encode input.sent entries⟩
    have built : (bei types).build_from_input_buffer rounds sender num_ticks end_tick = some (some sequence) := by
      simp only [bei,BEIStateSequence.build_from_input_buffer,returned,Option.bind_eq_bind,Option.bind_some,
        if_neg inside.not_gt,present,ticks]
      rfl
    refine ⟨_,built,fun isNone => (nomatch isNone),fun sequence' isBuilt tick delta covers real => ?_⟩
    obtain rfl : sequence = sequence' := Option.some.inj isBuilt
    obtain ⟨begin,started,notBefore⟩ := start_of_get present
    have near := (fits.room begin started).2.2.2
    have wide : entries.length = end_tick.toNat - start.toNat := by simp [entries]
    have length : (bei types).len sequence = end_tick.toNat - start.toNat + 1 := by
      simp [bei,BEIStateSequence.len,sequence,length_encode,wide]
    rw [Tick.le_iff] at inside notBefore
    obtain ⟨within,place⟩ := covers
    rw [length] at within place
    rw [get_received (bei types) sequence tick_duration below (by omega) (by omega)
      ⟨length.symm ▸ within,length.symm ▸ place⟩]
    change (value_at (.Input input :: scan types tick_duration input (encode input.sent entries)) delta).map _ = _
    cases delta with
    | zero =>
      have atStart : start = tick := BitVec.eq_of_toNat_eq (by omega)
      rw [← atStart,present]
      rfl
    | succ delta =>
      have isTick : tick_of (start.toNat + (delta + 1)) = tick := by
        rw [← tick_of_self tick]
        congr 1
        omega
      have stored : entries[delta]? = some (sender.get_raw tick) := by
        simp only [entries,List.getElem?_map]
        rw [List.getElem?_range' (by omega),← isTick]
        simp only [Option.map_some]
        congr 3
        omega
      rw [value_at_of_raw,List.getElem?_cons_succ]
      by_cases absent : sender.get_raw tick = .Absent
      · have previous : tick.toNat = (tick_of (start.toNat + delta)).toNat + 1 := by
          rw [toNat_tick_of (by omega)]
          omega
        rw [(scan_encode types tick_duration input stored).1 absent,get_next previous,absent]
        rfl
      · obtain ⟨snapshot,isSnapshot,sent⟩ := (scan_encode types tick_duration input stored).2 absent
        have previous : tick.toNat = (tick_of (start.toNat + delta)).toNat + 1 := by
          rw [toNat_tick_of (by omega)]
          omega
        obtain ⟨there,isThere⟩ : ∃ there, sender.get tick = some there := by
          rw [← Option.ne_none_iff_exists']
          cases raw : sender.get_raw tick with
          | Absent => exact absurd raw absent
          | SameAsPrecedent => exact real raw
          | Input value => rw [get_next previous,raw]; exact Option.some_ne_none value
        have taken : entries.take (delta + 1) =
            (List.range (delta + 1)).map fun index => sender.get_raw (tick_of (start.toNat + (index + 1))) := by
          simp only [entries,← List.map_take]
          rw [List.take_range'_of_length_ge (by omega),List.range'_eq_map_range,List.map_map,List.map_map]
          exact List.map_congr_left fun index _ => by simp only [Function.comp_apply,Nat.add_assoc,Nat.add_comm 1 index]
        have reached : current input.sent (entries.take (delta + 1)) = there.sent := by
          rw [taken]
          refine current_of_get (fun index => tick_of (start.toNat + index)) (fun index before => ?_) ?_ ?_
          · rw [toNat_tick_of (by omega),toNat_tick_of (by omega)]
            omega
          · rw [Nat.add_zero,tick_of_self,present]
          · rw [isTick,isThere]
        rw [isSnapshot,isThere,Option.getD_some,keep,Option.map_some,Option.map_some,sent,reached]

end
section
open Leafwing Bei

/-- From each backend a message arrives in an empty buffer: native inputs as they are, the states of the leafwing
backend up to what is read of actions that are never disabled, and the snapshots of the BEI backend up to their
events and times. -/
theorem messages_arrive (num_ticks : Nat) (end_tick : Tick) (tick_duration : Duration)
    (below : end_tick.toNat + 1 < 2 ^ 32) :
    (∀ (A : Type) [DecidableEq A] (sender : InputBuffer (ActionState A)), sender.Fits (end_tick.toNat + 1) →
      (end_tick.sub num_ticks).add_signed 1 ≤ end_tick → (∀ start_tick ∈ sender.start_tick, start_tick ≤ end_tick) →
      Arrives NativeStateSequence.native sender num_ticks end_tick tick_duration fun tick received =>
        received = sender.get tick) ∧
    (∀ (A V State : Type) [DecidableEq V] [DecidableEq State] (states : ActionStates A V State)
      (kind : A → InputControlKind)
      (sender : InputBuffer State), states.Lawful kind → sender.Fits (end_tick.toNat + 1) →
      Arrives (leafwing states) sender num_ticks end_tick tick_duration fun tick received =>
        ∃ got, received = some got ∧ ∀ state, sender.get tick = some state → ∀ action,
          (∀ tick state data, sender.get tick = some state → states.action_data state action = some data →
            data.disabled = false) → Agrees states state got action) ∧
    ∀ (Trigger Value Time Events : Type) [DecidableEq Trigger] [DecidableEq Value] [DecidableEq Time]
      [DecidableEq Events]
      (types : ActionTypes Trigger Time Events) (sender : InputBuffer (ActionsSnapshot Trigger Value Time Events)),
      sender.Fits (end_tick.toNat + 1) →
      Arrives (bei types) sender num_ticks end_tick tick_duration fun tick received =>
        (sender.get_raw tick = .SameAsPrecedent → sender.get tick ≠ none) →
          received.map (·.sent) = (sender.get tick).map (·.sent) :=
  ⟨fun _ _ sender fits requested inside =>
      NativeStateSequence.native_arrives sender num_ticks end_tick tick_duration fits below requested inside,
    fun _ _ _ _ _ _ _ sender lawful fits => leafwing_arrives lawful sender num_ticks end_tick tick_duration fits below,
    fun _ _ _ _ _ _ _ _ types sender fits => bei_arrives types sender num_ticks end_tick tick_duration fits below⟩

/-- States of one button, which may be without an entry. -/
private def button : ActionStates Unit Nat (Option Bool) where
  default := none
  all_action_data state := (state.map fun pressed => ((),⟨false,.Button pressed⟩)).toList
  action_data state _ := state.map fun pressed => ⟨false,.Button pressed⟩
  tick _ state := state
  press _ _ := some true
  release _ _ := some false
  set_value _ _ state := state
  set_axis_pair _ _ state := state
  set_axis_triple _ _ state := state
  set_update_state_from_state state := state
  set_fixed_update_state_from_state state := state

private theorem button_lawful : button.Lawful fun _ => .Button where
  entries state action data := by cases state <;> simp [button,eq_comm]
  once state := by cases state <;> simp [button]
  default_empty _ := rfl
  kinds state action data isData := by
    obtain ⟨pressed,-,rfl⟩ := Option.map_eq_some_iff.mp isData
    rfl
  applied state diff isKind := by cases diff <;> first | rfl | exact nomatch isKind
  others state diff action other := absurd rfl other
  ticked _ _ _ := rfl
  updated _ _ := rfl
  fixed_updated _ _ := rfl

/-- Types of which the times count the ticks. -/
private def ticking : ActionTypes Bool Nat (Bool × Bool) := ⟨Prod.mk,fun tick_duration _ time => time + tick_duration⟩

/-- Senders with inputs for the ticks 10 and 11. -/
private def two {S : Type} (first second : Compressed S) : InputBuffer S := ⟨some 10,[first,second],none⟩

private def two_snapshots : InputBuffer (ActionsSnapshot Bool Nat Nat (Bool × Bool)) :=
  two (.Input ⟨false,0,0,(false,false)⟩) (.Input ⟨true,1,5,(false,true)⟩)

private theorem fits_two {S : Type} (first second : Compressed S) : (two first second).Fits 12 := by
  refine ⟨fun unset => (nomatch unset),fun start isStart => ?_⟩
  obtain rfl : (10 : Tick) = start := Option.some.inj isStart
  change 0 < 10 + 2 ∧ 10 + 2 ≤ 2 ^ 32 ∧ 2 < 2 ^ 31 ∧ 12 < 10 + 2 ^ 31
  decide

/-- Two ticks of each backend. -/
theorem messages_arrive_two :
    Arrives NativeStateSequence.native (two (.Input (ActionState.mk 1)) .SameAsPrecedent) 2 11 1 (fun tick received =>
        received = (two (.Input ⟨1⟩) .SameAsPrecedent).get tick) ∧
      Arrives (leafwing button) (two (.Input (some true)) (.Input none)) 2 11 1 (fun tick received =>
        ∃ got, received = some got ∧ ∀ state, (two (.Input (some true)) (.Input none)).get tick = some state → ∀ action,
          (∀ tick state data, (two (.Input (some true)) (.Input none)).get tick = some state →
            button.action_data state action = some data → data.disabled = false) → Agrees button state got action) ∧
      Arrives (bei ticking) two_snapshots 2 11 1 (fun tick received =>
        (two_snapshots.get_raw tick = .SameAsPrecedent → two_snapshots.get tick ≠ none) →
          received.map (·.sent) = (two_snapshots.get tick).map (·.sent)) := by
  obtain ⟨isNative,isLeafwing,isBei⟩ := messages_arrive 2 11 1 (by decide)
  refine ⟨isNative Nat _ (fits_two ..) (by decide) fun start isStart => ?_,
    isLeafwing _ _ _ button _ _ button_lawful (fits_two ..),isBei _ _ _ _ ticking _ (fits_two ..)⟩
  obtain rfl : (10 : Tick) = start := Option.some.inj isStart
  decide

/-- The sender's time of tick 11 is 5, and the receiver counts to 1. -/
theorem times_counted_again :
    ¬ ∀ (Trigger Value Time Events : Type) [DecidableEq Trigger] [DecidableEq Value] [DecidableEq Time]
      [DecidableEq Events]
      (types : ActionTypes Trigger Time Events) (sender : InputBuffer (ActionsSnapshot Trigger Value Time Events))
      (num_ticks : Nat) (end_tick : Tick) (tick_duration : Duration), end_tick.toNat + 1 < 2 ^ 32 →
      sender.Fits (end_tick.toNat + 1) →
      Arrives (bei types) sender num_ticks end_tick tick_duration fun tick received => received = sender.get tick := by
  intro arrives
  obtain ⟨built,isBuilt,-,reads⟩ :=
    arrives Bool Nat Nat (Bool × Bool) ticking two_snapshots 2 11 1 (by decide) (fits_two ..) 13 (by decide)
  obtain rfl : some ⟨⟨false,0,0,(false,false)⟩,[.Input ⟨true,1⟩]⟩ = built := Option.some.inj isBuilt
  exact absurd (reads _ rfl 11 1 (by decide)) (by decide)

end
end Lightyear.Inputs
