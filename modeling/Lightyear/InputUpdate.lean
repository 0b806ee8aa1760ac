import Lightyear.InputMessage

/-!
What an update does to a buffer, snapshot by snapshot: nothing while the message says
what is there or was received, and from the first tick that it writes on the buffer
reads as the message does.
-/
namespace Lightyear.Inputs
open Message InputBuffer

variable {S : Type}

section
variable (decay_tick : S → S) (input_buffer : InputBuffer S) (start_tick : Tick)

/-- The input that a number of snapshots leave predicted: that of the last tick received from the remote, or of the last
tick that is in the buffer, decayed once for every tick since. -/
def prediction : Nat → Option S
  | 0 => input_buffer.last_remote_tick.bind input_buffer.get
  | delta + 1 =>
    if input_buffer.end_tick.any (message_tick start_tick delta ≤ ·) then input_buffer.get
      (message_tick start_tick delta)
    else (prediction delta).map decay_tick

/-- A tick was not yet received. -/
def Newer (tick : Tick) : Prop := ∀ last_remote_tick ∈ input_buffer.last_remote_tick, last_remote_tick < tick

/-- A tick is after the end of the buffer. -/
def Beyond (tick : Tick) : Prop := ∀ end_tick ∈ input_buffer.end_tick, end_tick < tick

/-- A buffer that reads `input_buffer`, with its prediction, before the snapshot `first`, and the message from there. -/
structure Written (snapshots : List (Compressed S)) (first : Nat) (written : InputBuffer S) : Prop where
  inside : first < snapshots.length
  newer : Newer input_buffer (message_tick start_tick first)
  entries : ∃ start_tick',written.start_tick = some start_tick' ∧ start_tick' ≤ message_tick start_tick first ∧
    (input_buffer.start_tick = some start_tick' ∨ input_buffer.start_tick = none ∧
      start_tick' = message_tick start_tick first) ∧
    start_tick'.toNat + written.buffer.length = start_tick.toNat + snapshots.length ∧
    ∀ tick, start_tick' ≤ tick → tick.toNat < start_tick.toNat + snapshots.length →
      value_at written.buffer (tick.toNat - start_tick'.toNat) =
        if tick < message_tick start_tick first then input_buffer.get_predict tick
        else value_at snapshots (tick.toNat - start_tick.toNat)

variable {decay_tick input_buffer start_tick}
variable {snapshots : List (Compressed S)} {limit first : Nat} {written : InputBuffer S}

theorem message_tick_toNat (start_tick : Tick) (delta : Nat) (room : start_tick.toNat + delta < 2 ^ 32) :
    (message_tick start_tick delta).toNat = start_tick.toNat + delta := by
  rw [message_tick,Tick.toNat_add]
  omega

theorem Written.fits (self : Written input_buffer start_tick snapshots first written)
    (fits : input_buffer.Fits limit) (room : start_tick.toNat + snapshots.length ≤ limit) (small : limit ≤ 2 ^ 32)
    (short : limit < start_tick.toNat + 2 ^ 31) : written.Fits limit := by
  obtain ⟨start_tick',started,atFirst,origin,length,-⟩ := self.entries
  have inside := self.inside
  have place := message_tick_toNat start_tick first (by omega)
  rw [Tick.le_iff] at atFirst
  have near : limit < start_tick'.toNat + 2 ^ 31 := by
    rcases origin with origin | ⟨-,rfl⟩
    · exact (fits.room start_tick' origin).2.2.2
    · omega
  refine ⟨fun unset => by simp [started] at unset,fun tick isStart => ?_⟩
  obtain rfl : start_tick' = tick := Option.some.inj (started.symm.trans isStart)
  omega

private theorem Written.held_eq (self : Written input_buffer start_tick snapshots first written)
    (room : start_tick.toNat + snapshots.length ≤ 2 ^ 32) : held written.buffer = held snapshots := by
  obtain ⟨start_tick',-,atFirst,-,length,reads⟩ := self.entries
  have inside := self.inside
  have place := message_tick_toNat start_tick first (by omega)
  have last := message_tick_toNat start_tick (snapshots.length - 1) (by omega)
  have read := reads (message_tick start_tick (snapshots.length - 1))
    (by rw [Tick.le_iff] at atFirst ⊢; omega) (by omega)
  rw [if_neg (by rw [Tick.lt_iff]; omega),last] at read
  rw [held_eq_value_at,held_eq_value_at snapshots]
  convert read using 2 <;> omega

/-- One more snapshot, after one was written. -/
private theorem Written.append (self : Written input_buffer start_tick snapshots first written)
    (room : start_tick.toNat + snapshots.length < 2 ^ 32) {input entry : Compressed S}
    (same : keep (held snapshots) entry = keep (held snapshots) input) :
    Written input_buffer start_tick (snapshots ++ [input]) first
      {written with buffer := written.buffer ++ [entry]} := by
  have heldSame := self.held_eq room.le
  obtain ⟨start_tick',started,atFirst,origin,length,reads⟩ := self.entries
  have inside := self.inside
  refine ⟨by simp; omega,self.newer,start_tick',started,atFirst,origin,by simp; omega,fun tick after before => ?_⟩
  have place := message_tick_toNat start_tick first (by omega)
  rw [Tick.le_iff] at after atFirst
  simp only [List.length_append,List.length_singleton] at before
  rw [value_at_append,value_at_append]
  by_cases last : tick.toNat = start_tick.toNat + snapshots.length
  · rw [if_pos (by omega),if_neg (by rw [Tick.lt_iff]; omega),if_pos (by omega),heldSame,same]
  · rw [if_neg (by omega),reads tick after (by omega)]
    by_cases early : tick < message_tick start_tick first
    · rw [if_pos early,if_pos early]
    · rw [Tick.lt_iff] at early
      rw [if_neg (by rwa [Tick.lt_iff]),if_neg (by rwa [Tick.lt_iff]),if_neg (by omega)]

/-- The buffer after its first write, at the tick of the last snapshot. -/
private def first_write (input_buffer : InputBuffer S) (tick : Tick) (value : Compressed S) : InputBuffer S :=
  match input_buffer.start_tick with
  | none => {input_buffer with start_tick := some tick,buffer := [value]}
  | some start_tick => {input_buffer with buffer := upto input_buffer.buffer (tick.toNat - start_tick.toNat) ++ [value]}

private theorem written_first (fits : input_buffer.Fits limit) (room : start_tick.toNat + snapshots.length < limit)
    (small : limit ≤ 2 ^ 32) (newer : Newer input_buffer (message_tick start_tick snapshots.length))
    (inside : ∀ start_tick' ∈ input_buffer.start_tick, start_tick' ≤ message_tick start_tick snapshots.length)
    (input : Compressed S) :
    Written input_buffer start_tick (snapshots ++ [input]) snapshots.length
      (first_write input_buffer (message_tick start_tick snapshots.length)
        (.from_option (held (snapshots ++ [input])))) := by
  have place := message_tick_toNat _ _ (room.trans_le small)
  refine ⟨by simp,newer,?_⟩
  · have read : ∀ tick : Tick, tick.toNat = start_tick.toNat + snapshots.length →
        value_at (snapshots ++ [input]) (tick.toNat - start_tick.toNat) = held (snapshots ++ [input]) := by
      intro tick last
      rw [last,Nat.add_sub_cancel_left,value_at_append,if_pos rfl,held_append]
    cases started : input_buffer.start_tick with
    | none =>
      refine ⟨_,by simp only [first_write,started],le_rfl,.inr ⟨rfl,rfl⟩,
        by simp [first_write,started,place,Nat.add_assoc],fun tick after before => ?_⟩
      rw [Tick.le_iff] at after
      simp only [List.length_append,List.length_singleton] at before
      rw [if_neg (by rw [Tick.lt_iff]; omega),read tick (by omega),show tick.toNat -
        (message_tick start_tick snapshots.length).toNat = 0 by omega]
      simp only [first_write,started]
      exact (value_at_append [] _ 0).trans ((if_pos rfl).trans (keep_from_option _ _))
    | some start_tick' =>
      have atFirst := inside start_tick' started
      refine ⟨start_tick',by simp only [first_write,started],atFirst,.inl rfl,?_,fun tick after before => ?_⟩
      all_goals rw [Tick.le_iff] at atFirst
      · simp [first_write,started]
        omega
      · rw [Tick.le_iff] at after
        simp only [List.length_append,List.length_singleton] at before
        simp only [first_write,started]
        rw [value_at_append,length_upto]
        by_cases last : tick.toNat = start_tick.toNat + snapshots.length
        · rw [if_pos (by omega),if_neg (by rw [Tick.lt_iff]; omega),read tick last,keep_from_option]
        · rw [if_neg (by omega),if_pos (by rw [Tick.lt_iff]; omega),value_at_upto _ (by omega),
            get_predict_eq fits started,if_neg (show ¬tick.toNat < start_tick'.toNat by omega)]
          exact if_congr (by omega) rfl rfl

end

section
variable [DecidableEq S] (decay_tick : S → S) (input_buffer : InputBuffer S) (start_tick : Tick)

/-- The state after the snapshots of a message that starts at `start_tick`. -/
def run (snapshots : List (Compressed S)) : UpdateState S :=
  snapshots.zipIdx.foldl (update_step decay_tick input_buffer.last_remote_tick input_buffer.end_tick start_tick)
    ⟨input_buffer,input_buffer.last_remote_tick.bind input_buffer.get,none,none⟩

theorem run_append (snapshots : List (Compressed S)) (input : Compressed S) :
    run decay_tick input_buffer start_tick (snapshots ++ [input]) =
      update_step decay_tick input_buffer.last_remote_tick input_buffer.end_tick start_tick
        (run decay_tick input_buffer start_tick snapshots) (input,snapshots.length) := by
  simp [run,List.zipIdx_append]

theorem update_buffer_eq {Seq : Type} (backend : ActionStateSequence Seq S) (self : Seq) (end_tick : Tick)
    (tick_duration : Duration) :
    let state := run (backend.decay_tick · tick_duration) input_buffer (message_start end_tick (backend.len self))
      (backend.get_snapshots_from_message self tick_duration)
    update_buffer backend self input_buffer end_tick tick_duration =
      (state.earliest_mismatch,{state.input_buffer with last_remote_tick := some end_tick}) := rfl

/-- The first snapshots that were not received before say what was predicted. -/
def Predicted (snapshots : List (Compressed S)) (count : Nat) : Prop :=
  ∀ delta < count, Newer input_buffer (message_tick start_tick delta) →
    prediction decay_tick input_buffer start_tick (delta + 1) = value_at snapshots delta

/-- The first snapshot that was not received before and does not say what was predicted. -/
def FirstMismatch (snapshots : List (Compressed S)) (delta : Nat) : Prop :=
  Newer input_buffer (message_tick start_tick delta) ∧
    prediction decay_tick input_buffer start_tick (delta + 1) ≠ value_at snapshots delta ∧
    Predicted decay_tick input_buffer start_tick snapshots delta

/-- The first snapshots were received before or are for ticks in the buffer. -/
def Covered (count : Nat) : Prop :=
  ∀ delta < count, Newer input_buffer (message_tick start_tick delta) →
    ¬Beyond input_buffer (message_tick start_tick delta)

/-- Where an update can be after some snapshots. It is lost if the first mismatch is before the start of the buffer. -/
private inductive Progress (snapshots : List (Compressed S)) : UpdateState S → Prop
  | untouched : Covered input_buffer start_tick snapshots.length →
      Predicted decay_tick input_buffer start_tick snapshots snapshots.length →
      Progress snapshots ⟨input_buffer,prediction decay_tick input_buffer start_tick snapshots.length,none,
        held snapshots⟩
  | extended (first : Nat) (written : InputBuffer S) : Written input_buffer start_tick snapshots first written →
      Beyond input_buffer (message_tick start_tick first) → Covered input_buffer start_tick first →
      Predicted decay_tick input_buffer start_tick snapshots snapshots.length →
      Progress snapshots ⟨written,prediction decay_tick input_buffer start_tick snapshots.length,none,held snapshots⟩
  | rewritten (first mismatch : Nat) (written : InputBuffer S) (predicted latest : Option S) :
      Written input_buffer start_tick snapshots first written → first ≤ mismatch → mismatch < snapshots.length →
      Covered input_buffer start_tick first → FirstMismatch decay_tick input_buffer start_tick snapshots mismatch →
      Progress snapshots ⟨written,predicted,some (message_tick start_tick mismatch),latest⟩
  | lost (mismatch : Nat) (start_tick' : Tick) (rest : InputBuffer S) (predicted latest : Option S) :
      input_buffer.start_tick = some start_tick' → message_tick start_tick mismatch < start_tick' →
      mismatch < snapshots.length → FirstMismatch decay_tick input_buffer start_tick snapshots mismatch →
      (rest.start_tick = none → rest.buffer = []) →
      (∀ start ∈ rest.start_tick, message_tick start_tick mismatch < start ∧
        start.toNat + rest.buffer.length = start_tick.toNat + snapshots.length) →
      Progress snapshots ⟨rest,predicted,some (message_tick start_tick mismatch),latest⟩

variable {decay_tick input_buffer start_tick}
variable {snapshots : List (Compressed S)} {limit : Nat} {state : UpdateState S}

omit [DecidableEq S] in
theorem newer_iff (tick : Tick) : input_buffer.last_remote_tick.all (· < tick) ↔ Newer input_buffer tick := by
  unfold Newer
  cases input_buffer.last_remote_tick <;> simp

omit [DecidableEq S] in
theorem beyond_iff (tick : Tick) : input_buffer.end_tick.all (· < tick) ↔ Beyond input_buffer tick := by
  unfold Beyond
  cases input_buffer.end_tick <;> simp

omit [DecidableEq S] in
theorem not_beyond_iff (tick : Tick) : input_buffer.end_tick.any (tick ≤ ·) ↔ ¬Beyond input_buffer tick := by
  unfold Beyond
  cases input_buffer.end_tick <;> simp

omit [DecidableEq S] in
private theorem Predicted.append {count : Nat} (self : Predicted decay_tick input_buffer start_tick snapshots count)
    (inside : count ≤ snapshots.length) (input : Compressed S) :
    Predicted decay_tick input_buffer start_tick (snapshots ++ [input]) count := by
  intro delta before newer
  rw [self delta before newer,value_at_append,if_neg (by omega)]

omit [DecidableEq S] in
private theorem FirstMismatch.append {delta : Nat}
    (self : FirstMismatch decay_tick input_buffer start_tick snapshots delta)
    (inside : delta < snapshots.length) (input : Compressed S) :
    FirstMismatch decay_tick input_buffer start_tick (snapshots ++ [input]) delta := by
  refine ⟨self.1,?_,self.2.2.append inside.le input⟩
  rw [value_at_append,if_neg inside.ne]
  exact self.2.1

omit [DecidableEq S] in
theorem beyond_start (fits : input_buffer.Fits limit) {start : Tick} (started : input_buffer.start_tick = some start)
    (tick : Tick) : Beyond input_buffer tick ↔ start.toNat + input_buffer.buffer.length ≤ tick.toNat := by
  obtain ⟨positive,inRange,short,-⟩ := fits.room start started
  simp only [Beyond,end_tick,started,Option.map_some,Option.mem_some_iff,forall_eq',Tick.lt_iff,
    last_tick_toNat positive inRange short]
  omega

omit [DecidableEq S] in
theorem get_predict_inside (fits : input_buffer.Fits limit) {tick : Tick} (inside : ¬Beyond input_buffer tick) :
    input_buffer.get_predict tick = input_buffer.get tick := by
  cases started : input_buffer.start_tick with
  | none => exact absurd (fun last isLast => by simp [end_tick,started] at isLast) inside
  | some start =>
    rw [beyond_start fits started] at inside
    rw [get_predict_eq fits started,get_eq fits started]
    exact if_congr Iff.rfl rfl (if_pos (by omega))

omit [DecidableEq S] in
theorem get_beyond (fits : input_buffer.Fits limit) {tick : Tick} (beyond : Beyond input_buffer tick) :
    input_buffer.get tick = none := by
  cases started : input_buffer.start_tick with
  | none => exact get_of_unset started tick
  | some start =>
    rw [beyond_start fits started] at beyond
    rw [get_eq fits started,value_at,if_neg (show ¬tick.toNat - start.toNat < input_buffer.buffer.length by omega),
      ite_self]

omit [DecidableEq S] in
theorem get_predict_beyond (fits : input_buffer.Fits limit) {tick : Tick} (beyond : Beyond input_buffer tick) :
    input_buffer.get_predict tick = input_buffer.get_last := by
  cases started : input_buffer.start_tick with
  | none => simp [get_predict,get_last,started]
  | some start =>
    rw [beyond_start fits started] at beyond
    rw [get_predict_eq fits started,get_last_eq fits started,if_neg (by omega),if_neg (by omega)]

omit [DecidableEq S] in
private theorem set_raw_first (fits : input_buffer.Fits limit) {tick : Tick} (below : tick.toNat < limit)
    (beyond : Beyond input_buffer tick) (value : Compressed S) :
    input_buffer.set_raw tick value = first_write input_buffer tick value := by
  cases started : input_buffer.start_tick with
  | none => simp [set_raw_of_unset started,first_write,started,fits.unset started]
  | some start =>
    rw [set_raw_after fits started ((beyond_start fits started tick).mp beyond) below]
    simp [first_write,started]

omit [DecidableEq S] in
private theorem clip_first (fits : input_buffer.Fits limit) {tick : Tick} (below : tick.toNat < limit)
    (inside : ∀ start ∈ input_buffer.start_tick, start ≤ tick) (value : Compressed S) :
    (input_buffer.set_raw tick value).clip_after tick = first_write input_buffer tick value := by
  cases started : input_buffer.start_tick with
  | none =>
    have last : last_tick tick 1 ≤ tick := by
      have := tick.isLt
      rw [Tick.le_iff,last_tick_toNat] <;> omega
    simp [set_raw_of_unset started,first_write,started,fits.unset started,clip_after,last]
  | some start =>
    rw [clip_set_raw fits started (inside start started) below]
    simp [first_write,started]

omit [DecidableEq S] in
/-- The tick after the last one is set at the end, and nothing is clipped. -/
private theorem Written.set_raw_next {first : Nat} {written : InputBuffer S}
    (self : Written input_buffer start_tick snapshots first written) (fits : input_buffer.Fits limit)
    (room : start_tick.toNat + snapshots.length < limit) (small : limit ≤ 2 ^ 32)
    (short : limit < start_tick.toNat + 2 ^ 31) (value : Compressed S) :
    let tick := message_tick start_tick snapshots.length
    written.set_raw tick value = {written with buffer := written.buffer ++ [value]} ∧
      (written.set_raw tick value).clip_after tick = {written with buffer := written.buffer ++ [value]} := by
  intro tick
  have place : tick.toNat = _ := message_tick_toNat _ _ (room.trans_le small)
  have next := self.fits fits room.le small short
  obtain ⟨start,started,-,-,wide,-⟩ := self.entries
  refine ⟨InputBuffer.set_raw_next next started (place.trans wide.symm) (place.trans_lt room) value,?_⟩
  rw [clip_set_raw next started (by rw [Tick.le_iff]; omega) (place.trans_lt room),place,← wide,Nat.add_sub_cancel_left,
    upto_length]

variable (decay_tick input_buffer start_tick) in
/-- What one snapshot can do as long as there is no mismatch. -/
theorem update_step_cases (state : UpdateState S) (input : Compressed S) (delta : Nat)
    (noMismatch : state.earliest_mismatch = none) :
    let tick := message_tick start_tick delta
    let predicted := if input_buffer.end_tick.any (tick ≤ ·) then state.input_buffer.get tick
      else state.previous_predicted_input.map decay_tick
    let received := keep state.latest_received_input input
    let next := update_step decay_tick input_buffer.last_remote_tick input_buffer.end_tick start_tick state
      (input,delta)
    next = ⟨state.input_buffer,predicted,none,received⟩ ∧
      (Newer input_buffer tick → predicted = received ∧ ¬Beyond input_buffer tick) ∨
    next = ⟨state.input_buffer.set_raw tick (.from_option received),predicted,none,received⟩ ∧
      Newer input_buffer tick ∧ predicted = received ∧ Beyond input_buffer tick ∨
    next = ⟨(state.input_buffer.set_raw tick (.from_option received)).clip_after tick,predicted,some tick,received⟩ ∧
      Newer input_buffer tick ∧ predicted ≠ received := by
  obtain ⟨written,previous,mismatch,latest⟩ := state
  obtain rfl : mismatch = none := noMismatch
  intro tick predicted received next
  have unfolded : next =
      if input_buffer.last_remote_tick.all (· < tick) then
        if predicted = received then
          if input_buffer.end_tick.all (· < tick) then
            ⟨written.set_raw tick (.from_option received),predicted,none,received⟩
          else ⟨written,predicted,none,received⟩
        else ⟨(written.set_raw tick (.from_option received)).clip_after tick,predicted,some tick,received⟩
      else ⟨written,predicted,none,received⟩ := rfl
  rw [unfolded]
  by_cases newer : Newer input_buffer tick
  · rw [if_pos ((newer_iff tick).mpr newer)]
    by_cases equal : predicted = received
    · rw [if_pos equal]
      by_cases beyond : Beyond input_buffer tick
      · rw [if_pos ((beyond_iff tick).mpr beyond)]
        exact .inr (.inl ⟨rfl,newer,equal,beyond⟩)
      · rw [if_neg (mt (beyond_iff tick).mp beyond)]
        exact .inl ⟨rfl,fun _ => ⟨equal,beyond⟩⟩
    · rw [if_neg equal]
      exact .inr (.inr ⟨rfl,newer,equal⟩)
  · rw [if_neg (mt (newer_iff tick).mp newer)]
    exact .inl ⟨rfl,fun isNewer => absurd isNewer newer⟩

variable (decay_tick) in
/-- The same with the prediction of the buffer before the update, which the buffer still has where it is not
extended. -/
private theorem update_step_predicted {written : InputBuffer S} {delta : Nat} (entry : Compressed S) (latest : Option S)
    (same : ¬Beyond input_buffer (message_tick start_tick delta) →
      written.get (message_tick start_tick delta) = input_buffer.get (message_tick start_tick delta)) :
    let tick := message_tick start_tick delta
    let predicted := prediction decay_tick input_buffer start_tick (delta + 1)
    let received := keep latest entry
    let next := update_step decay_tick input_buffer.last_remote_tick input_buffer.end_tick start_tick
      ⟨written,prediction decay_tick input_buffer start_tick delta,none,latest⟩ (entry,delta)
    next = ⟨written,predicted,none,received⟩ ∧
      (Newer input_buffer tick → predicted = received ∧ ¬Beyond input_buffer tick) ∨
    next = ⟨written.set_raw tick (.from_option received),predicted,none,received⟩ ∧
      Newer input_buffer tick ∧ predicted = received ∧ Beyond input_buffer tick ∨
    next = ⟨(written.set_raw tick (.from_option received)).clip_after tick,predicted,some tick,received⟩ ∧
      Newer input_buffer tick ∧ predicted ≠ received := by
  intro tick predicted received next
  have current : (if input_buffer.end_tick.any (tick ≤ ·) then written.get tick
      else (prediction decay_tick input_buffer start_tick delta).map decay_tick) = predicted := by
    by_cases beyond : Beyond input_buffer tick
    · rw [if_neg (mt (not_beyond_iff tick).mp (not_not_intro beyond))]
      exact (if_neg (mt (not_beyond_iff tick).mp (not_not_intro beyond))).symm
    · rw [same beyond]
      rfl
  rw [← current]
  exact update_step_cases decay_tick input_buffer start_tick _ entry delta rfl

omit [DecidableEq S] in
private theorem Predicted.snoc (self : Predicted decay_tick input_buffer start_tick snapshots snapshots.length)
    (input : Compressed S) (next : Newer input_buffer (message_tick start_tick snapshots.length) →
      prediction decay_tick input_buffer start_tick (snapshots.length + 1) = keep (held snapshots) input) :
    Predicted decay_tick input_buffer start_tick (snapshots ++ [input]) (snapshots ++ [input]).length := by
  intro delta before newer
  by_cases last : delta = snapshots.length
  · rw [value_at_append,if_pos last]
    subst last
    exact next newer
  · exact self.append le_rfl input delta (by simp at before; omega) newer

omit [DecidableEq S] in
private theorem Covered.snoc (self : Covered input_buffer start_tick snapshots.length) (input : Compressed S)
    (next : Newer input_buffer (message_tick start_tick snapshots.length) →
      ¬Beyond input_buffer (message_tick start_tick snapshots.length)) :
    Covered input_buffer start_tick (snapshots ++ [input]).length := by
  intro delta before newer
  by_cases last : delta = snapshots.length
  · subst last
    exact next newer
  · exact self delta (by simp at before; omega) newer

/-- One snapshot keeps what is known of the update. -/
private theorem progress_step (fits : input_buffer.Fits limit) (room : start_tick.toNat + snapshots.length < limit)
    (small : limit ≤ 2 ^ 32) (short : limit < start_tick.toNat + 2 ^ 31)
    (progress : Progress decay_tick input_buffer start_tick snapshots state) (input : Compressed S) :
    Progress decay_tick input_buffer start_tick (snapshots ++ [input])
      (update_step decay_tick input_buffer.last_remote_tick input_buffer.end_tick start_tick state
        (input,snapshots.length)) := by
  have place := message_tick_toNat _ _ (room.trans_le small)
  have length : (snapshots ++ [input]).length = snapshots.length + 1 := by simp
  have value : value_at (snapshots ++ [input]) snapshots.length = keep (held snapshots) input := by
    rw [value_at_append,if_pos rfl]
  cases progress with
  | untouched covered predicted =>
    have mismatched (newer : Newer input_buffer (message_tick start_tick snapshots.length)) (different :
        prediction decay_tick input_buffer start_tick (snapshots.length + 1) ≠ keep (held snapshots) input) :
        FirstMismatch decay_tick input_buffer start_tick (snapshots ++ [input]) snapshots.length :=
      ⟨newer,value.symm ▸ different,predicted.append le_rfl input⟩
    rcases update_step_predicted decay_tick input (held snapshots) (fun _ => rfl) with
      ⟨next,kept⟩ | ⟨next,newer,equal,beyond⟩ | ⟨next,newer,different⟩ <;> rw [next,← held_append]
    · have := Progress.untouched (covered.snoc input fun newer => (kept newer).2)
        (predicted.snoc input fun newer => (kept newer).1)
      rwa [length] at this
    · rw [set_raw_first fits (place.trans_lt room) beyond]
      have inside : ∀ start ∈ input_buffer.start_tick, start ≤ message_tick start_tick snapshots.length := by
        intro start started
        have := (beyond_start fits started _).mp beyond
        rw [Tick.le_iff]
        omega
      have := Progress.extended _ _ (written_first fits room small newer inside input) beyond covered
        (predicted.snoc input fun _ => equal)
      rwa [length] at this
    · by_cases inside : ∀ start ∈ input_buffer.start_tick, start ≤ message_tick start_tick snapshots.length
      · rw [clip_first fits (place.trans_lt room) inside]
        exact .rewritten _ _ _ _ _ (written_first fits room small newer inside input) le_rfl (by omega) covered
          (mismatched newer different)
      · push Not at inside
        obtain ⟨start,started,before⟩ := inside
        rw [clip_set_raw_before started before]
        exact .lost _ start _ _ _ started before (by omega) (mismatched newer different) (fun _ => rfl)
          fun _ none => nomatch none
  | extended first written isWritten beyond covered predicted =>
    have inside := isWritten.inside
    have early := message_tick_toNat start_tick first (by omega)
    have later : Beyond input_buffer (message_tick start_tick snapshots.length) := fun last isLast =>
      (beyond last isLast).trans (by rw [Tick.lt_iff]; omega)
    rcases update_step_predicted decay_tick input (held snapshots) (fun inside => absurd later inside) with
      ⟨next,kept⟩ | ⟨next,-,equal,-⟩ | ⟨next,newer,different⟩ <;> rw [next,← held_append]
    · refine absurd later (kept fun last isLast => ?_).2
      exact (isWritten.newer last isLast).trans (by rw [Tick.lt_iff]; omega)
    · rw [(isWritten.set_raw_next fits room small short _).1]
      have := Progress.extended first _
        (isWritten.append (room.trans_le small) (keep_from_option _ _ |>.trans (held_append ..))) beyond covered
        (predicted.snoc input fun _ => equal)
      rwa [length] at this
    · rw [(isWritten.set_raw_next fits room small short _).2]
      exact .rewritten first snapshots.length _ _ _
        (isWritten.append (room.trans_le small) (keep_from_option _ _ |>.trans (held_append ..))) inside.le
          (by omega) covered
        ⟨newer,value.symm ▸ different,predicted.append le_rfl input⟩
  | rewritten first mismatch written predicted latest isWritten atMismatch inside covered isMismatch =>
    simp only [update_step,Option.isSome_some,if_true]
    refine .rewritten first mismatch _ _ _ ?_ atMismatch (by omega) covered (isMismatch.append inside input)
    rw [(isWritten.set_raw_next fits room small short input).1]
    exact isWritten.append (room.trans_le small) rfl
  | lost mismatch start_tick' rest predicted latest started before inside isMismatch unset bounds =>
    have early := message_tick_toNat start_tick mismatch (by omega)
    simp only [update_step,Option.isSome_some,if_true]
    refine .lost mismatch start_tick' _ _ _ started before (by omega) (isMismatch.append inside input) ?_ ?_
    · cases origin : rest.start_tick with
      | none => simp [set_raw_of_unset origin]
      | some start => simp [set_raw_start origin]
    · cases origin : rest.start_tick with
      | none => simp [set_raw_of_unset origin,unset origin,Tick.lt_iff,place,early,inside,Nat.add_assoc]
      | some start =>
        obtain ⟨after,wide⟩ := bounds start origin
        rw [Tick.lt_iff] at after
        have restFits : rest.Fits limit := by
          refine ⟨fun none => by simp [origin] at none,fun tick isStart => ?_⟩
          obtain rfl : start = tick := Option.some.inj (origin.symm.trans isStart)
          omega
        simp [InputBuffer.set_raw_next restFits origin (place.trans wide.symm) (place.trans_lt room),origin,Tick.lt_iff]
        omega

private theorem progress_run (fits : input_buffer.Fits limit) (room : start_tick.toNat + snapshots.length ≤ limit)
    (small : limit ≤ 2 ^ 32) (short : limit < start_tick.toNat + 2 ^ 31) :
    Progress decay_tick input_buffer start_tick snapshots (run decay_tick input_buffer start_tick snapshots) := by
  induction snapshots using List.reverseRecOn with
  | nil => exact .untouched (fun _ none => nomatch none) fun _ none => nomatch none
  | append_singleton snapshots input ih =>
    rw [List.length_append,List.length_singleton] at room
    rw [run_append]
    exact progress_step fits (by omega) small short (ih (by omega)) input

omit [DecidableEq S] in
private theorem firstMismatch_unique {delta delta' : Nat}
    (isFirst : FirstMismatch decay_tick input_buffer start_tick snapshots delta)
    (isFirst' : FirstMismatch decay_tick input_buffer start_tick snapshots delta') : delta = delta' := by
  rcases lt_trichotomy delta delta' with before | same | after
  · exact absurd (isFirst'.2.2 delta before isFirst.1) isFirst.2.1
  · exact same
  · exact absurd (isFirst.2.2 delta' after isFirst'.1) isFirst'.2.1

/-- A snapshot for a tick before the start of the buffer, which cannot be written. -/
def TooEarly (input_buffer : InputBuffer S) (start_tick : Tick) (snapshots : List (Compressed S))
    (delta : Nat) : Prop :=
  Newer input_buffer (message_tick start_tick delta) ∧ value_at snapshots delta ≠ none ∧
    ∃ start ∈ input_buffer.start_tick, message_tick start_tick delta < start

/-- The ticks of a message, and those of a buffer with them, are few enough for a buffer. -/
structure Spans (input_buffer : InputBuffer S) (start_tick : Tick) (count : Nat) : Prop where
  fits : input_buffer.Fits (start_tick.toNat + count)
  small : start_tick.toNat + count ≤ 2 ^ 32
  short : count < 2 ^ 31

variable (decay_tick) in
private theorem Spans.progress (spans : Spans input_buffer start_tick snapshots.length) :
    Progress decay_tick input_buffer start_tick snapshots (run decay_tick input_buffer start_tick snapshots) :=
  progress_run spans.fits le_rfl spans.small (by have := spans.short; omega)

omit [DecidableEq S] in
theorem Spans.tick_toNat {count delta : Nat} (spans : Spans input_buffer start_tick count) (inside : delta < count) :
    (message_tick start_tick delta).toNat = start_tick.toNat + delta :=
  message_tick_toNat _ _ (by have := spans.small; omega)

omit [DecidableEq S] in
/-- Before its first write a buffer reads as predicted, and from there as the message does. -/
theorem Written.get {first : Nat} {written : InputBuffer S}
    (self : Written input_buffer start_tick snapshots first written)
    (spans : Spans input_buffer start_tick snapshots.length) :
    (∀ tick < message_tick start_tick first, written.get tick = input_buffer.get_predict tick) ∧
      ∀ delta < snapshots.length, first ≤ delta →
        written.get (message_tick start_tick delta) = value_at snapshots delta := by
  have fits := self.fits spans.fits le_rfl spans.small (by have := spans.short; omega)
  have inside := self.inside
  have place := spans.tick_toNat inside
  obtain ⟨start,started,atFirst,origin,wide,reads⟩ := self.entries
  rw [Tick.le_iff] at atFirst
  refine ⟨fun tick before => ?_,fun delta within after => ?_⟩
  · rw [get_eq fits started]
    by_cases early : tick.toNat < start.toNat
    · rw [if_pos early]
      rcases origin with origin | ⟨origin,-⟩
      · rw [get_predict_eq spans.fits origin,if_pos early]
      · simp [get_predict,origin]
    · have := (Tick.lt_iff _ _).mp before
      rw [if_neg early,reads tick (by rw [Tick.le_iff]; omega) (by omega),if_pos before]
  · have there := spans.tick_toNat within
    rw [get_eq fits started,if_neg (by omega),reads _ (by rw [Tick.le_iff]; omega) (by omega),
      if_neg (by rw [Tick.lt_iff]; omega),there,Nat.add_sub_cancel_left]

/-- The mismatch that an update finds. -/
theorem run_mismatch (spans : Spans input_buffer start_tick snapshots.length) (tick : Tick) :
    (run decay_tick input_buffer start_tick snapshots).earliest_mismatch = some tick ↔
      ∃ delta < snapshots.length, message_tick start_tick delta = tick ∧
        FirstMismatch decay_tick input_buffer start_tick snapshots delta := by
  have only {mismatch : Nat} (inside : mismatch < snapshots.length)
      (isMismatch : FirstMismatch decay_tick input_buffer start_tick snapshots mismatch) :
      some (message_tick start_tick mismatch) = some tick ↔
        ∃ delta < snapshots.length, message_tick start_tick delta = tick ∧
        FirstMismatch decay_tick input_buffer start_tick snapshots delta := by
    refine ⟨fun same => ⟨mismatch,inside,Option.some.inj same,isMismatch⟩,fun ⟨delta,_,same,isFirst⟩ => ?_⟩
    rw [firstMismatch_unique isMismatch isFirst,same]
  have never (predicted : Predicted decay_tick input_buffer start_tick snapshots snapshots.length) :
      none = some tick ↔ ∃ delta < snapshots.length, message_tick start_tick delta = tick ∧
        FirstMismatch decay_tick input_buffer start_tick snapshots delta := by
    refine ⟨fun isSome => (nomatch isSome),fun ⟨delta,inside,_,isFirst⟩ => ?_⟩
    exact absurd (predicted delta inside isFirst.1) isFirst.2.1
  generalize run decay_tick input_buffer start_tick snapshots = state,spans.progress decay_tick = progress
  cases progress with
  | untouched _ predicted => exact never predicted
  | extended _ _ _ _ _ predicted => exact never predicted
  | rewritten _ _ _ _ _ _ _ inside _ isMismatch => exact only inside isMismatch
  | lost _ _ _ _ _ _ _ inside isMismatch => exact only inside isMismatch

omit [DecidableEq S] in
private theorem prediction_early (spans : Spans input_buffer start_tick snapshots.length) {delta : Nat} {start : Tick}
    (started : input_buffer.start_tick = some start) (before : message_tick start_tick delta < start) :
    prediction decay_tick input_buffer start_tick (delta + 1) = none := by
  have inBuffer : ¬Beyond input_buffer (message_tick start_tick delta) := by
    have := spans.fits.room start started
    rw [Tick.lt_iff] at before
    rw [beyond_start spans.fits started]
    omega
  rw [prediction,if_pos ((not_beyond_iff _).mpr inBuffer),get_eq spans.fits started,if_pos (by rwa [← Tick.lt_iff])]

variable (decay_tick) in
/-- Without a snapshot that is too early an update leaves the buffer alone or writes the message from one tick on. -/
theorem run_reads (spans : Spans input_buffer start_tick snapshots.length)
    (inTime : ∀ delta < snapshots.length, ¬TooEarly input_buffer start_tick snapshots delta) :
    (run decay_tick input_buffer start_tick snapshots).input_buffer = input_buffer ∧
        Covered input_buffer start_tick snapshots.length ∧
        Predicted decay_tick input_buffer start_tick snapshots snapshots.length ∨
      ∃ first, Written input_buffer start_tick snapshots first
        (run decay_tick input_buffer start_tick snapshots).input_buffer ∧
        Covered input_buffer start_tick first ∧ Predicted decay_tick input_buffer start_tick snapshots first := by
  generalize run decay_tick input_buffer start_tick snapshots = state,spans.progress decay_tick = progress
  cases progress with
  | untouched covered predicted => exact .inl ⟨rfl,covered,predicted⟩
  | extended first written isWritten _ covered predicted =>
    exact .inr ⟨first,isWritten,covered,fun delta before => predicted delta (before.trans isWritten.inside)⟩
  | rewritten first mismatch written predicted latest isWritten atMismatch _ covered isMismatch =>
    exact .inr ⟨first,isWritten,covered,fun delta before => isMismatch.2.2 delta (before.trans_le atMismatch)⟩
  | lost mismatch start rest predicted latest started before inside isMismatch =>
    refine absurd ⟨isMismatch.1,fun isNone => isMismatch.2.1 ?_,start,started,before⟩ (inTime mismatch inside)
    rw [isNone,prediction_early spans started before]

variable (decay_tick) in
/-- An update from a message that says what the buffer has, for ticks in the buffer, does nothing. -/
theorem run_untouched (spans : Spans input_buffer start_tick snapshots.length)
    (covered : Covered input_buffer start_tick snapshots.length)
    (predicted : Predicted decay_tick input_buffer start_tick snapshots snapshots.length) :
    (run decay_tick input_buffer start_tick snapshots).input_buffer = input_buffer := by
  generalize run decay_tick input_buffer start_tick snapshots = state,spans.progress decay_tick = progress
  cases progress with
  | untouched => rfl
  | extended first _ isWritten beyond => exact absurd beyond (covered first isWritten.inside isWritten.newer)
  | rewritten _ mismatch _ _ _ _ _ inside _ isMismatch =>
    exact absurd (predicted mismatch inside isMismatch.1) isMismatch.2.1
  | lost mismatch _ _ _ _ _ _ inside isMismatch => exact absurd (predicted mismatch inside isMismatch.1) isMismatch.2.1

variable (decay_tick) in
/-- An update that writes leaves a buffer that ends with the message. -/
theorem run_extent (spans : Spans input_buffer start_tick snapshots.length) :
    (run decay_tick input_buffer start_tick snapshots).input_buffer = input_buffer ∨
      ∀ start ∈ (run decay_tick input_buffer start_tick snapshots).input_buffer.start_tick,
        start.toNat + (run decay_tick input_buffer start_tick snapshots).input_buffer.buffer.length =
          start_tick.toNat + snapshots.length := by
  have ends {first : Nat} {written : InputBuffer S}
    (isWritten : Written input_buffer start_tick snapshots first written) :
      ∀ start ∈ written.start_tick, start.toNat + written.buffer.length = start_tick.toNat + snapshots.length := by
    obtain ⟨start,started,-,-,wide,-⟩ := isWritten.entries
    intro start' isStart
    obtain rfl : start = start' := Option.some.inj (started.symm.trans isStart)
    exact wide
  generalize run decay_tick input_buffer start_tick snapshots = state,spans.progress decay_tick = progress
  cases progress with
  | untouched => exact .inl rfl
  | extended _ _ isWritten => exact .inr (ends isWritten)
  | rewritten _ _ _ _ _ isWritten => exact .inr (ends isWritten)
  | lost _ _ _ _ _ _ _ _ _ _ bounds => exact .inr fun start isStart => (bounds start isStart).2

variable (decay_tick) in
/-- With a snapshot that is too early the first mismatch is not written. -/
theorem run_loses (spans : Spans input_buffer start_tick snapshots.length) {delta : Nat}
    (inside : delta < snapshots.length)
    (early : TooEarly input_buffer start_tick snapshots delta) :
    ∃ mismatch < snapshots.length, Newer input_buffer (message_tick start_tick mismatch) ∧
      value_at snapshots mismatch ≠ none ∧
      (run decay_tick input_buffer start_tick snapshots).input_buffer.get (message_tick start_tick mismatch) =
        none := by
  obtain ⟨newer,value,start,started,before⟩ := early
  have differs : prediction decay_tick input_buffer start_tick (delta + 1) ≠ value_at snapshots delta := by
    rw [prediction_early spans started before]
    exact value.symm
  generalize run decay_tick input_buffer start_tick snapshots = state,spans.progress decay_tick = progress
  cases progress with
  | untouched _ predicted => exact absurd (predicted delta inside newer) differs
  | extended _ _ _ _ _ predicted => exact absurd (predicted delta inside newer) differs
  | rewritten first mismatch written predicted latest isWritten atMismatch within _ isMismatch =>
    obtain ⟨start',-,atFirst,origin,-⟩ := isWritten.entries
    have notAfter : mismatch ≤ delta := by
      by_contra after
      exact differs (isMismatch.2.2 delta (by omega) newer)
    have := spans.tick_toNat inside
    have := spans.tick_toNat isWritten.inside
    rw [Tick.lt_iff] at before
    rw [Tick.le_iff] at atFirst
    rcases origin with origin | ⟨origin,-⟩
    · obtain rfl : start = start' := Option.some.inj (started.symm.trans origin)
      omega
    · exact nomatch started.symm.trans origin
  | lost mismatch start' rest predicted latest started' before' within isMismatch unset bounds =>
    refine ⟨mismatch,within,isMismatch.1,fun isNone => isMismatch.2.1 ?_,?_⟩
    · rw [isNone,prediction_early spans started' before']
    · cases origin : rest.start_tick with
      | none => exact get_of_unset origin _
      | some start => exact get_of_before origin (bounds start origin).1

variable (decay_tick) in
/-- Before its first mismatch an update keeps what is read from the start that it leaves on, if there was a start. -/
theorem run_keeps (spans : Spans input_buffer start_tick snapshots.length) {tick start : Tick}
    (before : ∀ mismatch ∈ (run decay_tick input_buffer start_tick snapshots).earliest_mismatch,tick < mismatch)
    (started : (run decay_tick input_buffer start_tick snapshots).input_buffer.start_tick = some start)
    (after : start ≤ tick) :
    (∃ first ∈ input_buffer.start_tick,first ≤ tick) ∧ (∀ value,input_buffer.get tick = some value →
      (run decay_tick input_buffer start_tick snapshots).input_buffer.get tick = some value) ∨
    input_buffer.start_tick = none ∧ Newer input_buffer start := by
  have keeps {first : Nat} {written : InputBuffer S}
    (isWritten : Written input_buffer start_tick snapshots first written)
      (started : written.start_tick = some start)
      (same : ¬Beyond input_buffer tick → ¬tick < message_tick start_tick first →
        written.get tick = input_buffer.get tick) :
      (∃ first ∈ input_buffer.start_tick,first ≤ tick) ∧
        (∀ value,input_buffer.get tick = some value → written.get tick = some value) ∨
      input_buffer.start_tick = none ∧ Newer input_buffer start := by
    obtain ⟨start',started',-,origin,-⟩ := isWritten.entries
    obtain rfl : start' = start := Option.some.inj (started'.symm.trans started)
    rcases origin with origin | ⟨unset,isFirst⟩
    · refine .inl ⟨⟨start',origin,after⟩,fun value read => ?_⟩
      have inside : ¬Beyond input_buffer tick := fun beyond => by
        rw [get_beyond spans.fits beyond] at read
        cases read
      rw [← read]
      by_cases early : tick < message_tick start_tick first
      · rw [(isWritten.get spans).1 tick early,get_predict_inside spans.fits inside]
      · exact same inside early
    · exact .inr ⟨unset,isFirst ▸ isWritten.newer⟩
  generalize run decay_tick input_buffer start_tick snapshots = state,spans.progress decay_tick = progress at *
  cases progress with
  | untouched => exact .inl ⟨⟨start,started,after⟩,fun _ read => read⟩
  | extended first written isWritten beyond =>
    refine keeps isWritten started fun inside late => absurd (fun last isLast => ?_) inside
    exact (beyond last isLast).trans_le (not_lt.mp late)
  | rewritten first mismatch written predicted latest isWritten _ within _ isMismatch =>
    refine keeps isWritten started fun inside late => ?_
    have early := before _ rfl
    have firstAt := spans.tick_toNat isWritten.inside
    have mismatchAt := spans.tick_toNat within
    rw [Tick.lt_iff] at early late
    have place : tick = message_tick start_tick (tick.toNat - start_tick.toNat) :=
      BitVec.eq_of_toNat_eq (by rw [spans.tick_toNat (by omega)]; omega)
    have newer : Newer input_buffer (message_tick start_tick (tick.toNat - start_tick.toNat)) := fun last isLast =>
      place ▸ (isWritten.newer last isLast).trans_le (by rw [Tick.le_iff]; omega)
    have isPredicted := isMismatch.2.2 (tick.toNat - start_tick.toNat) (by omega) newer
    rw [prediction,if_pos ((not_beyond_iff _).mpr (place ▸ inside)),← place] at isPredicted
    rw [isPredicted,← (isWritten.get spans).2 _ (by omega) (by omega),← place]
  | lost mismatch start' rest predicted latest _ _ _ _ _ bounds =>
    exact absurd (before _ rfl) ((bounds start started).1.trans_le after).not_gt

variable (decay_tick) in
/-- Only a mismatch takes the start of a buffer away. -/
theorem run_unset (spans : Spans input_buffer start_tick snapshots.length)
    (unset : (run decay_tick input_buffer start_tick snapshots).input_buffer.start_tick = none) :
    (run decay_tick input_buffer start_tick snapshots).input_buffer.buffer = [] ∧ (input_buffer.start_tick = none ∨
      ∃ mismatch ∈ (run decay_tick input_buffer start_tick snapshots).earliest_mismatch,
        mismatch.toNat < start_tick.toNat + snapshots.length) := by
  have never {first : Nat} {written : InputBuffer S}
    (isWritten : Written input_buffer start_tick snapshots first written) :
      written.start_tick ≠ none := by
    obtain ⟨start,started,-⟩ := isWritten.entries
    simp [started]
  generalize run decay_tick input_buffer start_tick snapshots = state,spans.progress decay_tick = progress at *
  cases progress with
  | untouched => exact ⟨spans.fits.unset unset,.inl unset⟩
  | extended _ _ isWritten => exact absurd unset (never isWritten)
  | rewritten _ _ _ _ _ isWritten => exact absurd unset (never isWritten)
  | lost mismatch _ _ _ _ _ _ inside _ empty =>
    refine ⟨empty unset,.inr ⟨_,rfl,?_⟩⟩
    rw [spans.tick_toNat inside]
    omega

end
end Lightyear.Inputs
