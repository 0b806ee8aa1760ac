import Lightyear.InputUpdate

/-!
The native inputs, `inputs_native`, whose messages hold one state for every tick, and
what an update from such a message leaves in the buffer of the receiver.
-/
namespace Lightyear.Inputs
open Message InputBuffer

/-- `ActionState<A>` -/
structure ActionState (A : Type) where
  value : A
deriving DecidableEq, Repr

structure NativeStateSequence (A : Type) where
  states : List (Compressed A)

/-- A cast of an `i32` to `usize`. -/
def as_usize (value : Int) : Nat := (value % 2 ^ 64).toNat

namespace NativeStateSequence
variable {A : Type}

def len (self : NativeStateSequence A) : Nat := self.states.length

/-- The snapshot of a state. -/
def snapshot : Compressed A → Compressed (ActionState A)
  | .Absent => .Absent
  | .SameAsPrecedent => .SameAsPrecedent
  | .Input input => .Input ⟨input⟩

def get_snapshots_from_message (self : NativeStateSequence A) (_tick_duration : Duration) :
    List (Compressed (ActionState A)) :=
  self.states.map snapshot

/-- The state that is sent for an entry of the buffer. -/
def sent : Option (Compressed (ActionState A)) → Compressed A
  | some .SameAsPrecedent => .SameAsPrecedent
  | some (.Input input) => .Input input.value
  | some .Absent => .Absent
  | none => .Absent

def build_from_input_buffer (input_buffer : InputBuffer (ActionState A)) (num_ticks : Nat) (end_tick : Tick) :
    Option (NativeStateSequence A) := do
  let buffer_start_tick ← input_buffer.start_tick
  let start_tick := max ((end_tick.sub num_ticks).add_signed 1) buffer_start_tick
  let start_state := (input_buffer.get start_tick).elim .Absent (.Input ·.value)
  let buffer_start := as_usize ((start_tick.add_signed 1).diff buffer_start_tick)
  let buffer_end := as_usize ((end_tick.add_signed 1).diff buffer_start_tick)
  let states := (List.range' buffer_start (buffer_end - buffer_start)).map (sent input_buffer.buffer[·]?)
  some ⟨start_state :: states⟩

/-- Native inputs do not decay. -/
def decay_tick (self : ActionState A) (_tick_duration : Duration) : ActionState A := self

def native : ActionStateSequence (NativeStateSequence A) (ActionState A) where
  len := len
  get_snapshots_from_message := get_snapshots_from_message
  build_from_input_buffer _ input_buffer num_ticks end_tick :=
    some (build_from_input_buffer input_buffer num_ticks end_tick)
  decay_tick := decay_tick
  length_snapshots _ _ := List.length_map ..

end NativeStateSequence

variable {S : Type}

/-- A message of `len` states that ends at `end_tick` has one of them for a tick. -/
def Covers (end_tick : Tick) (len : Nat) (tick : Tick) (delta : Nat) : Prop :=
  delta < len ∧ tick.toNat + len = end_tick.toNat + 1 + delta

instance (end_tick : Tick) (len : Nat) (tick : Tick) (delta : Nat) : Decidable (Covers end_tick len tick delta) :=
  inferInstanceAs (Decidable (_ ∧ _))

/-- The ticks of a message exist, and a buffer can hold them with its own. -/
structure Fitting (input_buffer : InputBuffer S) (end_tick : Tick) (len : Nat) : Prop where
  fits : input_buffer.Fits (end_tick.toNat + 1)
  exist : len ≤ end_tick.toNat + 1
  small : end_tick.toNat + 1 < 2 ^ 32
  short : len < 2 ^ 31

/-- The received snapshots for which a prediction was wrong. -/
def Mispredicted (input_buffer : InputBuffer S) (snapshots : List (Compressed S)) (end_tick : Tick)
    (predicted : Tick → Option S) : Set Tick :=
  {tick | ∃ delta, Covers end_tick snapshots.length tick delta ∧ Newer input_buffer tick ∧
    predicted tick ≠ value_at snapshots delta}

/-- The buffer says what the message says for the ticks that were not received before, it is unchanged up to the last
tick that was, and the mismatch is the first of the new ticks at which the prediction of the buffer was wrong. -/
def Follows (input_buffer : InputBuffer S) (snapshots : List (Compressed S)) (end_tick : Tick)
    (updated : Option Tick × InputBuffer S) : Prop :=
  (∀ tick delta, Covers end_tick snapshots.length tick delta → Newer input_buffer tick →
    updated.2.get tick = value_at snapshots delta) ∧
  (∀ last_remote_tick ∈ input_buffer.last_remote_tick, ∀ tick ≤ last_remote_tick, updated.2.get tick =
    input_buffer.get tick) ∧
  ∀ tick, updated.1 = some tick ↔
    IsLeast (Mispredicted input_buffer snapshots end_tick input_buffer.get_predict) tick

/-- The first of the ticks of a message that were not received before. -/
def FirstNew (input_buffer : InputBuffer S) (end_tick : Tick) (len : Nat) (tick : Tick) (delta : Nat) : Prop :=
  Covers end_tick len tick delta ∧ Newer input_buffer tick ∧
    ∀ later delta', Covers end_tick len later delta' → Newer input_buffer later → tick ≤ later

/-- No new input of a message is for a tick before the buffer. If the buffer ends before the last tick that was received
and the message after it, the last input is absent. If the buffer ends before the message, its last input is that of the
last tick that was received, or the first new input of the message is neither of them. -/
structure Continues (input_buffer : InputBuffer S) (snapshots : List (Compressed S)) (end_tick : Tick) : Prop where
  in_time : ∀ tick delta, Covers end_tick snapshots.length tick delta → Newer input_buffer tick →
    value_at snapshots delta ≠ none → ∀ start_tick ∈ input_buffer.start_tick, start_tick ≤ tick
  no_gap : ∀ last_remote_tick ∈ input_buffer.last_remote_tick, last_remote_tick < end_tick → snapshots ≠ [] →
    Beyond input_buffer last_remote_tick → input_buffer.get_last = none
  held : (∀ tick delta, Covers end_tick snapshots.length tick delta → Beyond input_buffer tick) →
    input_buffer.last_remote_tick.bind input_buffer.get = input_buffer.get_last ∨
    ∀ tick delta, FirstNew input_buffer end_tick snapshots.length tick delta →
      value_at snapshots delta ≠ input_buffer.last_remote_tick.bind input_buffer.get ∧
        value_at snapshots delta ≠ input_buffer.get_last

section
variable {input_buffer : InputBuffer S} {snapshots : List (Compressed S)} {start_tick end_tick : Tick} {count : Nat}

theorem Fitting.start_toNat {len : Nat} (fitting : Fitting input_buffer end_tick len) :
    (message_start end_tick len).toNat + len = end_tick.toNat + 1 := by
  obtain ⟨-,exist,small,short⟩ := fitting
  rw [message_start,Tick.toNat_sub,Tick.toNat_add_signed]
  omega

theorem Fitting.spans {len : Nat} (fitting : Fitting input_buffer end_tick len) :
    Spans input_buffer (message_start end_tick len) len :=
  ⟨fitting.start_toNat ▸ fitting.fits,fitting.start_toNat ▸ fitting.small.le,fitting.short⟩

theorem covers_iff {len delta : Nat} (fitting : Fitting input_buffer end_tick len) (tick : Tick) :
    Covers end_tick len tick delta ↔ delta < len ∧ message_tick (message_start end_tick len) delta = tick := by
  have starts := fitting.start_toNat
  refine and_congr_right fun inside => ⟨fun place => ?_,fun same => ?_⟩
  · exact BitVec.eq_of_toNat_eq ((fitting.spans.tick_toNat inside).trans (by omega))
  · rw [← same,fitting.spans.tick_toNat inside]
    omega

variable [DecidableEq S]

/-- The new inputs are read back unless one of them is before the buffer. -/
theorem values_iff (fitting : Fitting input_buffer end_tick snapshots.length) (decay_tick : S → S) :
    (∀ tick delta, Covers end_tick snapshots.length tick delta → Newer input_buffer tick →
      (run decay_tick input_buffer (message_start end_tick snapshots.length) snapshots).input_buffer.get tick =
        value_at snapshots delta) ↔
    ∀ tick delta, Covers end_tick snapshots.length tick delta → Newer input_buffer tick →
      value_at snapshots delta ≠ none → ∀ start_tick ∈ input_buffer.start_tick, start_tick ≤ tick := by
  have spans := fitting.spans
  constructor
  · intro reads tick delta covers newer value start started
    obtain ⟨inside,rfl⟩ := (covers_iff fitting tick).mp covers
    by_contra early
    obtain ⟨mismatch,within,isNewer,isSome,lost⟩ := run_loses decay_tick spans inside
      ⟨newer,value,start,started,not_le.mp early⟩
    exact isSome ((reads _ mismatch ((covers_iff fitting _).mpr ⟨within,rfl⟩) isNewer).symm.trans lost)
  · intro in_time tick delta covers newer
    obtain ⟨inside,rfl⟩ := (covers_iff fitting tick).mp covers
    have inTime : ∀ delta < snapshots.length,
        ¬TooEarly input_buffer (message_start end_tick snapshots.length) snapshots delta :=
      fun delta inside ⟨newer,value,start,started,before⟩ =>
        (in_time _ delta ((covers_iff fitting _).mpr ⟨inside,rfl⟩) newer value start started).not_gt before
    have predicted {delta : Nat}
      (inBuffer : ¬Beyond input_buffer (message_tick (message_start end_tick snapshots.length) delta)) :
        prediction decay_tick input_buffer (message_start end_tick snapshots.length) (delta + 1) =
          input_buffer.get (message_tick (message_start end_tick snapshots.length) delta) :=
      if_pos ((not_beyond_iff _).mpr inBuffer)
    rcases run_reads decay_tick spans inTime with ⟨untouched,covered,same⟩ | ⟨first,written,covered,same⟩
    · rw [untouched,← predicted (covered delta inside newer),same delta inside newer]
    · by_cases before : delta < first
      · have earlier : message_tick (message_start end_tick snapshots.length) delta <
            message_tick (message_start end_tick snapshots.length) first := by
          rw [Tick.lt_iff,spans.tick_toNat inside,spans.tick_toNat written.inside]
          omega
        rw [(written.get spans).1 _ earlier,get_predict_inside spans.fits (covered delta before newer),
          ← predicted (covered delta before newer),same delta before newer]
      · exact (written.get spans).2 delta inside (by omega)

/-- The ticks that were received stay as they are unless the last input is held over a gap before them. -/
private theorem received_iff (fitting : Fitting input_buffer end_tick snapshots.length) {decay_tick : S → S}
    (inTime : ∀ delta < snapshots.length,
      ¬TooEarly input_buffer (message_start end_tick snapshots.length) snapshots delta) :
    (∀ last ∈ input_buffer.last_remote_tick, ∀ tick ≤ last,
      (run decay_tick input_buffer (message_start end_tick snapshots.length) snapshots).input_buffer.get tick =
        input_buffer.get tick) ↔
    ∀ last ∈ input_buffer.last_remote_tick, last < end_tick → snapshots ≠ [] → Beyond input_buffer last →
      input_buffer.get_last = none := by
  have spans := fitting.spans
  have starts := fitting.start_toNat
  rcases run_reads decay_tick spans inTime with ⟨untouched,covered,-⟩ | ⟨first,written,-,-⟩
  · refine iff_of_true (fun _ _ _ _ => by rw [untouched]) fun last isLast before some beyond => ?_
    have positive := List.length_pos_of_ne_nil some
    have inside : snapshots.length - 1 < snapshots.length := by omega
    have atEnd := spans.tick_toNat inside
    rw [Tick.lt_iff] at before
    have newer : Newer input_buffer
        (message_tick (message_start end_tick snapshots.length) (snapshots.length - 1)) := by
      intro last' isLast'
      obtain rfl : last = last' := Option.some.inj (isLast.symm.trans isLast')
      rw [Tick.lt_iff]
      omega
    refine absurd (fun stored isStored => (beyond stored isStored).trans ?_) (covered _ inside newer)
    rw [Tick.lt_iff]
    omega
  · have reads := (written.get spans).1
    have firstAt := spans.tick_toNat written.inside
    have inside := written.inside
    constructor
    · intro unchanged last isLast _ _ beyond
      rw [← get_predict_beyond spans.fits beyond,← reads last (written.newer last isLast),
        unchanged last isLast last le_rfl,
        get_beyond spans.fits beyond]
    · intro no_gap last isLast tick atMost
      have before := written.newer last isLast
      rw [reads tick (atMost.trans_lt before)]
      by_cases beyond : Beyond input_buffer tick
      · have lastBeyond : Beyond input_buffer last := fun stored isStored => (beyond stored isStored).trans_le atMost
        rw [get_predict_beyond spans.fits beyond,get_beyond spans.fits beyond]
        refine no_gap last isLast (before.trans_le ?_) (List.ne_nil_of_length_pos (by omega)) lastBeyond
        rw [Tick.le_iff]
        omega
      · exact get_predict_inside spans.fits beyond

/-- What the input of a tick of a message is compared with. -/
private def compared (decay_tick : S → S) (input_buffer : InputBuffer S) (start_tick tick : Tick) : Option S :=
  prediction decay_tick input_buffer start_tick (tick.toNat - start_tick.toNat + 1)

omit [DecidableEq S] in
private theorem compared_eq (spans : Spans input_buffer start_tick count) (decay_tick : S → S) {delta : Nat}
    (inside : delta < count) : compared decay_tick input_buffer start_tick (message_tick start_tick delta) =
      prediction decay_tick input_buffer start_tick (delta + 1) := by
  rw [compared,spans.tick_toNat inside,Nat.add_sub_cancel_left]

omit [DecidableEq S] in
/-- The first snapshot that was not predicted is for the least tick that was mispredicted. -/
private theorem firstMismatch_iff (fitting : Fitting input_buffer end_tick snapshots.length) (decay_tick : S → S)
    (tick : Tick) :
    (∃ delta < snapshots.length, message_tick (message_start end_tick snapshots.length) delta = tick ∧
      FirstMismatch decay_tick input_buffer (message_start end_tick snapshots.length) snapshots delta) ↔
    IsLeast (Mispredicted input_buffer snapshots end_tick
      (compared decay_tick input_buffer (message_start end_tick snapshots.length))) tick := by
  have compared {delta : Nat} (inside : delta < snapshots.length) := compared_eq fitting.spans decay_tick inside
  have place {delta : Nat} (inside : delta < snapshots.length) := fitting.spans.tick_toNat inside
  constructor
  · rintro ⟨delta,inside,rfl,newer,differs,predicted⟩
    refine ⟨⟨delta,(covers_iff fitting _).mpr ⟨inside,rfl⟩,newer,?_⟩,?_⟩
    · rwa [compared inside]
    · rintro _ ⟨delta',covers,newer',differs'⟩
      obtain ⟨inside',rfl⟩ := (covers_iff fitting _).mp covers
      rw [compared inside'] at differs'
      rw [Tick.le_iff,place inside,place inside']
      by_contra before
      exact differs' (predicted delta' (by omega) newer')
  · rintro ⟨⟨delta,covers,newer,differs⟩,least⟩
    obtain ⟨inside,rfl⟩ := (covers_iff fitting _).mp covers
    rw [compared inside] at differs
    refine ⟨delta,inside,rfl,newer,differs,fun delta' before newer' => ?_⟩
    have inside' := before.trans inside
    by_contra differs'
    have := least ⟨delta',(covers_iff fitting _).mpr ⟨inside',rfl⟩,newer',by
      rwa [compared inside']⟩
    rw [Tick.le_iff,place inside,place inside'] at this
    omega

omit [DecidableEq S] in
/-- What a message that starts after the end of the buffer is compared with. -/
private theorem prediction_after (spans : Spans input_buffer start_tick count)
    (after : Beyond input_buffer (message_tick start_tick 0)) {delta : Nat} (inside : delta < count) :
    prediction (fun input => input) input_buffer start_tick (delta + 1) =
      input_buffer.last_remote_tick.bind input_buffer.get := by
  induction delta with
  | zero =>
    rw [prediction,if_neg (mt (not_beyond_iff _).mp (not_not_intro after)),Option.map_id']
    rfl
  | succ delta ih =>
    have first := spans.tick_toNat (show 0 < count by omega)
    have beyond : Beyond input_buffer (message_tick start_tick (delta + 1)) := fun last isLast =>
      (after last isLast).trans_le (by rw [Tick.le_iff,first,spans.tick_toNat inside]; omega)
    rw [prediction,if_neg (mt (not_beyond_iff _).mp (not_not_intro beyond)),Option.map_id',ih (by omega)]

omit [DecidableEq S] in
/-- What a message that starts in the buffer is compared with. -/
private theorem prediction_inside (spans : Spans input_buffer start_tick count)
    (within : ¬Beyond input_buffer (message_tick start_tick 0)) {delta : Nat} (inside : delta < count) :
    prediction (fun input => input) input_buffer start_tick (delta + 1) =
      input_buffer.get_predict (message_tick start_tick delta) := by
  have stored {delta : Nat} (inBuffer : ¬Beyond input_buffer (message_tick start_tick delta)) :
      prediction (fun input => input) input_buffer start_tick (delta + 1) =
        input_buffer.get_predict (message_tick start_tick delta) := by
    rw [get_predict_inside spans.fits inBuffer]
    exact if_pos ((not_beyond_iff _).mpr inBuffer)
  induction delta with
  | zero => exact stored within
  | succ delta ih =>
    by_cases beyond : Beyond input_buffer (message_tick start_tick (delta + 1))
    · rw [prediction,if_neg (mt (not_beyond_iff _).mp (not_not_intro beyond)),Option.map_id',ih (by omega),
        get_predict_beyond spans.fits beyond]
      cases started : input_buffer.start_tick with
      | none => exact absurd (fun last isLast => by simp [end_tick,started] at isLast) within
      | some start =>
        rw [beyond_start spans.fits started,spans.tick_toNat inside] at beyond
        rw [get_predict_eq spans.fits started,get_last_eq spans.fits started,spans.tick_toNat (by omega)]
        by_cases last : start.toNat + input_buffer.buffer.length ≤ start_tick.toNat + delta
        · rw [if_neg (by omega),if_neg (by omega)]
        · by_cases empty : input_buffer.buffer = []
          · simp [empty]
          · have := List.length_pos_of_ne_nil empty
            rw [if_neg (by omega),if_pos (by omega),held_eq_value_at]
            congr 1
            omega
    · exact stored beyond

omit [DecidableEq S] in
private theorem exists_firstNew {len delta : Nat} {tick : Tick} (covers : Covers end_tick len tick delta)
    (newer : Newer input_buffer tick) : ∃ first delta', FirstNew input_buffer end_tick len first delta' := by
  let new := {tick | ∃ delta, Covers end_tick len tick delta ∧ Newer input_buffer tick}
  have some : new.Nonempty := ⟨tick,delta,covers,newer⟩
  obtain ⟨delta',covers',newer'⟩ := wellFounded_lt.min_mem new some
  exact ⟨_,delta',covers',newer',fun later delta' covers newer =>
    wellFounded_lt.min_le (show later ∈ new from ⟨delta',covers,newer⟩)⟩

omit [DecidableEq S] in
/-- If one input is predicted for a whole message, and its first new input is another, then the first new
tick was mispredicted. -/
private theorem mispredicted_first {predicted : Tick → Option S} {input : Option S}
    (same : ∀ tick delta, Covers end_tick snapshots.length tick delta → predicted tick = input)
    (differs : ∀ tick delta, FirstNew input_buffer end_tick snapshots.length tick delta →
      value_at snapshots delta ≠ input)
    (tick : Tick) : IsLeast (Mispredicted input_buffer snapshots end_tick predicted) tick ↔
      ∃ delta, FirstNew input_buffer end_tick snapshots.length tick delta := by
  have isMember {first : Tick} {delta : Nat} (isFirst : FirstNew input_buffer end_tick snapshots.length first delta) :
      first ∈ Mispredicted input_buffer snapshots end_tick predicted :=
    ⟨delta,isFirst.1,isFirst.2.1,(same first delta isFirst.1).trans_ne (differs first delta isFirst).symm⟩
  constructor
  · rintro ⟨⟨delta,covers,newer,-⟩,least⟩
    obtain ⟨first,delta',isFirst⟩ := exists_firstNew covers newer
    obtain rfl : first = tick := le_antisymm (isFirst.2.2 tick delta covers newer) (least (isMember isFirst))
    exact ⟨delta',isFirst⟩
  · rintro ⟨delta,isFirst⟩
    exact ⟨isMember isFirst,fun later ⟨delta',covers,newer,_⟩ => isFirst.2.2 later delta' covers newer⟩

omit [DecidableEq S] in
/-- The mismatch is the first new tick that was mispredicted unless the message starts after the end of the buffer and
its first new input is the last one of the buffer, or that of the last tick received, and not the other. -/
private theorem mismatch_iff (fitting : Fitting input_buffer end_tick snapshots.length) :
    (∀ tick, IsLeast (Mispredicted input_buffer snapshots end_tick
        (compared (fun input => input) input_buffer (message_start end_tick snapshots.length))) tick ↔
      IsLeast (Mispredicted input_buffer snapshots end_tick input_buffer.get_predict) tick) ↔
    ((∀ tick delta, Covers end_tick snapshots.length tick delta → Beyond input_buffer tick) →
      input_buffer.last_remote_tick.bind input_buffer.get = input_buffer.get_last ∨
      ∀ tick delta, FirstNew input_buffer end_tick snapshots.length tick delta →
        value_at snapshots delta ≠ input_buffer.last_remote_tick.bind input_buffer.get ∧
          value_at snapshots delta ≠ input_buffer.get_last) := by
  have spans := fitting.spans
  by_cases after : ∀ tick delta, Covers end_tick snapshots.length tick delta → Beyond input_buffer tick
  · have received : ∀ tick delta, Covers end_tick snapshots.length tick delta →
        compared (fun input => input) input_buffer (message_start end_tick snapshots.length) tick =
          input_buffer.last_remote_tick.bind input_buffer.get := by
      intro tick delta covers
      obtain ⟨inside,rfl⟩ := (covers_iff fitting tick).mp covers
      rw [compared_eq spans _ inside]
      exact prediction_after spans (after _ 0 ((covers_iff fitting _).mpr ⟨by omega,rfl⟩)) inside
    have last : ∀ tick delta, Covers end_tick snapshots.length tick delta →
        input_buffer.get_predict tick = input_buffer.get_last :=
      fun tick delta covers => get_predict_beyond spans.fits (after tick delta covers)
    refine ⟨fun same _ => ?_,fun held tick => ?_⟩
    · by_contra neither
      push Not at neither
      obtain ⟨differ,first,delta,isFirst,one⟩ := neither
      have iff := same first
      by_cases isReceived : value_at snapshots delta = input_buffer.last_remote_tick.bind input_buffer.get
      · -- The first new input is what the update compares with, and no mismatch.
        have least : IsLeast (Mispredicted input_buffer snapshots end_tick input_buffer.get_predict) first :=
          ⟨⟨delta,isFirst.1,isFirst.2.1,
            fun equal => differ (isReceived.symm.trans (equal.symm.trans (last _ _ isFirst.1)))⟩,
            fun later ⟨delta',covers,newer,_⟩ => isFirst.2.2 later delta' covers newer⟩
        obtain ⟨⟨delta',covers,-,differs⟩,-⟩ := iff.mpr least
        obtain rfl : delta = delta' := by have := isFirst.1.2; have := covers.2; omega
        exact differs ((received _ _ covers).trans isReceived.symm)
      · -- It is what the buffer predicts, and a mismatch for the update.
        have least : IsLeast (Mispredicted input_buffer snapshots end_tick
            (compared (fun input => input) input_buffer (message_start end_tick snapshots.length))) first :=
          ⟨⟨delta,isFirst.1,isFirst.2.1,fun equal => isReceived (equal.symm.trans (received _ _ isFirst.1))⟩,
            fun later ⟨delta',covers,newer,_⟩ => isFirst.2.2 later delta' covers newer⟩
        obtain ⟨⟨delta',covers,-,differs⟩,-⟩ := iff.mp least
        obtain rfl : delta = delta' := by have := isFirst.1.2; have := covers.2; omega
        exact differs ((last _ _ covers).trans (one isReceived).symm)
    · rcases held after with equal | differ
      · rw [show Mispredicted input_buffer snapshots end_tick
            (compared (fun input => input) input_buffer (message_start end_tick snapshots.length)) =
          Mispredicted input_buffer snapshots end_tick input_buffer.get_predict from
          Set.ext fun tick => exists_congr fun delta => and_congr_right fun covers => and_congr_right fun _ => by
            rw [received tick delta covers,last tick delta covers,equal]]
      · rw [mispredicted_first received (fun tick delta isFirst => (differ tick delta isFirst).1),
          mispredicted_first last (fun tick delta isFirst => (differ tick delta isFirst).2)]
  · refine iff_of_true (fun tick => ?_) fun all => absurd all after
    push Not at after
    obtain ⟨early,place,covers,within⟩ := after
    obtain ⟨inside,rfl⟩ := (covers_iff fitting early).mp covers
    have first : ¬Beyond input_buffer (message_tick (message_start end_tick snapshots.length) 0) := fun beyond =>
      within fun last isLast => (beyond last isLast).trans_le (by
        rw [Tick.le_iff,spans.tick_toNat inside,spans.tick_toNat (by omega)]
        omega)
    rw [show Mispredicted input_buffer snapshots end_tick
        (compared (fun input => input) input_buffer (message_start end_tick snapshots.length)) =
      Mispredicted input_buffer snapshots end_tick input_buffer.get_predict from
      Set.ext fun tick => exists_congr fun delta => and_congr_right fun covers => and_congr_right fun _ => by
        obtain ⟨inside,rfl⟩ := (covers_iff fitting tick).mp covers
        rw [compared_eq spans _ inside,prediction_inside spans first inside]]

private theorem follows_iff (fitting : Fitting input_buffer end_tick snapshots.length) :
    let state := run (fun input => input) input_buffer (message_start end_tick snapshots.length) snapshots
    Follows input_buffer snapshots end_tick
        (state.earliest_mismatch,{state.input_buffer with last_remote_tick := some end_tick}) ↔
      Continues input_buffer snapshots end_tick := by
  intro state
  have values := values_iff fitting fun input => input
  have inTime (in_time : ∀ tick delta, Covers end_tick snapshots.length tick delta → Newer input_buffer tick →
      value_at snapshots delta ≠ none → ∀ start_tick ∈ input_buffer.start_tick, start_tick ≤ tick) :
      ∀ delta < snapshots.length, ¬TooEarly input_buffer (message_start end_tick snapshots.length) snapshots delta :=
    fun delta inside ⟨newer,value,start,started,before⟩ =>
      (in_time _ delta ((covers_iff fitting _).mpr ⟨inside,rfl⟩) newer value start started).not_gt before
  have mismatch : (∀ tick, state.earliest_mismatch = some tick ↔
      IsLeast (Mispredicted input_buffer snapshots end_tick input_buffer.get_predict) tick) ↔ _ :=
    (forall_congr' fun tick => iff_congr ((run_mismatch fitting.spans tick).trans (firstMismatch_iff fitting _ tick))
      Iff.rfl).trans (mismatch_iff fitting)
  simp only [Follows,get_remote]
  constructor
  · rintro ⟨reads,unchanged,least⟩
    have in_time := values.mp reads
    exact ⟨in_time,(received_iff fitting (inTime in_time)).mp unchanged,mismatch.mp least⟩
  · rintro ⟨in_time,no_gap,held⟩
    exact ⟨values.mpr in_time,(received_iff fitting (inTime in_time)).mpr no_gap,mismatch.mpr held⟩

end

namespace NativeStateSequence
variable {A : Type} [DecidableEq A]

/-- The buffer follows a message exactly if the message continues it. -/
theorem update_follows_iff (self : NativeStateSequence A) (input_buffer : InputBuffer (ActionState A)) (end_tick : Tick)
    (tick_duration : Duration) (fitting : Fitting input_buffer end_tick self.len) :
    Follows input_buffer (self.get_snapshots_from_message tick_duration) end_tick
        (update_buffer native self input_buffer end_tick tick_duration) ↔
      Continues input_buffer (self.get_snapshots_from_message tick_duration) end_tick := by
  have length : (self.get_snapshots_from_message tick_duration).length = self.len :=
    native.length_snapshots self tick_duration
  rw [update_buffer_eq,show native.len self = self.len from rfl,← length]
  rw [← length] at fitting
  exact follows_iff fitting

/-- A message that repeats the ticks in the buffer, and goes on. -/
theorem update_follows_next : Follows ⟨some 10,[.Input ⟨1⟩,.SameAsPrecedent],some 10⟩
    (get_snapshots_from_message ⟨[.Input 1,.SameAsPrecedent,.Input 2]⟩ 0) 12
    (update_buffer native ⟨[.Input 1,.SameAsPrecedent,.Input 2]⟩
      ⟨some 10,[.Input ⟨1⟩,.SameAsPrecedent],some 10⟩ 12 0) := by
  have inBuffer : ¬Beyond (⟨some 10,[.Input ⟨1⟩,.SameAsPrecedent],some 10⟩ : InputBuffer (ActionState Nat)) 10 :=
    fun beyond => absurd (beyond 11 rfl) (by decide)
  refine (update_follows_iff _ _ _ 0
    ⟨⟨fun unset => absurd unset (by decide),fun start isStart => ?_⟩,by decide,by decide,by decide⟩).mpr
    ⟨fun tick delta covers _ _ start isStart => ?_,fun last isLast _ _ beyond => ?_,fun after => ?_⟩
  · obtain rfl : (10 : Tick) = start := Option.some.inj isStart
    decide
  · obtain rfl : (10 : Tick) = start := Option.some.inj isStart
    have place : tick.toNat + 3 = 13 + delta := covers.2
    exact (Tick.le_iff _ _).mpr (show 10 ≤ tick.toNat by omega)
  · obtain rfl : (10 : Tick) = last := Option.some.inj isLast
    exact absurd beyond inBuffer
  · exact absurd (after 10 0 (by decide)) inBuffer

/-- The buffer starts at tick 10. The message says that the input of tick 8 lasts until tick 10, and it is lost. -/
theorem early_input_lost :
    ¬ ∀ (self : NativeStateSequence Nat) (input_buffer : InputBuffer (ActionState Nat)) (end_tick : Tick)
      (tick_duration : Duration), Fitting input_buffer end_tick self.len →
      Follows input_buffer (self.get_snapshots_from_message tick_duration) end_tick
        (update_buffer native self input_buffer end_tick tick_duration) := by
  intro follows
  have read := (follows ⟨[.Input 5,.SameAsPrecedent,.SameAsPrecedent]⟩ ⟨some 10,[.Input ⟨1⟩],none⟩ 10 0
    ⟨⟨fun unset => absurd unset (by decide),fun start isStart => by
      obtain rfl : (10 : Tick) = start := Option.some.inj isStart
      decide⟩,by decide,by decide,by decide⟩).1 10 2 (by decide) fun last isLast => nomatch isLast
  exact absurd read (by decide)

end NativeStateSequence
end Lightyear.Inputs
