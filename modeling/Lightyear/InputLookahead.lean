import Lightyear.NativeInputs

/-!
How far an input message can reach into the buffer of the server, `server.rs` of the
inputs: the end tick of a message is checked against the tick of the server, and the
number of its states is not.
-/
namespace Lightyear.Inputs
open Message InputBuffer

/-- How far ahead of the server the end tick of a message can be. -/
def MAX_INPUT_LOOKAHEAD_TICKS : Int := 64

/-- How far behind the server the end tick of a message can be. -/
def MAX_INPUT_PAST_TICKS : Int := 256

def is_input_within_lookahead (end_tick server_tick : Tick) : Bool :=
  let delta : Int := end_tick.toNat - server_tick.toNat
  decide (-MAX_INPUT_PAST_TICKS ≤ delta) && decide (delta ≤ MAX_INPUT_LOOKAHEAD_TICKS)

variable {Seq S : Type} [DecidableEq S]

/-- What `receive_input_message` does with the states that a message has for the owner of a buffer. -/
def receive_input_message (backend : ActionStateSequence Seq S) (server_tick : Tick) (end_tick : Tick) (states : Seq)
    (tick_duration : Duration) (buffer : InputBuffer S) : InputBuffer S :=
  if is_input_within_lookahead end_tick server_tick then (update_buffer backend states buffer end_tick tick_duration).2
  else buffer

/-- The entry of a tick, if the buffer has one. -/
def InputBuffer.entry (self : InputBuffer S) (tick : Tick) : Option (Compressed S) :=
  self.start_tick.bind fun start_tick => if start_tick ≤ tick then self.buffer[tick.toNat - start_tick.toNat]? else none

/-- The entries of a buffer that an update wrote or added are not after the end tick of its message. -/
def WrittenUpTo (end_tick server_tick : Tick) (before after : InputBuffer S) : Prop :=
  ∀ tick entry, after.entry tick = some entry → before.entry tick ≠ some entry →
    tick ≤ end_tick ∧ (tick.toNat : Int) ≤ server_tick.toNat + MAX_INPUT_LOOKAHEAD_TICKS

variable {start_tick : Tick} {input_buffer written : InputBuffer S} {snapshots : List (Compressed S)}

omit [DecidableEq S] in
private theorem entry_eq (self : InputBuffer S) {start : Tick} (started : self.start_tick = some start) (tick : Tick) :
    self.entry tick = if start ≤ tick then self.buffer[tick.toNat - start.toNat]? else none := by
  rw [InputBuffer.entry,started,Option.bind_some]

/-- An update writes only at the ticks of the message. -/
private theorem run_entry {decay_tick : S → S} (spans : Spans input_buffer start_tick snapshots.length) {tick : Tick}
    {entry : Compressed S}
    (stored : (run decay_tick input_buffer start_tick snapshots).input_buffer.entry tick = some entry)
    (new : input_buffer.entry tick ≠ some entry) : tick.toNat < start_tick.toNat + snapshots.length := by
  rcases run_extent decay_tick spans with untouched | ends
  · exact absurd (untouched ▸ stored) new
  · cases started : (run decay_tick input_buffer start_tick snapshots).input_buffer.start_tick with
    | none => simp [InputBuffer.entry,started] at stored
    | some start =>
      rw [entry_eq _ started] at stored
      split at stored
      · have := (List.getElem?_eq_some_iff.mp stored).1
        have := ends start started
        omega
      · exact nomatch stored

/-- An update of an empty buffer writes the last snapshot. -/
private theorem run_empty (decay_tick : S → S) (spans : Spans (.default : InputBuffer S) start_tick snapshots.length)
    (some : 0 < snapshots.length) :
    ∃ entry, (run decay_tick InputBuffer.default start_tick snapshots).input_buffer.entry
      (message_tick start_tick (snapshots.length - 1)) = Option.some entry := by
  rcases run_reads decay_tick spans (fun _ _ ⟨_,_,_,isStart,_⟩ => nomatch isStart) with
    ⟨-,covered,-⟩ | ⟨first,written,-,-⟩
  · exact absurd (fun _ isEnd => nomatch isEnd) (covered 0 some fun _ isLast => nomatch isLast)
  · obtain ⟨start,started,atFirst,-,wide,-⟩ := written.entries
    have inside := written.inside
    rw [Tick.le_iff,spans.tick_toNat inside] at atFirst
    have last := spans.tick_toNat (show snapshots.length - 1 < snapshots.length by omega)
    rw [entry_eq _ started,if_pos (by rw [Tick.le_iff]; omega)]
    exact ⟨_,List.getElem?_eq_getElem (by omega)⟩

omit [DecidableEq S] in
@[simp] private theorem entry_remote (self : InputBuffer S) (last_remote_tick : Option Tick) (tick : Tick) :
    InputBuffer.entry {self with last_remote_tick} tick = self.entry tick := rfl

/-- No buffer is written after the end of an accepted message exactly if the message has no more states than there are
ticks up to its end. -/
theorem written_up_to_iff (backend : ActionStateSequence Seq S) (server_tick end_tick : Tick) (states : Seq)
    (tick_duration : Duration) (accepted : is_input_within_lookahead end_tick server_tick)
    (short : backend.len states < 2 ^ 31) :
    (∀ buffer : InputBuffer S, buffer.Fits (end_tick.toNat + 1) →
      WrittenUpTo end_tick server_tick buffer
        (receive_input_message backend server_tick end_tick states tick_duration buffer)) ↔
      backend.len states ≤ end_tick.toNat + 1 := by
  have ahead : (end_tick.toNat : Int) ≤ server_tick.toNat + MAX_INPUT_LOOKAHEAD_TICKS := by
    simp only [is_input_within_lookahead,Bool.and_eq_true,decide_eq_true_eq] at accepted
    omega
  have starts : (message_start end_tick (backend.len states)).toNat =
      min (end_tick.toNat + 1) (2 ^ 32 - 1) - backend.len states := by
    rw [message_start,Tick.toNat_sub,Tick.toNat_add_signed]
    omega
  simp only [receive_input_message,if_pos accepted,update_buffer_eq]
  rw [← backend.length_snapshots states tick_duration] at short starts ⊢
  generalize backend.get_snapshots_from_message states tick_duration = snapshots at short starts ⊢
  generalize message_start end_tick snapshots.length = start_tick at starts ⊢
  constructor
  · intro bounded
    by_contra long
    have spans : Spans (.default : InputBuffer S) start_tick snapshots.length :=
      ⟨⟨fun _ => rfl,fun _ isStart => by cases isStart⟩,by omega,short⟩
    obtain ⟨entry,stored⟩ := run_empty (backend.decay_tick · tick_duration) spans (by omega)
    have last := spans.tick_toNat (show snapshots.length - 1 < snapshots.length by omega)
    have := (bounded .default ⟨fun _ => rfl,fun _ isStart => by cases isStart⟩ _ entry stored fun isEntry =>
      by cases isEntry).1
    rw [Tick.le_iff] at this
    omega
  · intro few buffer fits tick entry stored new
    have spans : Spans buffer start_tick snapshots.length := by
      refine ⟨⟨fits.unset,fun start isStart => ?_⟩,by omega,short⟩
      obtain ⟨positive,inRange,fewEntries,near⟩ := fits.room start isStart
      exact ⟨positive,inRange,fewEntries,by omega⟩
    have := run_entry spans stored new
    exact ⟨by rw [Tick.le_iff]; omega,by omega⟩

/-- Two states, the first of them for the last tick of the buffer. -/
theorem written_up_to_two :
    WrittenUpTo 12 10 ⟨some 11,[.Input ⟨0⟩],none⟩ (receive_input_message NativeStateSequence.native 10 12
      ⟨[.Input 1,.SameAsPrecedent]⟩ 0 (⟨some 11,[.Input ⟨0⟩],none⟩ : InputBuffer (ActionState Nat))) := by
  refine (written_up_to_iff NativeStateSequence.native 10 12 ⟨[.Input 1,.SameAsPrecedent]⟩ 0 (by decide)
    (by decide)).mpr
    (by decide) _ ⟨fun unset => absurd unset (by decide),fun start isStart => ?_⟩
  obtain rfl : (11 : Tick) = start := Option.some.inj isStart
  decide

/-- A message that ends at tick 2 has states for five ticks. The last of them is written at tick 4. -/
theorem long_message_written_late :
    ¬ ∀ (states : NativeStateSequence Nat) (server_tick end_tick : Tick) (tick_duration : Duration)
      (buffer : InputBuffer (ActionState Nat)), is_input_within_lookahead end_tick server_tick →
      states.len < 2 ^ 31 → buffer.Fits (end_tick.toNat + 1) →
      WrittenUpTo end_tick server_tick buffer
        (receive_input_message NativeStateSequence.native server_tick end_tick states tick_duration buffer) := by
  intro bounded
  have late := (bounded ⟨[.Input 0,.Input 1,.Input 2,.Input 3,.Input 4]⟩ 0 2 0 .default (by decide) (by decide)
    ⟨fun _ => rfl,fun _ isStart => nomatch isStart⟩ 4 (.Input ⟨4⟩) (by decide) (by decide)).1
  exact absurd late (by decide)

end Lightyear.Inputs
