import Lightyear.InputBuffer

/-!
What a message brings into the inputs of a remote player, `input_message.rs`. The
message covers the ticks up to its end tick; those after the last tick that was
received before are compared with what had been predicted for them.
-/
namespace Lightyear.Inputs
open Message

/-- A `core::time::Duration`, in nanoseconds. -/
abbrev Duration := Nat

/-- The functions of an input backend: a sequence `Seq` of snapshots `S` that can be sent. Building one has loops, and
no result if they take more than a number of rounds. -/
structure ActionStateSequence (Seq S : Type) where
  len : Seq → Nat
  get_snapshots_from_message : Seq → Duration → List (Compressed S)
  build_from_input_buffer : (rounds : Nat) → InputBuffer S → (num_ticks : Nat) → (end_tick : Tick) → Option (Option Seq)
  decay_tick : S → Duration → S
  length_snapshots : ∀ sequence tick_duration, (get_snapshots_from_message sequence tick_duration).length = len sequence

/-- `while start_tick <= end_tick`, up to the first tick that has an input. -/
def first_buffered {S : Type} (input_buffer : InputBuffer S) (end_tick : Tick) : (rounds : Nat) → Tick → Option Tick
  | 0,_ => none
  | rounds + 1,start_tick =>
    if start_tick ≤ end_tick then
      if (input_buffer.get start_tick).isSome then some start_tick
      else first_buffered input_buffer end_tick rounds (start_tick.add 1)
    else some start_tick

/-- The ticks of `while tick <= end_tick`. -/
def ticks_to (end_tick : Tick) : (rounds : Nat) → Tick → Option (List Tick)
  | 0,_ => none
  | rounds + 1,tick => if tick ≤ end_tick then (ticks_to end_tick rounds (tick.add 1)).map (tick :: ·) else some []

/-- What the loop of `update_buffer` changes. -/
structure UpdateState (S : Type) where
  input_buffer : InputBuffer S
  previous_predicted_input : Option S
  earliest_mismatch : Option Tick
  latest_received_input : Option S

variable {Seq S : Type} [DecidableEq S]

/-- The tick of the first snapshot, `end_tick + 1 - len as u32`. -/
def message_start (end_tick : Tick) (len : Nat) : Tick := (end_tick.add_signed 1).sub (len % 2 ^ 32)

/-- The tick of a snapshot, `start_tick + Tick(delta as u32)`. -/
def message_tick (start_tick : Tick) (delta : Nat) : Tick := start_tick.add (delta % 2 ^ 32)

/-- One snapshot of a message, with its place. -/
def update_step (decay_tick : S → S) (last_remote_tick previous_end_tick : Option Tick) (start_tick : Tick)
    (state : UpdateState S) (entry : Compressed S × Nat) : UpdateState S :=
  let (input,delta) := entry
  let tick := message_tick start_tick delta
  let previous_predicted_input :=
    if previous_end_tick.any (tick ≤ ·) then state.input_buffer.get tick
    else state.previous_predicted_input.map decay_tick
  let state := {state with previous_predicted_input}
  if state.earliest_mismatch.isSome then {state with input_buffer := state.input_buffer.set_raw tick input} else
  let state := {state with latest_received_input := keep state.latest_received_input input}
  -- The inputs at or before `last_remote_tick` were received already.
  if last_remote_tick.all (· < tick) then
    if state.previous_predicted_input = state.latest_received_input then
      if previous_end_tick.all (· < tick) then
        {state with input_buffer := state.input_buffer.set_raw tick (.from_option state.latest_received_input)}
      else state
    else
      {state with
        input_buffer := (state.input_buffer.set_raw tick (.from_option state.latest_received_input)).clip_after tick
        earliest_mismatch := some tick}
  else state

/-- Updates a buffer from a message, and returns the earliest tick at which they differ. -/
def update_buffer (backend : ActionStateSequence Seq S) (self : Seq) (input_buffer : InputBuffer S) (end_tick : Tick)
    (tick_duration : Duration) : Option Tick × InputBuffer S :=
  let last_remote_tick := input_buffer.last_remote_tick
  let previous_end_tick := input_buffer.end_tick
  let start_tick := message_start end_tick (backend.len self)
  let state := (backend.get_snapshots_from_message self tick_duration).zipIdx.foldl
    (update_step (backend.decay_tick · tick_duration) last_remote_tick previous_end_tick start_tick)
    ⟨input_buffer,last_remote_tick.bind input_buffer.get,none,none⟩
  (state.earliest_mismatch,{state.input_buffer with last_remote_tick := some end_tick})

end Lightyear.Inputs
