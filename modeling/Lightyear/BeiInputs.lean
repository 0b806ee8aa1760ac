import Lightyear.InputMessage

/-!
The inputs of the BEI backend, `input_bei`. A message holds the first snapshot and the
states and values of the ticks after it; events and times are computed again.
-/
namespace Lightyear.Inputs.Bei
open Message

/-- What is used of `bevy_enhanced_input`: the events of a change of state, and the times after one more tick. -/
structure ActionTypes (Trigger Time Events : Type) where
  new_events : Trigger → Trigger → Events
  update_time : Duration → Trigger → Time → Time

structure ActionsSnapshot (Trigger Value Time Events : Type) where
  state : Trigger
  value : Value
  time : Time
  events : Events
deriving DecidableEq, Repr

structure ActionsDiff (Trigger Value : Type) where
  state : Trigger
  value : Value
deriving DecidableEq, Repr

structure BEIStateSequence (Trigger Value Time Events : Type) where
  start_state : ActionsSnapshot Trigger Value Time Events
  diffs : List (Compressed (ActionsDiff Trigger Value))

variable {Trigger Value Time Events : Type}

/-- The state and value of a snapshot, which a message carries. -/
def ActionsSnapshot.sent (self : ActionsSnapshot Trigger Value Time Events) : ActionsDiff Trigger Value :=
  ⟨self.state,self.value⟩

/-- One tick of a message: the snapshot it leads to, and what it brings into the buffer. -/
def scan_step (types : ActionTypes Trigger Time Events) (tick_duration : Duration)
    (state : ActionsSnapshot Trigger Value Time Events) (new : ActionsDiff Trigger Value) :
    ActionsSnapshot Trigger Value Time Events :=
  {state := new.state,value := new.value,time := types.update_time tick_duration state.state state.time
   events := types.new_events state.state new.state}

/-- `diffs.scan(start_state, ..)` -/
def scan (types : ActionTypes Trigger Time Events) (tick_duration : Duration) :
    ActionsSnapshot Trigger Value Time Events → List (Compressed (ActionsDiff Trigger Value)) →
      List (Compressed (ActionsSnapshot Trigger Value Time Events))
  | _,[] => []
  | state,.Absent :: diffs => .Absent :: scan types tick_duration state diffs
  | state,.SameAsPrecedent :: diffs =>
    let next := scan_step types tick_duration state state.sent
    .Input next :: scan types tick_duration next diffs
  | state,.Input diff :: diffs =>
    let next := scan_step types tick_duration state diff
    .Input next :: scan types tick_duration next diffs

theorem length_scan (types : ActionTypes Trigger Time Events) (tick_duration : Duration)
    (state : ActionsSnapshot Trigger Value Time Events) (diffs : List (Compressed (ActionsDiff Trigger Value))) :
    (scan types tick_duration state diffs).length = diffs.length := by
  induction diffs generalizing state with
  | nil => rfl
  | cons diff diffs ih => cases diff <;> simp [scan,ih]

/-- The diffs of some entries, after a tick with the state and value `current`. -/
def encode [DecidableEq Trigger] [DecidableEq Value] : ActionsDiff Trigger Value →
    List (Compressed (ActionsSnapshot Trigger Value Time Events)) → List (Compressed (ActionsDiff Trigger Value))
  | _,[] => []
  | current,.Absent :: entries => .Absent :: encode current entries
  | current,.SameAsPrecedent :: entries => .SameAsPrecedent :: encode current entries
  | current,.Input snapshot :: entries =>
    (if snapshot.state = current.state ∧ snapshot.value = current.value then .SameAsPrecedent
      else .Input snapshot.sent) ::
      encode snapshot.sent entries

namespace BEIStateSequence

def len (self : BEIStateSequence Trigger Value Time Events) : Nat := self.diffs.length + 1

def get_snapshots_from_message (types : ActionTypes Trigger Time Events)
    (self : BEIStateSequence Trigger Value Time Events)
    (tick_duration : Duration) : List (Compressed (ActionsSnapshot Trigger Value Time Events)) :=
  .Input self.start_state :: scan types tick_duration self.start_state self.diffs

/-- From the first tick that has a snapshot. -/
def build_from_input_buffer [DecidableEq Trigger] [DecidableEq Value] (rounds : Nat)
    (input_buffer : InputBuffer (ActionsSnapshot Trigger Value Time Events)) (num_ticks : Nat) (end_tick : Tick) :
    Option (Option (BEIStateSequence Trigger Value Time Events)) := do
  let start_tick ← first_buffered input_buffer end_tick rounds ((end_tick.sub num_ticks).add_signed 1)
  if end_tick < start_tick then return none
  let some start_state := input_buffer.get start_tick | return none
  let ticks ← ticks_to end_tick rounds (start_tick.add_signed 1)
  return some ⟨start_state,encode start_state.sent (ticks.map input_buffer.get_raw)⟩

end BEIStateSequence

/-- The state stays the same, and the events and times go on. -/
def ActionsSnapshot.decay_tick (types : ActionTypes Trigger Time Events)
    (self : ActionsSnapshot Trigger Value Time Events)
    (tick_duration : Duration) : ActionsSnapshot Trigger Value Time Events :=
  {self with
    events := types.new_events self.state self.state,time := types.update_time tick_duration self.state self.time}

/-- `BEIStateSequence<C>` -/
def bei [DecidableEq Trigger] [DecidableEq Value] (types : ActionTypes Trigger Time Events) :
    ActionStateSequence (BEIStateSequence Trigger Value Time Events) (ActionsSnapshot Trigger Value Time Events) where
  len := BEIStateSequence.len
  get_snapshots_from_message := BEIStateSequence.get_snapshots_from_message types
  build_from_input_buffer := BEIStateSequence.build_from_input_buffer
  decay_tick := ActionsSnapshot.decay_tick types
  length_snapshots self tick_duration := by
    simp [BEIStateSequence.get_snapshots_from_message,BEIStateSequence.len,length_scan]

/-- The state and value after some entries: those of the last snapshot. -/
def current : ActionsDiff Trigger Value → List (Compressed (ActionsSnapshot Trigger Value Time Events)) →
    ActionsDiff Trigger Value
  | now,[] => now
  | _,.Input snapshot :: entries => current snapshot.sent entries
  | now,_ :: entries => current now entries

section
variable [DecidableEq Trigger] [DecidableEq Value]

theorem length_encode (now : ActionsDiff Trigger Value)
    (entries : List (Compressed (ActionsSnapshot Trigger Value Time Events))) :
    (encode now entries).length = entries.length := by
  induction entries generalizing now with
  | nil => rfl
  | cons entry entries ih => cases entry <;> simp [encode,ih]

/-- An entry that is not absent leads to a snapshot with its state and value. -/
private theorem scan_next (types : ActionTypes Trigger Time Events) (tick_duration : Duration)
    (state : ActionsSnapshot Trigger Value Time Events) {entry : Compressed (ActionsSnapshot Trigger Value Time Events)}
    (notAbsent : entry ≠ .Absent) (entries : List (Compressed (ActionsSnapshot Trigger Value Time Events))) :
    ∃ next : ActionsSnapshot Trigger Value Time Events, next.sent = current state.sent [entry] ∧
      scan types tick_duration state (encode state.sent (entry :: entries)) =
        .Input next :: scan types tick_duration next (encode next.sent entries) := by
  cases entry with
  | Absent => exact absurd rfl notAbsent
  | SameAsPrecedent => exact ⟨scan_step types tick_duration state state.sent,rfl,rfl⟩
  | Input snapshot =>
    refine ⟨scan_step types tick_duration state snapshot.sent,rfl,?_⟩
    rw [encode]
    split
    case isTrue unchanged =>
      have same : state.sent = snapshot.sent := by
        rw [ActionsSnapshot.sent,ActionsSnapshot.sent,unchanged.1,unchanged.2]
        rfl
      rw [scan,same]
      rfl
    case isFalse => rfl

/-- An absent entry stays absent. The others become snapshots with the state and value that the sender has reached. -/
theorem scan_encode (types : ActionTypes Trigger Time Events) (tick_duration : Duration)
    (state : ActionsSnapshot Trigger Value Time Events)
    {entries : List (Compressed (ActionsSnapshot Trigger Value Time Events))} {index : Nat}
    {entry : Compressed (ActionsSnapshot Trigger Value Time Events)} (stored : entries[index]? = some entry) :
    (entry = .Absent → (scan types tick_duration state (encode state.sent entries))[index]? = some .Absent) ∧
      (entry ≠ .Absent → ∃ snapshot,
        (scan types tick_duration state (encode state.sent entries))[index]? = some (.Input snapshot) ∧
          snapshot.sent = current state.sent (entries.take (index + 1))) := by
  induction entries generalizing state index with
  | nil => simp at stored
  | cons first entries ih =>
    by_cases absent : first = .Absent
    · subst absent
      cases index with
      | zero =>
        obtain rfl : .Absent = entry := Option.some.inj stored
        exact ⟨fun _ => rfl,fun notAbsent => absurd rfl notAbsent⟩
      | succ index => exact ih state stored
    · obtain ⟨next,sent,scanned⟩ := scan_next types tick_duration state absent entries
      rw [scanned]
      cases index with
      | zero =>
        obtain rfl : first = entry := Option.some.inj stored
        exact ⟨fun isAbsent => absurd isAbsent absent,fun _ => ⟨next,rfl,sent⟩⟩
      | succ index =>
        have same : current next.sent (entries.take (index + 1)) =
            current state.sent ((first :: entries).take (index + 2)) := by
          rw [sent]
          cases first <;> rfl
        rw [← same]
        exact ih next stored

end

theorem current_append (now : ActionsDiff Trigger Value)
    (entries later : List (Compressed (ActionsSnapshot Trigger Value Time Events))) :
    current now (entries ++ later) = current (current now entries) later := by
  induction entries generalizing now with
  | nil => rfl
  | cons entry entries ih => cases entry <;> exact ih _

/-- A tick that has an input has the state and value of the last snapshot up to it. -/
theorem current_of_get {sender : InputBuffer (ActionsSnapshot Trigger Value Time Events)} (ticks : Nat → Tick)
    {count : Nat}
    (follow : ∀ index < count, (ticks (index + 1)).toNat = (ticks index).toNat + 1)
    {first snapshot : ActionsSnapshot Trigger Value Time Events} (atFirst : sender.get (ticks 0) = some first)
    (present : sender.get (ticks count) = some snapshot) :
    current first.sent ((List.range count).map fun index => sender.get_raw (ticks (index + 1))) = snapshot.sent := by
  induction count generalizing snapshot with
  | zero =>
    obtain rfl := Option.some.inj (atFirst.symm.trans present)
    rfl
  | succ count ih =>
    rw [List.range_succ,List.map_append,current_append,List.map_singleton]
    rw [InputBuffer.get_next (follow count (Nat.lt_succ_self count))] at present
    cases stored : sender.get_raw (ticks (count + 1)) with
    | Absent => rw [stored] at present; exact nomatch present
    | SameAsPrecedent =>
      rw [stored] at present
      exact ih (fun index before => follow index (Nat.lt_succ_of_lt before)) present
    | Input input =>
      rw [stored] at present
      obtain rfl := Option.some.inj present
      rfl

end Lightyear.Inputs.Bei
