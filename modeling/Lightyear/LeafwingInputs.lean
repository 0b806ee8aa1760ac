import Lightyear.InputMessage

/-!
The inputs of the leafwing backend, `inputs_leafwing`. A message holds the first state
and what changes from tick to tick; the state itself belongs to another crate.
-/
namespace Lightyear.Inputs.Leafwing
open Message

inductive InputControlKind where
  | Button
  | Axis
  | DualAxis
  | TripleAxis
deriving DecidableEq, Repr

/-- What is read of an action: whether a button is pressed, or the value of an axis. -/
inductive ActionKindData (V : Type) where
  | Button (pressed : Bool)
  | Axis (value : V)
  | DualAxis (pair : V × V)
  | TripleAxis (triple : V × V × V)
deriving DecidableEq, Repr

def ActionKindData.kind {V : Type} : ActionKindData V → InputControlKind
  | .Button _ => .Button
  | .Axis _ => .Axis
  | .DualAxis _ => .DualAxis
  | .TripleAxis _ => .TripleAxis

structure ActionData (V : Type) where
  disabled : Bool
  kind_data : ActionKindData V
deriving DecidableEq, Repr

/-- The operations of `leafwing_input_manager::ActionState<A>`, on any type of states. -/
structure ActionStates (A V State : Type) where
  default : State
  all_action_data : State → List (A × ActionData V)
  action_data : State → A → Option (ActionData V)
  tick : Duration → State → State
  press : A → State → State
  release : A → State → State
  set_value : A → V → State → State
  set_axis_pair : A → V × V → State → State
  set_axis_triple : A → V × V × V → State → State
  set_update_state_from_state : State → State
  set_fixed_update_state_from_state : State → State

inductive ActionDiff (A V : Type) where
  | Pressed (action : A)
  | Released (action : A)
  | AxisChanged (action : A) (value : V)
  | AxisPairChanged (action : A) (axis_pair : V × V)
  | AxisTripleChanged (action : A) (axis_triple : V × V × V)
deriving DecidableEq, Repr

structure LeafwingSequence (A V State : Type) where
  start_state : State
  diffs : List (List (ActionDiff A V))

variable {A V State : Type}

/-- The whole state of an action, as a diff. -/
def ActionDiff.of_data (action : A) : ActionKindData V → ActionDiff A V
  | .Button true => .Pressed action
  | .Button false => .Released action
  | .Axis value => .AxisChanged action value
  | .DualAxis pair => .AxisPairChanged action pair
  | .TripleAxis triple => .AxisTripleChanged action triple

variable [DecidableEq V]

/-- The diff of an action, if it changed. An action has the same kind before and after. -/
def ActionDiff.of_change (action : A) : ActionKindData V → ActionKindData V → Option (ActionDiff A V)
  | .Button before,.Button after =>
    if after && !before then some (.Pressed action) else if !after && before then some (.Released action) else none
  | .Axis before,.Axis after => if after ≠ before then some (.AxisChanged action after) else none
  | .DualAxis before,.DualAxis after => if after ≠ before then some (.AxisPairChanged action after) else none
  | .TripleAxis before,.TripleAxis after => if after ≠ before then some (.AxisTripleChanged action after) else none
  | _,_ => none

variable (states : ActionStates A V State)

/-- The diff of one action. Disabled actions are not sent. -/
def ActionDiff.of_entry (before : State) (entry : A × ActionData V) : Option (ActionDiff A V) :=
  let (action,action_data_after) := entry
  if action_data_after.disabled then none else
  match states.action_data before action with
  | some action_data_before => of_change action action_data_before.kind_data action_data_after.kind_data
  | none => some (of_data action action_data_after.kind_data)

def ActionDiff.create (before after : State) : List (ActionDiff A V) :=
  (states.all_action_data after).filterMap (of_entry states before)

omit [DecidableEq V] in
def ActionDiff.apply (action_state : State) : ActionDiff A V → State
  | .Pressed action => states.press action action_state
  | .Released action => states.release action action_state
  | .AxisChanged action value => states.set_value action value action_state
  | .AxisPairChanged action axis_pair => states.set_axis_pair action axis_pair action_state
  | .AxisTripleChanged action axis_triple => states.set_axis_triple action axis_triple action_state

namespace LeafwingSequence

def len (self : LeafwingSequence A V State) : Nat := self.diffs.length + 1

/-- The state of the next tick. -/
def advance (tick_duration : Duration) (state : State) (diffs_for_tick : List (ActionDiff A V)) : State :=
  let state := diffs_for_tick.foldl (ActionDiff.apply states) (states.tick tick_duration state)
  states.set_fixed_update_state_from_state (states.set_update_state_from_state state)

def get_snapshots_from_message (self : LeafwingSequence A V State) (tick_duration : Duration) :
    List (Compressed State) :=
  (self.diffs.scanl (advance states tick_duration) self.start_state).map .Input

/-- From the first tick that has a state; a tick without one counts as the default state. -/
def build_from_input_buffer (rounds : Nat) (input_buffer : InputBuffer State) (num_ticks : Nat) (end_tick : Tick) :
    Option (Option (LeafwingSequence A V State)) := do
  let start_tick ← first_buffered input_buffer end_tick rounds ((end_tick.sub num_ticks).add_signed 1)
  if end_tick < start_tick then return none
  let some start_state := input_buffer.get start_tick | return none
  let ticks ← ticks_to end_tick rounds (start_tick.add_signed 1)
  let diffs := ticks.map fun tick => ActionDiff.create states
    ((input_buffer.get (tick.sub 1)).getD states.default) ((input_buffer.get tick).getD states.default)
  return some ⟨start_state,diffs⟩

end LeafwingSequence

/-- `LeafwingSequence<A>` -/
def leafwing : ActionStateSequence (LeafwingSequence A V State) State where
  len := LeafwingSequence.len
  get_snapshots_from_message := LeafwingSequence.get_snapshots_from_message states
  build_from_input_buffer := LeafwingSequence.build_from_input_buffer states
  decay_tick state tick_duration := states.tick tick_duration state
  length_snapshots _ _ := by simp [LeafwingSequence.get_snapshots_from_message,LeafwingSequence.len]

section
omit [DecidableEq V]

def ActionDiff.action : ActionDiff A V → A
  | .Pressed action | .Released action => action
  | .AxisChanged action _ | .AxisPairChanged action _ | .AxisTripleChanged action _ => action

/-- What a diff sets. -/
def ActionDiff.data : ActionDiff A V → ActionKindData V
  | .Pressed _ => .Button true
  | .Released _ => .Button false
  | .AxisChanged _ value => .Axis value
  | .AxisPairChanged _ pair => .DualAxis pair
  | .AxisTripleChanged _ triple => .TripleAxis triple

/-- What is read of an action. -/
def ActionStates.read (states : ActionStates A V State) (state : State) (action : A) : Option (ActionKindData V) :=
  (states.action_data state action).map (·.kind_data)

/-- The states of the crate: an action has one entry and always the same kind of data, what a diff sets is what is read
of its action afterwards, and time does not change what is read. -/
structure ActionStates.Lawful (states : ActionStates A V State) (kind : A → InputControlKind) : Prop where
  entries : ∀ state action data, (action,data) ∈ states.all_action_data state ↔
    states.action_data state action = some data
  once : ∀ state, ((states.all_action_data state).map Prod.fst).Nodup
  default_empty : ∀ action, states.action_data states.default action = none
  kinds : ∀ state action data, states.action_data state action = some data → data.kind_data.kind = kind action
  applied : ∀ state (diff : ActionDiff A V), diff.data.kind = kind diff.action →
    states.read (diff.apply states state) diff.action = some diff.data
  others : ∀ state (diff : ActionDiff A V) action, action ≠ diff.action →
    states.read (diff.apply states state) action = states.read state action
  ticked : ∀ tick_duration state action, states.read (states.tick tick_duration state) action = states.read state action
  updated : ∀ state action, states.read (states.set_update_state_from_state state) action = states.read state action
  fixed_updated : ∀ state action, states.read (states.set_fixed_update_state_from_state state) action =
    states.read state action

end

variable {states} {kind : A → InputControlKind} {before after received : State} {action : A}

/-- Of an action that the sender has, the receiver reads the same. -/
def Agrees (states : ActionStates A V State) (sent received : State) (action : A) : Prop :=
  ∀ data, states.action_data sent action = some data → states.read received action = some data.kind_data

omit [DecidableEq V] in
theorem agrees_self : Agrees states before before action := by
  intro data isData
  rw [ActionStates.read,isData,Option.map_some]

omit [DecidableEq V] in
private theorem of_data_spec (action : A) (data : ActionKindData V) :
    (ActionDiff.of_data action data).action = action ∧ (ActionDiff.of_data action data).data = data := by
  rcases data with (_ | _) | _ | _ | _ <;> exact ⟨rfl,rfl⟩

/-- A diff brings the state after it, and without a diff nothing changed. -/
private theorem of_change_spec (action : A) {before after : ActionKindData V} (same : before.kind = after.kind) :
    (∀ diff ∈ ActionDiff.of_change action before after, diff.action = action ∧ diff.data = after) ∧
      (ActionDiff.of_change action before after = none → before = after) := by
  cases before <;> cases after <;> simp only [ActionKindData.kind,reduceCtorEq] at same <;>
    simp only [ActionDiff.of_change,ActionKindData.Button.injEq,ActionKindData.Axis.injEq,ActionKindData.DualAxis.injEq,
      ActionKindData.TripleAxis.injEq]
  case Button.Button before after => cases before <;> cases after <;> simp [ActionDiff.action,ActionDiff.data]
  all_goals
    split
    · simp [ActionDiff.action,ActionDiff.data]
    · simp_all

private theorem of_entry_spec (lawful : states.Lawful kind) {data : ActionData V}
    (isData : states.action_data after action = some data) (diff : ActionDiff A V)
    (isDiff : ActionDiff.of_entry states before (action,data) = some diff) :
    diff.action = action ∧ diff.data = data.kind_data := by
  simp only [ActionDiff.of_entry] at isDiff
  split at isDiff
  · exact nomatch isDiff
  · split at isDiff
    case h_1 data' isBefore =>
      have same := (lawful.kinds before action data' isBefore).trans (lawful.kinds after action data isData).symm
      exact (of_change_spec action same).1 diff isDiff
    case h_2 =>
      rw [← Option.some.inj isDiff]
      exact of_data_spec action data.kind_data

/-- An action of the sender has a diff, or what is read of it is as before. -/
private theorem create_spec (before : State) (lawful : states.Lawful kind) {data : ActionData V}
    (isData : states.action_data after action = some data) (enabled : data.disabled = false) :
    (∃ diff ∈ ActionDiff.create states before after, diff.action = action ∧ diff.data = data.kind_data) ∨
      (∀ diff ∈ ActionDiff.create states before after, diff.action ≠ action) ∧
        ∃ data', states.action_data before action = some data' ∧ data'.kind_data = data.kind_data := by
  have member := (lawful.entries after action data).mpr isData
  cases isDiff : ActionDiff.of_entry states before (action,data) with
  | some diff => exact .inl ⟨diff,List.mem_filterMap.mpr ⟨_,member,isDiff⟩,of_entry_spec lawful isData diff isDiff⟩
  | none =>
    refine .inr ⟨fun diff inCreate same => ?_,?_⟩
    · obtain ⟨⟨action',data'⟩,inAfter,isDiff'⟩ := List.mem_filterMap.mp inCreate
      have isData' := (lawful.entries after action' data').mp inAfter
      obtain rfl := (of_entry_spec lawful isData' diff isDiff').1.symm.trans same
      obtain rfl := Option.some.inj (isData.symm.trans isData')
      exact nomatch isDiff.symm.trans isDiff'
    · simp only [ActionDiff.of_entry,enabled,Bool.false_eq_true,if_false] at isDiff
      split at isDiff
      case h_1 data' isBefore =>
        have same := (lawful.kinds before action data' isBefore).trans (lawful.kinds after action data isData).symm
        exact ⟨data',isBefore,(of_change_spec action same).2 isDiff⟩
      case h_2 => exact nomatch isDiff

/-- No action has two diffs. -/
private theorem create_once (lawful : states.Lawful kind) :
    ((ActionDiff.create states before after).map ActionDiff.action).Nodup := by
  have actions (entries : List (A × ActionData V))
    (known : ∀ entry ∈ entries, states.action_data after entry.1 = some entry.2) :
      ((entries.filterMap (ActionDiff.of_entry states before)).map ActionDiff.action).Sublist
        (entries.map Prod.fst) := by
    induction entries with
    | nil => exact List.Sublist.slnil
    | cons entry entries ih =>
      have rest := ih fun entry member => known entry (List.mem_cons_of_mem _ member)
      rw [List.filterMap_cons]
      split
      case h_1 => exact rest.cons _
      case h_2 diff isDiff =>
        rw [List.map_cons,List.map_cons,(of_entry_spec lawful (known entry (List.mem_cons_self ..)) diff isDiff).1]
        exact rest.cons_cons _
  exact (actions _ fun entry member => (lawful.entries after entry.1 entry.2).mp member).nodup (lawful.once after)

private theorem create_kinds (lawful : states.Lawful kind) {diff : ActionDiff A V}
    (member : diff ∈ ActionDiff.create states before after) : diff.data.kind = kind diff.action := by
  obtain ⟨⟨action,data⟩,inAfter,isDiff⟩ := List.mem_filterMap.mp member
  have isData := (lawful.entries after action data).mp inAfter
  obtain ⟨sameAction,sameData⟩ := of_entry_spec lawful isData diff isDiff
  rw [sameAction,sameData]
  exact lawful.kinds after action data isData

omit [DecidableEq V] in
private theorem read_others (lawful : states.Lawful kind) (diffs : List (ActionDiff A V)) (state : State)
    (others : ∀ diff ∈ diffs, diff.action ≠ action) :
    states.read (diffs.foldl (ActionDiff.apply states) state) action = states.read state action := by
  induction diffs generalizing state with
  | nil => rfl
  | cons diff diffs ih =>
    rw [List.foldl_cons,ih _ fun diff member => others diff (List.mem_cons_of_mem _ member)]
    exact lawful.others state diff action (others diff (List.mem_cons_self ..)).symm

omit [DecidableEq V] in
private theorem read_applied (lawful : states.Lawful kind) {diffs : List (ActionDiff A V)} {diff : ActionDiff A V}
    (state : State) (once : (diffs.map ActionDiff.action).Nodup) (member : diff ∈ diffs)
    (isKind : diff.data.kind = kind diff.action) :
    states.read (diffs.foldl (ActionDiff.apply states) state) diff.action = some diff.data := by
  induction diffs generalizing state with
  | nil => exact nomatch member
  | cons first diffs ih =>
    rw [List.map_cons,List.nodup_cons] at once
    rw [List.foldl_cons]
    rcases List.mem_cons.mp member with rfl | member
    · rw [read_others lawful diffs _ fun other inRest same => once.1 (List.mem_map.mpr ⟨other,inRest,same⟩)]
      exact lawful.applied state diff isKind
    · exact ih _ once.2 member

/-- One tick keeps the agreement on an action that is not disabled. -/
theorem advance_agrees (lawful : states.Lawful kind) (agrees : Agrees states before received action)
    (enabled : ∀ data, states.action_data after action = some data → data.disabled = false) (tick_duration : Duration) :
    Agrees states after
      (LeafwingSequence.advance states tick_duration received (ActionDiff.create states before after)) action := by
  intro data isData
  rw [LeafwingSequence.advance,lawful.fixed_updated,lawful.updated]
  rcases create_spec before lawful isData (enabled data isData) with
    ⟨diff,member,rfl,sets⟩ | ⟨others,data',isBefore,same⟩
  · rw [read_applied lawful _ (create_once lawful) member (create_kinds lawful member),sets]
  · rw [read_others lawful _ _ others,lawful.ticked,agrees data' isBefore,same]

end Lightyear.Inputs.Leafwing
