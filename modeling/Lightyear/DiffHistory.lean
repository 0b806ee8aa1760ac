import Lightyear.ConfirmedHistory

/-!
The receiver of states that are replicated as diffs, `diff_history.rs`. It knows at
which ticks of a confirmed history the states after which diffs are, and applies a range
of diffs once it knows the state before it.

The code is written for any indexes of diffs: those of the wire wrap, the numbers of
the diffs in their stream do not.
-/
namespace Lightyear.DiffHistory
open Message Lightyear.Core Sorted

/-- What the receiver uses of `DiffIndex`. -/
structure DiffIndexing (I : Type) where
  add : I → Nat → I
  sub : I → Nat → I
  is_newer : I → I → Bool
  distance_after : I → I → Nat

inductive DiffError (I E : Type) where
  | too_many_diffs (index : I) (diff_count : Nat)
  | apply_diff (error : E)
deriving DecidableEq, Repr

structure PendingDiffMessage (I Diff : Type) where
  tick : Tick
  first_diff_index : I
  diffs : List Diff
deriving DecidableEq, Repr

structure HistoryDiffReceiver (I Diff : Type) where
  base_cursor : Option I
  base_tick : Option Tick
  diff_ticks : List (I × Tick)
  pending : List (PendingDiffMessage I Diff)
deriving DecidableEq, Repr

variable {I Diff C E : Type} [DecidableEq I] (indexing : DiffIndexing I)

/-- `u16::try_from` of the index of the last one of some diffs. -/
def offset (diffs : List Diff) : Option Nat :=
  if diffs.length - 1 < 2 ^ 16 then some (diffs.length - 1) else none

namespace PendingDiffMessage

def base_cursor (self : PendingDiffMessage I Diff) : I := indexing.sub self.first_diff_index 1

/-- The cursor after the last diff. Empty messages are not queued. -/
def cursor (self : PendingDiffMessage I Diff) : Except (DiffError I E) I :=
  match offset self.diffs with
  | some offset => .ok (indexing.add self.first_diff_index offset)
  | none => .error (.too_many_diffs self.first_diff_index self.diffs.length)

/-- `pending.cursor().is_ok_and(|pending_cursor| pending_cursor.is_newer(cursor))` -/
def is_newer (cursor : I) (self : PendingDiffMessage I Diff) : Bool :=
  match (self.cursor indexing : Except (DiffError I Unit) I) with
  | .ok pending_cursor => indexing.is_newer pending_cursor cursor
  | .error _ => false

/-- The message that is pending is another one, which has this cursor. -/
def is_queued (queued pending : PendingDiffMessage I Diff) (cursor : I) : Bool :=
  queued.tick = pending.tick && queued.first_diff_index = pending.first_diff_index &&
    match (queued.cursor indexing : Except (DiffError I Unit) I) with
    | .ok queued_cursor => queued_cursor = cursor
    | .error _ => false

end PendingDiffMessage

namespace HistoryDiffReceiver

def default : HistoryDiffReceiver I Diff := ⟨none,none,[],[]⟩

/-- A newer cursor than the base is at a tick. -/
def put_cursor (tick : Tick) (cursor : I) (self : HistoryDiffReceiver I Diff) : HistoryDiffReceiver I Diff :=
  {self with
    diff_ticks := match self.diff_ticks.findIdx? (·.1 = cursor) with
      | some index => self.diff_ticks.set index (cursor,tick)
      | none => self.diff_ticks ++ [(cursor,tick)]
    pending := self.pending.filter (·.is_newer indexing cursor)}

/-- The confirmed history contains the state for a cursor at a tick. `none` is a snapshot with no diff base. -/
def record_cursor (tick : Tick) (cursor : Option I) (self : HistoryDiffReceiver I Diff) : HistoryDiffReceiver I Diff :=
  match cursor with
  | some cursor =>
    match self.base_cursor with
    | some base_cursor =>
      if cursor ≠ base_cursor ∧ !indexing.is_newer cursor base_cursor then self
      else if cursor = base_cursor then
        {self with
          base_tick := if self.base_tick.all (· ≤ tick) then some tick else self.base_tick
          diff_ticks := self.diff_ticks.filter (indexing.is_newer ·.1 cursor)
          pending := self.pending.filter (·.is_newer indexing cursor)}
      else self.put_cursor indexing tick cursor
    | none => self.put_cursor indexing tick cursor
  | none => if self.base_tick.any (tick < ·) then self else ⟨none,some tick,[],[]⟩

/-- The confirmed tick of a cursor. -/
def tick_for_cursor (cursor : Option I) (self : HistoryDiffReceiver I Diff) : Option Tick :=
  if cursor = self.base_cursor then self.base_tick
  else do
    let cursor ← cursor
    let (_,tick) ← self.diff_ticks.find? (·.1 = cursor)
    some tick

/-- `max_by_key` of the tick: of several that are the greatest, the last. -/
def last_max {α : Type} (entries : List (α × Tick)) : Option (α × Tick) :=
  entries.foldl (fun greatest entry => match greatest with
    | some kept => if kept.2 ≤ entry.2 then some entry else some kept
    | none => some entry) none

/-- The cursors that are recorded, with their ticks: the base and the newer ones. -/
def retained (self : HistoryDiffReceiver I Diff) : List (Option I × Tick) :=
  (self.base_tick.map fun base_tick => (self.base_cursor,base_tick)).toList ++
    self.diff_ticks.map fun entry => (some entry.1,entry.2)

/-- The newest retained cursor that is recorded at or before a tick. -/
def cursor_at_or_before (tick : Tick) (self : HistoryDiffReceiver I Diff) : Option (Option I × Tick) :=
  last_max (self.retained.filter (·.2 ≤ tick))

def has_pending_diffs (self : HistoryDiffReceiver I Diff) : Bool := !self.pending.isEmpty

/-- The newest cursor at or before a tick becomes the base, and older ones are dropped. -/
def clear_before_tick (tick : Tick) (history : ConfirmedHistory C) (self : HistoryDiffReceiver I Diff) :
    HistoryDiffReceiver I Diff :=
  if self.has_pending_diffs then self
  else if self.base_tick.any (tick < ·) then self
  else
    let cursor_at_cut := (self.cursor_at_or_before tick).map Prod.fst
    let (base_cursor,base_tick) : Option I × Option Tick :=
      match cursor_at_cut with
      | some cursor => if (history.get_present tick).isSome then (cursor,some tick) else (none,none)
      | none => (none,none)
    let diff_ticks : List (I × Tick) := match base_cursor with
      | some base_cursor => self.diff_ticks.filter (indexing.is_newer ·.1 base_cursor)
      | none => self.diff_ticks
    {base_cursor,base_tick
     diff_ticks := diff_ticks.filter (tick ≤ ·.2)
     pending := self.pending.filter fun pending =>
        match (pending.cursor indexing : Except (DiffError I Unit) I),base_cursor with
        | .ok cursor,some base_cursor => indexing.is_newer cursor base_cursor
        | .ok _,none => true
        | .error _,_ => false}

def is_retired_cursor (cursor : I) (self : HistoryDiffReceiver I Diff) : Bool :=
  self.base_cursor.any fun base_cursor => cursor = base_cursor || !indexing.is_newer cursor base_cursor

/-- The end of `queue_diffs`. -/
def push_pending (pending : PendingDiffMessage I Diff) (self : HistoryDiffReceiver I Diff) :
    Except (DiffError I E) (HistoryDiffReceiver I Diff) := do
  let cursor ← pending.cursor indexing
  if (self.tick_for_cursor (some cursor)).isSome || self.pending.any (·.is_queued indexing pending cursor) then
    return self
  return {self with pending := self.pending ++ [pending]}

/-- A message is left out whose final cursor is known or retired, or that is pending. Of one that overlaps the base its
suffix is kept. -/
def queue_diffs (tick : Tick) (first_diff_index : I) (diffs : List Diff) (self : HistoryDiffReceiver I Diff) :
    Except (DiffError I E) (HistoryDiffReceiver I Diff) := do
  if diffs.isEmpty then return self
  let pending : PendingDiffMessage I Diff := ⟨tick,first_diff_index,diffs⟩
  let cursor ← pending.cursor indexing
  if self.is_retired_cursor indexing cursor || (self.tick_for_cursor (some cursor)).isSome then return self
  match self.base_cursor with
  | some base_cursor =>
    if indexing.is_newer base_cursor (pending.base_cursor indexing) then
      let retained_first_diff := indexing.add base_cursor 1
      let drop_count := indexing.distance_after retained_first_diff first_diff_index
      if diffs.length ≤ drop_count then return self
      self.push_pending indexing ⟨tick,retained_first_diff,diffs.drop drop_count⟩
    else self.push_pending indexing pending
  | none => self.push_pending indexing pending

/-- A message that has its final index and the diffs up to it. -/
def queue_diff (tick : Tick) (index : I) (diffs : List Diff) (self : HistoryDiffReceiver I Diff) :
    Except (DiffError I E) (HistoryDiffReceiver I Diff) :=
  if diffs.isEmpty then .ok self
  else match offset diffs with
    | some offset => self.queue_diffs indexing tick (indexing.sub index offset) diffs
    | none => .error (.too_many_diffs index diffs.length)

def has_removal_between (history : ConfirmedHistory C) (base_tick target_tick : Tick) : Bool :=
  (List.range history.buffer.length).any fun i =>
    match history.get_nth_state i with
    | some (tick,.Removed) => decide (base_tick < tick) && decide (tick ≤ target_tick)
    | _ => false

/-- The state before a message, if it is known. -/
def base_value (history : ConfirmedHistory C) (pending : PendingDiffMessage I Diff)
    (self : HistoryDiffReceiver I Diff) :
    Option C := do
  let base_tick ← self.tick_for_cursor (some (pending.base_cursor indexing))
  if pending.tick < base_tick || has_removal_between history base_tick pending.tick then none
  else history.get_present base_tick

/-- Applies the diffs of the first message whose base is known. -/
def take_ready_update (apply_diff : C → Diff → Except E C) (history : ConfirmedHistory C)
    (self : HistoryDiffReceiver I Diff) :
    HistoryDiffReceiver I Diff × Except (DiffError I E) (Option (PendingDiffMessage I Diff × C)) :=
  let ready := self.pending.zipIdx.findSome? fun (pending,pending_index) =>
    (self.base_value indexing history pending).map fun value => (pending,pending_index,value)
  match ready with
  | none => (self,.ok none)
  | some (pending,pending_index,value) =>
    let removed := {self with pending := self.pending.eraseIdx pending_index}
    match pending.cursor indexing,pending.diffs.foldlM apply_diff value with
    | .error error,_ => (removed,.error error)
    | .ok _,.error error => (removed,.error (.apply_diff error))
    | .ok cursor,.ok value => (removed.record_cursor indexing pending.tick (some cursor),.ok (some (pending,value)))

end HistoryDiffReceiver

/-- The receiver of an entity's component, with its confirmed history. -/
structure Received (I C Diff : Type) where
  receiver : HistoryDiffReceiver I Diff
  history : ConfirmedHistory C

/-- What a client does with the component: it receives messages, applies the ones that are ready, forgets what is older
than a tick that is processed, and marks ticks at which the component is known to be unchanged. -/
inductive Event (I C Diff : Type) where
  | snapshot (tick : Tick) (index : I) (component : C)
  | diffs (tick : Tick) (index : I) (diffs : List Diff)
  | take_ready_update
  | clear_before_tick (tick : Tick)
  | add_unchanged (tick : Tick)
deriving DecidableEq, Repr

section
variable [DecidableEq C] (apply_diff : C → Diff → Except E C)

/-- An event of `write_history_diff_inner` and of the systems around it, with the message that it applies and
its value. -/
def Received.step (self : Received I C Diff) :
    Event I C Diff → Received I C Diff × Option (PendingDiffMessage I Diff × C)
  | .snapshot tick index component =>
    (⟨self.receiver.record_cursor indexing tick (some index),self.history.insert tick (.Updated component)⟩,none)
  | .diffs tick index diffs =>
    match (self.receiver.queue_diff indexing tick index diffs : Except (DiffError I E) _) with
    | .ok receiver => ({self with receiver},none)
    | .error _ => (self,none)
  | .take_ready_update =>
    match self.receiver.take_ready_update indexing apply_diff self.history with
    | (receiver,.ok (some (pending,value))) =>
      (⟨receiver,self.history.insert pending.tick (.Updated value)⟩,some (pending,value))
    | (receiver,_) => ({self with receiver},none)
  | .clear_before_tick tick => ({self with receiver := self.receiver.clear_before_tick indexing tick self.history},none)
  | .add_unchanged tick => ({self with history := (self.history.add_unchanged tick).1},none)

/-- A run, with the messages that it applies and their values. -/
def Received.run (self : Received I C Diff) :
    List (Event I C Diff) → Received I C Diff × List (PendingDiffMessage I Diff × C)
  | [] => (self,[])
  | event :: events =>
    let (next,applied) := self.step indexing apply_diff event
    let (last,more) := next.run events
    (last,applied.toList ++ more)

def Received.default : Received I C Diff := ⟨.default,.default⟩

end
end Lightyear.DiffHistory
