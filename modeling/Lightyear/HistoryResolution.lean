import Lightyear.HistoryBuffer

/-!
A `HistoryBuffer` as what it stands for: the function that gives the last state at or
before a tick. The functions that drop a part of the history keep it on the other
part, with the state of the cut.
-/
namespace Lightyear.Core
open Message Sorted

namespace HistoryBuffer
variable {R : Type}

def clear (_self : HistoryBuffer R) : HistoryBuffer R := ⟨[]⟩

/-- Puts back the state that was popped, at a tick. -/
def readd (tick : Tick) (res : Option (HistoryState R)) (rest : List (Tick × HistoryState R)) : HistoryBuffer R :=
  match res with
  | none => ⟨rest⟩
  | some .Removed => ⟨(tick,.Removed) :: rest⟩
  | some r => ⟨(tick,r) :: rest⟩

/-- Clears the states before a tick, and returns the one at the tick. -/
def pop_until_tick (self : HistoryBuffer R) (tick : Tick) : Option (HistoryState R) × HistoryBuffer R :=
  match VecDeque.partition_point (·.1 ≤ tick) self.buffer with
  | 0 => (none,self)
  | kept + 1 =>
    let buffer := self.buffer.drop kept
    let res := buffer.head?.map Prod.snd
    (res,readd tick res buffer.tail)

/-- Clears all states but the one at a tick, and returns it. -/
def clear_except_tick (self : HistoryBuffer R) (tick : Tick) : Option (HistoryState R) × HistoryBuffer R :=
  match VecDeque.partition_point (·.1 ≤ tick) self.buffer with
  | 0 => (none,self.clear)
  | kept + 1 =>
    let res := ((self.buffer.drop kept).head?).map Prod.snd
    (res,readd tick res self.clear.buffer)

/-- The last of some states at or before a tick. -/
def as_of (states : List (Tick × HistoryState R)) (tick : Tick) : Option (HistoryState R) :=
  ((states.filter (·.1 ≤ tick)).getLast?).map Prod.snd

/-- The history after some states, which are added in the order of the list. -/
def add_all (states : List (Tick × HistoryState R)) : HistoryBuffer R :=
  states.foldl (fun history state => history.add_state state.1 state.2) default

theorem as_of_snoc (states : List (Tick × HistoryState R)) (tick other : Tick) (state : HistoryState R) :
    as_of (states ++ [(tick,state)]) other = if tick ≤ other then some state else as_of states other := by
  rw [as_of,List.filter_append]
  split
  · next after => simp [after]
  · next before => simp [before,as_of]

section
variable {self : HistoryBuffer R} {tick other : Tick}

@[simp] theorem readd_some (tick : Tick) (state : HistoryState R) (rest : List (Tick × HistoryState R)) :
    readd tick (some state) rest = ⟨(tick,state) :: rest⟩ := by
  cases state <;> rfl

/-- No state is after the last tick that was added. -/
theorem get_state_from (ordered : self.Ordered) (upTo : self.UpTo tick) (after : tick ≤ other) :
    self.get_state other = self.get_state tick := by
  rw [get_state_upTo ordered upTo,get_state_upTo ordered fun entry member => (upTo entry member).trans after]

/-- States that are added with ticks that do not decrease are the history that they stand for. -/
theorem add_all_spec {states : List (Tick × HistoryState R)} (inTurn : states.Pairwise fun a b => a.1 ≤ b.1) :
    (add_all states).Ordered ∧ (∀ tick, (∀ state ∈ states, state.1 ≤ tick) → (add_all states).UpTo tick) ∧
      ∀ tick, (add_all states).get_state tick = as_of states tick := by
  induction states using List.reverseRecOn with
  | nil => exact ⟨List.Pairwise.nil,fun _ _ _ => nofun,fun _ => rfl⟩
  | append_singleton states last ih =>
    obtain ⟨tick,state⟩ := last
    obtain ⟨earlier,-,before⟩ := List.pairwise_append.mp inTurn
    obtain ⟨ordered,upTo,reads⟩ := ih earlier
    have added : add_all (states ++ [(tick,state)]) = (add_all states).add_state tick state := by
      rw [add_all,List.foldl_append]
      rfl
    obtain ⟨newOrdered,newUpTo,atTick,earlierTicks⟩ :=
      add_state_spec ordered (upTo tick fun entry member => before entry member _ (List.mem_singleton_self _)) state
    rw [added]
    refine ⟨newOrdered,fun bound most entry member => ?_,fun other => ?_⟩
    · exact (newUpTo entry member).trans (most (tick,state) (by simp))
    · rw [as_of_snoc]
      split
      · next after => rw [get_state_from newOrdered newUpTo after,atTick]
      · next isBefore => rw [earlierTicks other (not_le.mp isBefore),reads]

/-- To pop until a tick is to clear until it. -/
theorem pop_until_tick_eq (self : HistoryBuffer R) (tick : Tick) :
    self.pop_until_tick tick = (self.get_state tick,self.clear_until_tick tick) := by
  rw [pop_until_tick,get_state,clear_until_tick]
  cases VecDeque.partition_point (·.1 ≤ tick) self.buffer with
  | zero => rfl
  | succ kept =>
    simp only [← List.head?_drop]
    cases self.buffer.drop kept with
    | nil => rfl
    | cons entry rest => simp

theorem clear_except_tick_eq (self : HistoryBuffer R) (tick : Tick) :
    self.clear_except_tick tick = (self.get_state tick,readd tick (self.get_state tick) []) := by
  rw [clear_except_tick,get_state]
  cases VecDeque.partition_point (·.1 ≤ tick) self.buffer with
  | zero => rfl
  | succ kept =>
    simp only [← List.head?_drop]
    rfl

theorem get_state_readd (res : Option (HistoryState R)) (after : tick ≤ other) :
    (readd tick res []).get_state other = res := by
  cases res with
  | none => rfl
  | some state => simp [get_state,VecDeque.partition_point,after]

end

/-- A history of states that were added with ticks that do not decrease gives the last state at or before a
tick. What is cleared or popped does not change it on the part that stays, where the state at the tick of the
cut stays in effect. -/
theorem resolves_as_of (states : List (Tick × HistoryState R)) (inTurn : states.Pairwise fun a b => a.1 ≤ b.1)
    (tick : Tick) :
    (∀ other, (add_all states).get_state other = as_of states other) ∧
    (∀ other, tick ≤ other → ((add_all states).clear_until_tick tick).get_state other = as_of states other) ∧
    (((add_all states).pop_until_tick tick).1 = as_of states tick ∧
      ∀ other, tick ≤ other → ((add_all states).pop_until_tick tick).2.get_state other = as_of states other) ∧
    ((∀ other ≤ tick, ((add_all states).clear_after_tick tick).get_state other = as_of states other) ∧
      ∀ other, tick < other → ((add_all states).clear_after_tick tick).get_state other = as_of states tick) ∧
    (((add_all states).clear_except_tick tick).1 = as_of states tick ∧
      ∀ other, tick ≤ other → ((add_all states).clear_except_tick tick).2.get_state other = as_of states tick) := by
  obtain ⟨ordered,-,reads⟩ := add_all_spec inTurn
  obtain ⟨-,-,until_reads⟩ := clear_until_tick_spec ordered tick
  obtain ⟨afterOrdered,afterUpTo,after_reads⟩ := clear_after_tick_spec ordered tick
  rw [pop_until_tick_eq,clear_except_tick_eq,show as_of states = (add_all states).get_state from (funext reads).symm]
  refine ⟨fun _ => rfl,until_reads,⟨rfl,until_reads⟩,⟨after_reads,fun other after => ?_⟩,⟨rfl,fun other after => ?_⟩⟩
  · rw [get_state_from afterOrdered afterUpTo after.le,after_reads tick le_rfl]
  · exact get_state_readd _ after

/-- A state that is added, replaced at its tick, and removed. -/
theorem resolves_as_of_replaced :
    ((add_all [((4 : Tick),HistoryState.Updated 1),(4,.Updated 2),(8,.Removed)]).pop_until_tick 6).2.get_state 7 =
      some (.Updated 2) :=
  (resolves_as_of [((4 : Tick),HistoryState.Updated 1),(4,.Updated 2),(8,.Removed)] (by simp) 6).2.2.1.2 7 (by decide)

end HistoryBuffer
end Lightyear.Core
