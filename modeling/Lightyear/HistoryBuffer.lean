import Lightyear.Tick
import Lightyear.Sorted

/-!
The history of a component's states, `history_buffer.rs`.
-/
namespace Lightyear.Core
open Message Sorted

inductive HistoryState (R : Type) where
  | Removed
  | Updated (value : R)
deriving DecidableEq, Repr

variable {R : Type}

/-- `HistoryState::value` -/
def HistoryState.value : HistoryState R → Option R
  | .Removed => none
  | .Updated value => some value

/-- The ticks at which a component changed, from oldest to newest. -/
structure HistoryBuffer (R : Type) where
  buffer : List (Tick × HistoryState R)
deriving DecidableEq, Repr

namespace HistoryBuffer

def default : HistoryBuffer R := ⟨[]⟩

def oldest (self : HistoryBuffer R) : Option (Tick × HistoryState R) := self.buffer.head?

/-- The full state at a tick: that of the last change up to it. -/
def get_state (self : HistoryBuffer R) (tick : Tick) : Option (HistoryState R) :=
  match VecDeque.partition_point (·.1 ≤ tick) self.buffer with
  | 0 => none
  | index + 1 => (self.buffer[index]?).map Prod.snd

def get (self : HistoryBuffer R) (tick : Tick) : Option R := (self.get_state tick).bind HistoryState.value

def add_state (self : HistoryBuffer R) (tick : Tick) (state : HistoryState R) : HistoryBuffer R :=
  match self.buffer.getLast? with
  | some (last_tick,_) =>
    if last_tick = tick then ⟨self.buffer.dropLast ++ [(tick,state)]⟩ else ⟨self.buffer ++ [(tick,state)]⟩
  | none => ⟨[(tick,state)]⟩

/-- Forgets the states before a tick, but for the one that is effective there. -/
def clear_until_tick (self : HistoryBuffer R) (tick : Tick) : HistoryBuffer R :=
  match VecDeque.partition_point (·.1 ≤ tick) self.buffer with
  | 0 => self
  | kept + 1 =>
    match self.buffer.drop kept with
    | (_,state) :: rest => ⟨(tick,state) :: rest⟩
    | [] => ⟨[]⟩

/-- Forgets the states after a tick. -/
def clear_after_tick (self : HistoryBuffer R) (tick : Tick) : HistoryBuffer R :=
  ⟨self.buffer.take (VecDeque.partition_point (·.1 ≤ tick) self.buffer)⟩

def update_ticks (self : HistoryBuffer R) (delta : Int) : HistoryBuffer R :=
  ⟨self.buffer.map fun entry => (entry.1.add_signed delta,entry.2)⟩

/-- The values of the buffer are ordered from the oldest to the most recent. -/
def Ordered (self : HistoryBuffer R) : Prop := Ascending self.buffer

instance (self : HistoryBuffer R) : Decidable self.Ordered := inferInstanceAs (Decidable (Ascending _))

/-- No value is from after a tick. -/
def UpTo (self : HistoryBuffer R) (tick : Tick) : Prop := ∀ entry ∈ self.buffer,entry.1 ≤ tick

variable {self : HistoryBuffer R} {tick other : Tick}

theorem get_state_eq (ordered : self.Ordered) (tick : Tick) :
    self.get_state tick = ((self.buffer.filter (·.1 ≤ tick)).getLast?).map Prod.snd := by
  rw [← (Ascending.upTo ordered tick).1,get_state]
  split
  next none => rw [none]; rfl
  next index isPoint =>
    have inside : index < self.buffer.length := by
      have := VecDeque.partition_point_le (·.1 ≤ tick) self.buffer
      omega
    rw [isPoint,List.take_succ_eq_append_getElem inside,List.getLast?_concat,List.getElem?_eq_getElem inside]

/-- The search of the ring buffer ends there, wherever the two slices of an ordered buffer meet. -/
theorem search_eq (ordered : self.Ordered) (tick : Tick) {front back : List (Tick × HistoryState R)}
    (slices : self.buffer = front ++ back) :
    VecDeque.search (·.1 ≤ tick) front back = VecDeque.partition_point (·.1 ≤ tick) self.buffer := by
  rw [Ordered,slices] at ordered
  rw [slices]
  refine VecDeque.search_eq ordered fun a b less upTo => ?_
  rw [decide_eq_true_eq] at upTo ⊢
  exact less.le.trans upTo

/-- In a buffer of any order it can end there. -/
theorem search_exists (self : HistoryBuffer R) (tick : Tick) : ∃ front back,self.buffer = front ++ back ∧
    VecDeque.search (·.1 ≤ tick) front back = VecDeque.partition_point (·.1 ≤ tick) self.buffer :=
  ⟨_,_,List.takeWhile_append_dropWhile.symm,VecDeque.search_wrapped (·.1 ≤ tick) self.buffer⟩

theorem get_state_upTo (ordered : self.Ordered) (upTo : self.UpTo tick) :
    self.get_state tick = self.buffer.getLast?.map Prod.snd := by
  rw [get_state_eq ordered,List.filter_eq_self.mpr fun entry member => by simpa using upTo entry member]

/-- What is added last is read from its tick on, and before it nothing changes. -/
theorem add_state_spec (ordered : self.Ordered) (upTo : self.UpTo tick) (state : HistoryState R) :
    (self.add_state tick state).Ordered ∧ (self.add_state tick state).UpTo tick ∧
      (self.add_state tick state).get_state tick = some state ∧
      ∀ other < tick,(self.add_state tick state).get_state other = self.get_state other := by
  obtain ⟨front,kept,isFront⟩ : ∃ front :
    List (Tick × HistoryState R),(self.add_state tick state).buffer = front ++ [(tick,state)] ∧
      Ascending front ∧ (∀ entry ∈ front,entry.1 < tick) ∧
        ∀ other < tick,front.filter (·.1 ≤ other) = self.buffer.filter (·.1 ≤ other) := by
    rw [add_state]
    rcases List.eq_nil_or_concat self.buffer with none | ⟨front,⟨last_tick,last⟩,isBuffer⟩
    · rw [none]
      exact ⟨[],rfl,List.Pairwise.nil,fun _ member => (nomatch member),fun _ _ => rfl⟩
    · rw [List.concat_eq_append] at isBuffer
      have inOrder : Ascending (front ++ [(last_tick,last)]) := isBuffer ▸ ordered
      obtain ⟨frontOrdered,-,before⟩ := List.pairwise_append.mp inOrder
      have most : last_tick ≤ tick := upTo (last_tick,last) (by simp [isBuffer])
      rw [isBuffer,List.getLast?_concat]
      by_cases same : last_tick = tick
      · subst same
        refine ⟨front,by simp,frontOrdered,fun entry member => before entry member _ (List.mem_singleton_self _),?_⟩
        intro other less
        simp [less]
      · have less : last_tick < tick := lt_of_le_of_ne most same
        refine ⟨front ++ [(last_tick,last)],by simp [same],inOrder,fun entry member => ?_,fun _ _ => rfl⟩
        rcases List.mem_append.mp member with inFront | isLast
        · exact (before entry inFront _ (List.mem_singleton_self _)).trans less
        · exact List.mem_singleton.mp isLast ▸ less
  obtain ⟨frontOrdered,before,same⟩ := isFront
  have newOrdered : (self.add_state tick state).Ordered := by
    rw [Ordered,kept]
    refine List.pairwise_append.mpr ⟨frontOrdered,List.pairwise_singleton _ _,fun entry member last isLast => ?_⟩
    exact List.mem_singleton.mp isLast ▸ before entry member
  have newUpTo : (self.add_state tick state).UpTo tick := by
    intro entry member
    rw [kept] at member
    rcases List.mem_append.mp member with inFront | isLast
    · exact (before entry inFront).le
    · exact List.mem_singleton.mp isLast ▸ le_rfl
  refine ⟨newOrdered,newUpTo,?_,fun other less => ?_⟩
  · rw [get_state_upTo newOrdered newUpTo,kept,List.getLast?_concat]
    rfl
  · rw [get_state_eq newOrdered,get_state_eq ordered,kept,List.filter_append,same other less]
    simp [less]

theorem clear_after_tick_spec (ordered : self.Ordered) (tick : Tick) :
    (self.clear_after_tick tick).Ordered ∧ (self.clear_after_tick tick).UpTo tick ∧
      ∀ other ≤ tick,(self.clear_after_tick tick).get_state other = self.get_state other := by
  have kept : (self.clear_after_tick tick).buffer = self.buffer.filter (·.1 ≤ tick) := (Ascending.upTo ordered tick).1
  have newOrdered : (self.clear_after_tick tick).Ordered := by
    rw [Ordered,kept]
    exact Ascending.filter ordered _
  refine ⟨newOrdered,fun entry member => ?_,fun other most => ?_⟩
  · rw [kept] at member
    simpa using (List.mem_filter.mp member).2
  · rw [get_state_eq newOrdered,get_state_eq ordered,kept,List.filter_filter]
    congr 2
    refine List.filter_congr fun entry _ => ?_
    rw [Bool.and_eq_left_iff_imp]
    simpa using fun less => le_trans less most

theorem clear_until_tick_spec (ordered : self.Ordered) (tick : Tick) :
    (self.clear_until_tick tick).Ordered ∧
      (∀ bound,tick ≤ bound → self.UpTo bound → (self.clear_until_tick tick).UpTo bound) ∧
      ∀ other,tick ≤ other → (self.clear_until_tick tick).get_state other = self.get_state other := by
  obtain ⟨front,back⟩ := Ascending.upTo ordered tick
  rw [clear_until_tick]
  split
  next => exact ⟨ordered,fun _ _ upTo => upTo,fun _ _ => rfl⟩
  next kept isPoint =>
    have inside : kept < self.buffer.length := by
      have := VecDeque.partition_point_le (·.1 ≤ tick) self.buffer
      omega
    rw [isPoint] at front back
    rw [List.drop_eq_getElem_cons inside,back]
    -- the last entry up to the tick is kept as its state there, with the entries after it
    have last : (self.buffer.filter (·.1 ≤ tick)).getLast? = some self.buffer[kept] := by
      rw [← front,List.take_succ_eq_append_getElem inside,List.getLast?_concat]
    have parts : self.buffer = self.buffer.filter (·.1 ≤ tick) ++ self.buffer.filter (tick < ·.1) := by
      rw [← front,← back,List.take_append_drop]
    generalize self.buffer[kept] = entry at last
    obtain ⟨entry_tick,state⟩ := entry
    have after : ∀ entry ∈ self.buffer.filter (tick < ·.1),tick < entry.1 := fun entry member => by
      simpa using (List.mem_filter.mp member).2
    have newOrdered : (⟨(tick,state) :: self.buffer.filter (tick < ·.1)⟩ : HistoryBuffer R).Ordered :=
      List.pairwise_cons.mpr ⟨after,Ascending.filter ordered _⟩
    refine ⟨newOrdered,fun bound most upTo entry member => ?_,fun other most => ?_⟩
    · rcases List.mem_cons.mp member with rfl | inRest
      · exact most
      · exact upTo entry (List.mem_filter.mp inRest).1
    · rw [get_state_eq newOrdered,get_state_eq ordered]
      conv_rhs => rw [parts]
      have all : (self.buffer.filter (·.1 ≤ tick)).filter (·.1 ≤ other) = self.buffer.filter (·.1 ≤ tick) :=
        List.filter_eq_self.mpr fun entry member => by
          simpa using le_trans (by simpa using (List.mem_filter.mp member).2) most
      rw [List.filter_append,all,List.filter_cons_of_pos (by simpa using most),List.getLast?_append,last,
        List.getLast?_cons]
      cases ((self.buffer.filter (tick < ·.1)).filter (·.1 ≤ other)).getLast? <;> rfl

end HistoryBuffer
end Lightyear.Core
