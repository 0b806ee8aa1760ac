import Lightyear.Interpolation.HistoryUpkeep

/-!
The entries of a `ConfirmedHistory` without a promise on their order: all of its
functions keep the order and an explicit oldest entry, but a shift can bring entries
to one tick, where ticks saturate.
-/
namespace Lightyear.Core
open Message Sorted

namespace ConfirmedEntries

variable {C : Type}

/-- Clears all states strictly older than a tick, and keeps the state that it had there. -/
def clear_until_tick (self : ConfirmedEntries C) (tick : Tick) : ConfirmedEntries C :=
  let state_at_cut := self.get_state_at_or_before tick
  let rest := self.drop (VecDeque.partition_point (·.1 < tick) self)
  match state_at_cut with
  | none => rest
  | some state =>
    match rest.head? with
    | some (front_tick,_) =>
      if front_tick = tick then materialize_front_if_same_as_precedent rest state else
      if tick < front_tick then (tick,.Explicit state) :: rest else rest
    | none => (tick,.Explicit state) :: rest

/-- Shifts all stored ticks. -/
def update_ticks (self : ConfirmedEntries C) (delta : Int) : ConfirmedEntries C :=
  self.map fun entry => (entry.1.add_signed delta,entry.2)

/-- The oldest entry is an explicit state. -/
def Anchored (self : ConfirmedEntries C) : Prop := ∀ oldest ∈ self.head?, ∃ state, oldest.2 = .Explicit state

/-- An order of ticks, which allows two entries of one tick or does not. -/
structure Spaced (R : Tick → Tick → Prop) : Prop where
  le : ∀ a b, R a b → a ≤ b
  of_lt : ∀ a b, a < b → R a b

theorem spaced_le : Spaced (· ≤ ·) := ⟨fun _ _ => id,fun _ _ => le_of_lt⟩

theorem spaced_lt : Spaced (· < ·) := ⟨fun _ _ => le_of_lt,fun _ _ => id⟩

/-- The entries go from the oldest to the newest. -/
def InOrder (R : Tick → Tick → Prop) (self : ConfirmedEntries C) : Prop := self.Pairwise fun a b => R a.1 b.1

/-- The entries are in order, and the oldest is explicit. -/
structure Represented (R : Tick → Tick → Prop) (entries : ConfirmedEntries C) : Prop where
  inOrder : entries.InOrder R
  anchored : entries.Anchored

section
variable {R : Tick → Tick → Prop} {self : ConfirmedEntries C} {tick : Tick}

/-- Only the ticks matter for the order. -/
theorem InOrder.of_ticks (inOrder : self.InOrder R) {entries : ConfirmedEntries C}
    (ticks : entries.map Prod.fst = self.map Prod.fst) :
    entries.InOrder R :=
  List.pairwise_map.mp (ticks ▸ List.pairwise_map.mpr inOrder : (entries.map Prod.fst).Pairwise R)

/-- A search splits a history at a tick. -/
theorem InOrder.split (spaced : Spaced R) (inOrder : self.InOrder R) (tick : Tick) :
    (∀ entry ∈ self.take (VecDeque.partition_point (·.1 < tick) self), entry.1 < tick) ∧
      ∀ entry ∈ self.drop (VecDeque.partition_point (·.1 < tick) self), tick ≤ entry.1 := by
  have closed : ∀ a b :
      Tick × ConfirmedHistoryState C, R a.1 b.1 → decide (b.1 < tick) = true → decide (a.1 < tick) = true := by
    simp only [decide_eq_true_eq]
    exact fun a b ordered => (spaced.le a.1 b.1 ordered).trans_lt
  rw [VecDeque.take_partition_point inOrder closed,VecDeque.drop_partition_point inOrder closed]
  exact ⟨fun entry member => by simpa using (List.mem_filter.mp member).2,
    fun entry member => by simpa using (List.mem_filter.mp member).2⟩

theorem insert_raw_cases (tick : Tick) (raw : ConfirmedHistoryState C) :
    self.insert_raw tick raw = self.set (VecDeque.partition_point (·.1 < tick) self) (tick,raw) ∧
        (self[VecDeque.partition_point (·.1 < tick) self]?).map Prod.fst = some tick ∨
      self.insert_raw tick raw = self.insertIdx (VecDeque.partition_point (·.1 < tick) self) (tick,raw) ∧
        (self[VecDeque.partition_point (·.1 < tick) self]?).map Prod.fst ≠ some tick := by
  unfold insert_raw put
  simp only
  split
  · next same => exact .inl ⟨rfl,same⟩
  · next other => exact .inr ⟨rfl,other⟩

theorem InOrder.insert_raw (spaced : Spaced R) (inOrder : self.InOrder R) (tick : Tick)
    (raw : ConfirmedHistoryState C) :
    (self.insert_raw tick raw).InOrder R := by
  obtain ⟨before,after⟩ := inOrder.split spaced tick
  rcases insert_raw_cases tick raw with ⟨inserted,same⟩ | ⟨inserted,other⟩ <;> rw [inserted]
  · refine inOrder.of_ticks ?_
    rw [← List.getElem?_map] at same
    obtain ⟨inside,isTick⟩ := List.getElem?_eq_some_iff.mp same
    generalize VecDeque.partition_point (·.1 < tick) self = pos at inside isTick ⊢
    rw [List.map_set,← isTick,List.set_getElem_self]
  · have split := insertIdx_append (self.take (VecDeque.partition_point (·.1 < tick) self))
      (self.drop (VecDeque.partition_point (·.1 < tick) self)) (tick,raw)
    rw [List.take_append_drop,List.length_take,min_eq_left (VecDeque.partition_point_le _ _)] at split
    have kept : InOrder R (self.drop (VecDeque.partition_point (·.1 < tick) self)) := inOrder.drop
    have beyond : ∀ entry ∈ self.drop (VecDeque.partition_point (·.1 < tick) self), tick < entry.1 := by
      rw [← List.head?_drop] at other
      generalize self.drop (VecDeque.partition_point (·.1 < tick) self) = rest at kept after other ⊢
      cases rest with
      | nil => exact nofun
      | cons next rest =>
        have less : tick < next.1 :=
          lt_of_le_of_ne (after next List.mem_cons_self) fun same => other (congrArg some same.symm)
        rw [List.forall_mem_cons]
        exact ⟨less,fun entry later => less.trans_le (spaced.le _ _ ((List.pairwise_cons.mp kept).1 entry later))⟩
    rw [split]
    refine List.pairwise_append.mpr
      ⟨inOrder.take,List.pairwise_cons.mpr ⟨fun entry later => spaced.of_lt _ _ (beyond entry later),kept⟩,
      fun low isLow high isHigh => spaced.of_lt _ _ ?_⟩
    rcases List.mem_cons.mp isHigh with rfl | isLater
    · exact before low isLow
    · exact (before low isLow).trans (beyond high isLater)

/-- The front changes only if there is no entry before the tick. -/
theorem Anchored.insert_raw (anchored : self.Anchored) {raw : ConfirmedHistoryState C}
    (first : VecDeque.partition_point (·.1 < tick) self = 0 → ∃ state, raw = .Explicit state) :
    (self.insert_raw tick raw).Anchored := by
  intro oldest isOldest
  rw [List.head?_eq_getElem?,Option.mem_def] at isOldest
  have kept (isHead : self[0]? = some oldest) : ∃ state, oldest.2 = .Explicit state :=
    anchored oldest (by rw [List.head?_eq_getElem?]; exact isHead)
  rcases insert_raw_cases tick raw with ⟨inserted,-⟩ | ⟨inserted,-⟩ <;> rw [inserted] at isOldest
  · rw [List.getElem?_set] at isOldest
    split at isOldest
    · next front =>
      split at isOldest
      · cases isOldest
        exact first front
      · cases isOldest
    · exact kept isOldest
  · rcases Nat.eq_zero_or_pos (VecDeque.partition_point (·.1 < tick) self) with front | later
    · rw [front,List.insertIdx_zero] at isOldest
      cases isOldest
      exact first front
    · rw [List.getElem?_insertIdx_of_lt later] at isOldest
      exact kept isOldest

theorem Represented.insert (spaced : Spaced R) (represented : self.Represented R)
    (eq : HistoryState C → HistoryState C → Bool)
    (tick : Tick) (state : HistoryState C) : (self.insert eq tick state).Represented R := by
  refine ⟨represented.inOrder.insert_raw spaced tick _,represented.anchored.insert_raw fun front => ⟨state,if_neg ?_⟩⟩
  rw [state_before,index_before,front]
  exact Bool.false_ne_true

theorem Represented.insert_explicit (spaced : Spaced R) (represented : self.Represented R) (tick : Tick)
    (state : HistoryState C) :
    (self.insert_explicit tick state).Represented R :=
  ⟨represented.inOrder.insert_raw spaced tick _,represented.anchored.insert_raw fun _ => ⟨state,rfl⟩⟩

theorem Represented.add_unchanged (spaced : Spaced R) (represented : self.Represented R) (tick : Tick) :
    (self.add_unchanged tick).1.Represented R := by
  unfold ConfirmedEntries.add_unchanged
  split
  · exact represented
  · next absent =>
    refine ⟨represented.inOrder.insert_raw spaced tick _,represented.anchored.insert_raw fun front => ?_⟩
    refine absurd (.inr ?_) absent
    rw [state_before,index_before,front]
    rfl

theorem Represented.push_unchanged (spaced : Spaced R) (represented : self.Represented R) (tick : Tick) :
    (self.push_unchanged tick).1.Represented R := by
  unfold ConfirmedEntries.push_unchanged
  split
  · exact represented
  · split
    · exact represented
    · exact represented.add_unchanged spaced tick

theorem materialize_anchored (rest : ConfirmedEntries C) (state : HistoryState C) :
    Anchored (materialize_front_if_same_as_precedent rest state) := by
  rcases rest with _ | ⟨⟨tick,explicit | _⟩,rest⟩
  · exact nofun
  · exact fun oldest isOldest => ⟨explicit,by cases isOldest; rfl⟩
  · exact fun oldest isOldest => ⟨state,by cases isOldest; rfl⟩

theorem Represented.pop_present (represented : self.Represented R) : self.pop_present.1.Represented R := by
  obtain ⟨inOrder,anchored⟩ := represented
  rcases self with _ | ⟨⟨tick,state | _⟩,rest⟩
  · exact ⟨List.Pairwise.nil,nofun⟩
  · exact ⟨InOrder.of_ticks (List.Pairwise.tail inOrder) (materialize_ticks rest state),materialize_anchored rest state⟩
  · obtain ⟨state,explicit⟩ := anchored _ rfl
    cases explicit

/-- From its oldest entry on a history has a state. -/
theorem Anchored.resolves (anchored : self.Anchored) {oldest : Tick × ConfirmedHistoryState C}
    (isOldest : oldest ∈ self.head?)
    (after : oldest.1 ≤ tick) : (self.get_state_at_or_before tick).isSome := by
  obtain ⟨state,explicit⟩ := anchored oldest isOldest
  obtain ⟨rest,rfl⟩ := List.head?_eq_some_iff.mp isOldest
  rw [get_state_at_or_before,index_at_or_before,VecDeque.partition_point,
    List.takeWhile_cons_of_pos (by simpa using after)]
  change (resolve_state_at_index (oldest :: rest) _).isSome
  rw [resolve_state_at_index,List.findSome?_isSome_iff]
  exact ⟨oldest,by simp,by rw [explicit]; rfl⟩

theorem Represented.clear_until_tick (spaced : Spaced R) (represented : self.Represented R) (tick : Tick) :
    (self.clear_until_tick tick).Represented R := by
  have dropped : InOrder R (self.drop (VecDeque.partition_point (·.1 < tick) self)) := represented.inOrder.drop
  have after := (represented.inOrder.split spaced tick).2
  unfold ConfirmedEntries.clear_until_tick
  simp only
  split
  · next none =>
    -- Without a state at the tick no entry is before it.
    have anchored := represented.anchored
    have nothing : VecDeque.partition_point (·.1 < tick) self = 0 := by
      cases self with
      | nil => rfl
      | cons oldest rest =>
        by_contra before
        have less : oldest.1 < tick := by
          by_contra after
          exact before (by rw [VecDeque.partition_point,List.takeWhile_cons_of_neg (by simpa using after)]; rfl)
        cases (Option.isSome_iff_ne_none.mp (anchored.resolves rfl less.le)) none
    rw [nothing]
    exact represented
  · next state _ =>
    generalize self.drop (VecDeque.partition_point (·.1 < tick) self) = rest at dropped after ⊢
    rcases rest with _ | ⟨⟨front_tick,front⟩,rest⟩
    · exact ⟨List.pairwise_singleton _ _,fun oldest isOldest => ⟨state,by cases isOldest; rfl⟩⟩
    · simp only [List.head?_cons]
      split
      · exact ⟨dropped.of_ticks (materialize_ticks _ state),materialize_anchored _ state⟩
      · next other =>
        have less : tick < front_tick := lt_of_le_of_ne (after _ List.mem_cons_self) (Ne.symm other)
        rw [if_pos less]
        refine ⟨List.pairwise_cons.mpr ⟨fun entry member => spaced.of_lt _ _ ?_,dropped⟩,
          fun oldest isOldest => ⟨state,by cases isOldest; rfl⟩⟩
        rcases List.mem_cons.mp member with rfl | later
        · exact less
        · exact less.trans_le (spaced.le _ _ ((List.pairwise_cons.mp dropped).1 entry later))

/-- A shift keeps what it keeps of the order. -/
theorem Represented.update_ticks (represented : self.Represented R) {delta : Int}
    (kept : ∀ a ∈ self, ∀ b ∈ self, R a.1 b.1 → R (a.1.add_signed delta) (b.1.add_signed delta)) :
    (self.update_ticks delta).Represented R := by
  refine ⟨List.pairwise_map.mpr (represented.inOrder.imp_of_mem fun isA isB => kept _ isA _ isB),
    fun oldest isOldest => ?_⟩
  rw [ConfirmedEntries.update_ticks,List.head?_map] at isOldest
  obtain ⟨entry,isEntry,rfl⟩ := Option.map_eq_some_iff.mp isOldest
  exact represented.anchored entry isEntry

end

/-- A call of a function that changes a history. -/
inductive Call (C : Type) where
  | insert (tick : Tick) (state : HistoryState C)
  | insert_explicit (tick : Tick) (state : HistoryState C)
  | add_unchanged (tick : Tick)
  | push_unchanged (tick : Tick)
  | pop_present
  | clear_until_tick (tick : Tick)
  | update_ticks (delta : Int)

section
variable (eq : HistoryState C → HistoryState C → Bool)

def call (self : ConfirmedEntries C) : Call C → ConfirmedEntries C
  | .insert tick state => self.insert eq tick state
  | .insert_explicit tick state => self.insert_explicit tick state
  | .add_unchanged tick => (self.add_unchanged tick).1
  | .push_unchanged tick => (self.push_unchanged tick).1
  | .pop_present => self.pop_present.1
  | .clear_until_tick tick => self.clear_until_tick tick
  | .update_ticks delta => self.update_ticks delta

def step (self : ConfirmedEntries C) (call : Call C) : Option (ConfirmedEntries C) := some (self.call eq call)

/-- A shift does not bring the ticks of two entries to one of the bounds. -/
def Apart (self : ConfirmedEntries C) : Call C → Prop
  | .update_ticks delta => ∀ a ∈ self, ∀ b ∈ self, a.1.add_signed delta = b.1.add_signed delta → a.1 = b.1
  | _ => True

/-- Entries are only brought together where a tick saturates at 0 or at the greatest tick. -/
theorem apart_of_unsaturated {self : ConfirmedEntries C} {delta : Int}
    (within : ∀ entry ∈ self, 0 ≤ entry.1.toNat + delta ∧ entry.1.toNat + delta < 2 ^ 32) :
    self.Apart (.update_ticks delta) := by
  intro a isA b isB together
  obtain ⟨lowA,highA⟩ := within a isA
  obtain ⟨lowB,highB⟩ := within b isB
  have same := congrArg BitVec.toNat together
  simp only [Tick.toNat_add_signed] at same
  exact BitVec.eq_of_toNat_eq (by omega)

theorem Represented.call {R : Tick → Tick → Prop} (spaced : Spaced R) {self : ConfirmedEntries C}
    (represented : self.Represented R)
    (call : Call C) (kept : ∀ delta, call = .update_ticks delta →
      ∀ a ∈ self, ∀ b ∈ self, R a.1 b.1 → R (a.1.add_signed delta) (b.1.add_signed delta)) :
    (self.call eq call).Represented R := by
  cases call with
  | insert tick state => exact represented.insert spaced eq tick state
  | insert_explicit tick state => exact represented.insert_explicit spaced tick state
  | add_unchanged tick => exact represented.add_unchanged spaced tick
  | push_unchanged tick => exact represented.push_unchanged spaced tick
  | pop_present => exact represented.pop_present
  | clear_until_tick tick => exact represented.clear_until_tick spaced tick
  | update_ticks delta => exact represented.update_ticks (kept delta rfl)

/-- After any calls the entries go from the oldest to the newest, the oldest is explicit and every tick from there on
has a state. No two entries have one tick as long as no shift brings two of them together. -/
theorem reached_represented {meets : ConfirmedEntries C → Call C → ConfirmedEntries C → Prop}
    {self : ConfirmedEntries C}
    (reached : Runs.Reaches (step eq) meets [] self) :
    self.InOrder (· ≤ ·) ∧ self.Anchored ∧
      (∀ oldest ∈ self.head?, ∀ tick, oldest.1 ≤ tick → (self.get_state_at_or_before tick).isSome) ∧
      ((∀ before call after, meets before call after → before.Apart call) → self.InOrder (· < ·)) := by
  have represented : self.Represented (· ≤ ·) := by
    refine reached.invariant (Represented (· ≤ ·))
      ⟨List.Pairwise.nil,nofun⟩ fun before call after isRepresented executed _ => ?_
    obtain rfl := Option.some.inj executed
    exact isRepresented.call eq spaced_le call fun delta _ a _ b _ => Tick.add_signed_le
  refine ⟨represented.inOrder,represented.anchored,fun oldest isOldest tick after =>
    represented.anchored.resolves isOldest after,
    fun apart => ?_⟩
  refine (reached.invariant (Represented (· < ·))
    ⟨List.Pairwise.nil,nofun⟩ fun before call after isRepresented executed met => ?_).inOrder
  obtain rfl := Option.some.inj executed
  refine isRepresented.call eq spaced_lt call fun delta shifts a isA b isB less => ?_
  subst shifts
  exact lt_of_le_of_ne (Tick.add_signed_le less.le) fun same => less.ne (apart _ _ _ met a isA b isB same)

end

/-- A state and a marker of it, moved by three ticks. -/
theorem reached_represented_shifted :
    InOrder (· < ·) ([(2,.Explicit (.Updated 1)),(4,.SameAsPrecedent)] : ConfirmedEntries Nat) := by
  have reached : Runs.Reaches (step fun state other : HistoryState Nat => state = other)
    (fun before call _ => before.Apart call) []
      [(2,.Explicit (.Updated 1)),(4,.SameAsPrecedent)] := by
    refine .step (.update_ticks (-3))
      (.step (.insert 7 (.Updated 1)) (.step (.insert 5 (.Updated 1)) .start rfl trivial) rfl trivial) rfl ?_
    intro a isA b isB
    rcases List.mem_cons.mp isA with rfl | isA <;> rcases List.mem_cons.mp isB with rfl | isB
    · exact fun _ => rfl
    · cases List.mem_singleton.mp isB
      decide
    · cases List.mem_singleton.mp isA
      decide
    · rw [List.mem_singleton.mp isA,List.mem_singleton.mp isB]
      exact fun _ => rfl
  exact (reached_represented _ reached).2.2.2 fun _ _ _ => id

/-- The ticks 1 and 2 are both moved to tick 0. -/
theorem shifted_together : ¬ ∀ self : ConfirmedEntries Nat,
    Runs.Reaches (step fun state other : HistoryState Nat => state = other) (fun _ _ _ => True) [] self →
      self.InOrder (· < ·) := by
  intro strict
  have reached : Runs.Reaches (step fun state other : HistoryState Nat => state = other) (fun _ _ _ => True) []
      [(0,.Explicit (.Updated 1)),(0,.Explicit (.Updated 2))] :=
    .step (.update_ticks (-5))
      (.step (.insert 2 (.Updated 2)) (.step (.insert 1 (.Updated 1)) .start rfl trivial) rfl trivial) rfl trivial
  exact absurd ((List.pairwise_cons.mp (strict _ reached)).1 _ List.mem_cons_self) (lt_irrefl _)

end ConfirmedEntries
end Lightyear.Core
