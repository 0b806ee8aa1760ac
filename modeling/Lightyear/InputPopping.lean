import Lightyear.InputLookup
import Lightyear.NativeInputs
import Lightyear.InputAnchors

/-!
What is left of a buffer when its first ticks are removed. The last input that is
removed takes the place of a marker that would come first.
-/
namespace Lightyear.Inputs
open Message

namespace InputBuffer
variable {S : Type}

/-- `get_predict`, with a bound on the entries that it visits. -/
def look_predict (self : InputBuffer S) (visits : Nat) (tick : Tick) : Option (Option S) :=
  match self.start_tick with
  | none => some none
  | some start_tick =>
    if self.buffer.isEmpty then some none else
    if tick < start_tick then some none else
    if last_tick start_tick self.buffer.length < tick then self.look visits
      (last_tick start_tick self.buffer.length) else
      match self.get_raw tick with
      | .Absent => some none
      | .SameAsPrecedent => self.look visits (tick.sub 1)
      | .Input value => some (some value)

/-- `get_predict` returns a value. -/
def Predicts (self : InputBuffer S) (tick : Tick) (value : Option S) : Prop :=
  ∃ visits, self.look_predict visits tick = some value

section
variable {self : InputBuffer S} {tick start_tick : Tick} {index : Nat}

theorem get_of_not_holds (outside : ∀ index, ¬self.Holds tick index) : self.get tick = none :=
  get_of_look (show self.look 1 tick = some none by rw [look,get_raw_of_not_holds outside])

theorem Holds.get (holds : self.Holds tick index) : self.get tick = value_at self.buffer index := by
  induction index generalizing tick with
  | zero =>
    obtain ⟨-,start_tick,started,place⟩ := holds.place
    rw [value_at_of_raw,holds.get_raw]
    by_cases zero : tick.toNat = 0
    · have first : BitVec.ofNat 32 0 = tick := BitVec.eq_of_toNat_eq (by simp [zero])
      rw [InputBuffer.get,zero,get_number,first]
      cases self.get_raw tick <;> rfl
    · have before : tick.sub 1 < start_tick := by
        rw [Tick.lt_iff,Tick.toNat_sub]
        omega
      rw [get_next (show tick.toNat = (tick.sub 1).toNat + 1 by rw [Tick.toNat_sub]; omega),
        get_of_before started before]
      rfl
  | succ index ih =>
    obtain ⟨inside,start_tick,started,place⟩ := holds.place
    rw [get_next (show tick.toNat = (tick.sub 1).toNat + 1 by rw [Tick.toNat_sub]; omega),ih holds.before,
      value_at_of_raw _ (index + 1),
      holds.get_raw,held_take (by omega)]
    rfl

/-- The last tick of a buffer that has entries. -/
theorem last_tick_short (start_tick : Tick) {len : Nat} (some : 0 < len) (short : len < 2 ^ 31) :
    (last_tick start_tick len).toNat = min (start_tick.toNat + len - 1) (2 ^ 32 - 1) := by
  have cast : as_i32 (len - 1) = len - 1 := Int.bmod_eq_of_le (by omega) (by omega)
  rw [last_tick,Tick.toNat_add_signed,cast]
  omega

/-- A prediction is what is read at the tick, or at the last tick if that is before. -/
theorem predicts_iff (started : self.start_tick = some start_tick) (some : self.buffer ≠ [])
    (inside : start_tick ≤ tick)
    {value : Option S} :
    self.Predicts tick value ↔ self.Gets (min tick (last_tick start_tick self.buffer.length)) value := by
  simp only [Predicts,look_predict,started,if_neg (show ¬self.buffer.isEmpty by simpa using some),if_neg inside.not_gt]
  by_cases after : last_tick start_tick self.buffer.length < tick
  · rw [min_eq_right after.le]
    simp only [if_pos after]
    exact Iff.rfl
  · rw [min_eq_left (not_lt.mp after)]
    simp only [if_neg after]
    constructor
    · rintro ⟨visits,found⟩
      exact ⟨visits + 1,found⟩
    · rintro ⟨_ | visits,found⟩
      · cases found
      · exact ⟨visits,found⟩

/-- The entries of a buffer are those of its ticks. -/
theorem holds_iff (started : self.start_tick = some start_tick) (short : self.buffer.length < 2 ^ 31) :
    self.Holds tick index ↔ index < self.buffer.length ∧ tick.toNat = start_tick.toNat + index := by
  constructor
  · intro holds
    obtain ⟨inside,start,isStart,place⟩ := holds.place
    obtain rfl := Option.some.inj (started.symm.trans isStart)
    exact ⟨inside,place⟩
  · rintro ⟨inside,place⟩
    have some : self.buffer ≠ [] := List.ne_nil_of_length_pos (by omega)
    have last := last_tick_short start_tick (List.length_pos_of_ne_nil some) short
    refine ⟨start_tick,started,some,?_,?_,?_⟩
    · rw [Tick.le_iff]
      omega
    · have := tick.isLt
      rw [Tick.le_iff]
      omega
    · rw [Tick.diff]
      omega

theorem gets_of_empty (empty : self.buffer = []) (tick : Tick) : self.Gets tick none := by
  refine ⟨1,?_⟩
  rw [look,get_raw_of_not_holds fun _ holds => absurd holds.place.1 (by simp [empty])]

theorem pop_empty (empty : self.buffer = []) (tick : Tick) :
    (self.pop tick).1 = none ∧ (self.pop tick).2.buffer = [] := by
  unfold InputBuffer.pop
  split
  · exact ⟨rfl,empty⟩
  · split_ifs
    · exact ⟨rfl,empty⟩
    · exact ⟨rfl,rfl⟩
    · simp [empty,resumed,last_popped]

/-- The first tick that stays after the ticks up to one are removed. -/
private theorem next_toNat (tick : Tick) : (tick.add_signed 1).toNat = min (tick.toNat + 1) (2 ^ 32 - 1) := by
  rw [Tick.toNat_add_signed]
  omega

/-- Removes entries of the buffer. -/
private theorem pop_inside (started : self.start_tick = some start_tick) (some : self.buffer ≠ [])
    (short : self.buffer.length < 2 ^ 31)
    (after : start_tick ≤ tick) (inside : tick ≤ last_tick start_tick self.buffer.length) :
    let count := (tick.add_signed 1).toNat - start_tick.toNat
    self.pop tick = (held (self.buffer.take count),
      {self with buffer := resumed (last_popped (self.buffer.take count)) (self.buffer.drop count)
                 start_tick := Option.some (tick.add_signed 1)}) := by
  intro count
  have next := next_toNat tick
  have last := last_tick_short start_tick (List.length_pos_of_ne_nil some) short
  have diff : ((tick.add_signed 1).diff start_tick).toNat = count := by
    rw [Tick.le_iff] at after inside
    rw [Tick.diff]
    omega
  simp only [InputBuffer.pop,started,if_neg after.not_gt,if_neg inside.not_gt,diff]
  rw [← keep_last_popped]
  cases last_popped (self.buffer.take count) <;> rfl

/-- What is read after the ticks that are removed does not change. -/
theorem Gets.pop {later : Tick} {value : Option S} (short : self.buffer.length < 2 ^ 31)
    (after : tick.add_signed 1 ≤ later)
    (gets : self.Gets later value) : (self.pop tick).2.Gets later value := by
  have next := next_toNat tick
  rw [Tick.le_iff] at after
  cases started : self.start_tick with
  | none =>
    simp only [InputBuffer.pop,started]
    exact gets
  | some start_tick =>
    obtain ⟨ends,found⟩ := gets_iff.mp gets
    by_cases before : tick < start_tick
    · simp only [InputBuffer.pop,started,if_pos before]
      exact gets
    by_cases empty : self.buffer = []
    · obtain rfl : none = value := (gets_iff.mp (gets_of_empty empty later)).2.symm.trans found
      exact gets_of_empty (pop_empty empty tick).2 later
    have last := last_tick_short start_tick (List.length_pos_of_ne_nil empty) short
    have inside := not_lt.mp before
    rw [not_lt,Tick.le_iff] at before
    by_cases beyond : last_tick start_tick self.buffer.length < tick
    · have none : self.get later = none := get_of_not_holds fun index holds => by
        rw [holds_iff started short] at holds
        rw [Tick.lt_iff] at beyond
        have := later.isLt
        omega
      simp only [InputBuffer.pop,started,if_neg inside.not_gt,if_pos beyond]
      rw [← found,none]
      exact gets_of_empty rfl later
    · rw [not_lt,Tick.le_iff] at beyond
      rw [pop_inside started empty short inside beyond,gets_iff]
      refine ⟨fun endless => ?_,?_⟩
      · have zero := congrArg BitVec.toNat (Option.some.inj endless.1)
        have : (0 : Tick).toNat = 0 := rfl
        omega
      · generalize isCount : (tick.add_signed 1).toNat - start_tick.toNat = count
        have holds (index : Nat) : Holds {self with
            buffer := resumed (last_popped (self.buffer.take count)) (self.buffer.drop count)
            start_tick := some (tick.add_signed 1)} later index ↔ self.Holds later (index + count) := by
          rw [holds_iff started short,holds_iff rfl (by simp; omega),length_resumed,List.length_drop]
          omega
        by_cases outside : ∀ index, ¬self.Holds later index
        · rw [get_of_not_holds fun index => mt (holds index).mp (outside _),← found,get_of_not_holds outside]
        · push Not at outside
          obtain ⟨index,isHeld⟩ := outside
          have place := (holds_iff started short).mp isHeld
          have stays : index - count + count = index := by omega
          rw [((holds (index - count)).mpr (stays.symm ▸ isHeld)).get,value_at_resumed _ (by omega),← found,isHeld.get]

/-- What is returned for the last tick that is removed. -/
theorem Gets.popped {value : Option S} (short : self.buffer.length < 2 ^ 31) (below : tick < Tick.MAX)
    (gets : self.Gets tick value) : (self.pop tick).1 = value := by
  obtain ⟨-,found⟩ := gets_iff.mp gets
  have next := next_toNat tick
  have below : tick.toNat < 2 ^ 32 - 1 := below
  rw [← found]
  cases started : self.start_tick with
  | none =>
    rw [get_of_unset started]
    simp only [InputBuffer.pop,started]
  | some start_tick =>
    by_cases before : tick < start_tick
    · rw [get_of_before started before]
      simp only [InputBuffer.pop,started,if_pos before]
    have inside := not_lt.mp before
    rw [not_lt,Tick.le_iff] at before
    by_cases empty : self.buffer = []
    · rw [(pop_empty empty tick).1,(gets_iff.mp (gets_of_empty empty tick)).2]
    have last := last_tick_short start_tick (List.length_pos_of_ne_nil empty) short
    by_cases beyond : last_tick start_tick self.buffer.length < tick
    · have none : self.get tick = none := get_of_not_holds fun index holds => by
        rw [holds_iff started short] at holds
        rw [Tick.lt_iff] at beyond
        omega
      rw [none]
      simp only [InputBuffer.pop,started,if_neg inside.not_gt,if_pos beyond]
    · rw [pop_inside started empty short inside (not_lt.mp beyond)]
      rw [not_lt,Tick.le_iff] at beyond
      have positive := List.length_pos_of_ne_nil empty
      have holds : self.Holds tick (tick.toNat - start_tick.toNat) := (holds_iff started short).mpr (by omega)
      rw [holds.get,← held_take holds.place.1]
      refine congrArg held (congrArg (self.buffer.take ·) ?_)
      omega

theorem predicts_of_empty (empty : self.buffer = []) {value : Option S} : self.Predicts tick value ↔ value = none := by
  have found (visits : Nat) : self.look_predict visits tick = some none := by
    unfold look_predict
    split
    · rfl
    · rw [if_pos (by simp [empty])]
  exact ⟨fun ⟨visits,isFound⟩ => (Option.some.inj ((found visits).symm.trans isFound)).symm,
    fun none => ⟨0,none ▸ found 0⟩⟩

/-- A prediction after the ticks that are removed does not change as long as an entry stays. -/
theorem Predicts.pop {later : Tick} {value : Option S} (short : self.buffer.length < 2 ^ 31)
    (stays : ∀ last ∈ self.end_tick, tick.add_signed 1 ≤ last) (after : tick.add_signed 1 ≤ later)
    (predicts : self.Predicts later value) : (self.pop tick).2.Predicts later value := by
  have next := next_toNat tick
  cases started : self.start_tick with
  | none =>
    simp only [InputBuffer.pop,started]
    exact predicts
  | some start_tick =>
    by_cases before : tick < start_tick
    · simp only [InputBuffer.pop,started,if_pos before]
      exact predicts
    by_cases empty : self.buffer = []
    · exact (predicts_of_empty (pop_empty empty tick).2).mpr ((predicts_of_empty empty).mp predicts)
    have atMost := stays (last_tick start_tick self.buffer.length) (by rw [end_tick,started]; rfl)
    have le : tick ≤ tick.add_signed 1 := by
      have := tick.isLt
      rw [Tick.le_iff]
      omega
    have same := pop_inside started empty short (not_lt.mp before) (le.trans atMost)
    rw [predicts_iff started empty ((not_lt.mp before).trans (le.trans after))] at predicts
    have kept := Gets.pop short (le_min after atMost) predicts
    rw [same] at kept ⊢
    have last := last_tick_short start_tick (List.length_pos_of_ne_nil empty) short
    rw [Tick.le_iff] at atMost
    rw [not_lt,Tick.le_iff] at before
    have positive := List.length_pos_of_ne_nil empty
    have ends : last_tick (tick.add_signed 1)
      (resumed (last_popped (self.buffer.take ((tick.add_signed 1).toNat - start_tick.toNat)))
        (self.buffer.drop ((tick.add_signed 1).toNat - start_tick.toNat))).length =
          last_tick start_tick self.buffer.length := by
      refine BitVec.eq_of_toNat_eq ?_
      rw [last,last_tick_short _ (by simp; omega) (by simp; omega),length_resumed,List.length_drop]
      omega
    rw [predicts_iff rfl (List.ne_nil_of_length_pos (by simp; omega)) after,ends]
    exact kept

/-- The prediction after the buffer, when its last input is absent. -/
private theorem predicts_none_after {value : Option S} (started : self.start_tick = some start_tick)
    (some : self.buffer ≠ [])
    (after : last_tick start_tick self.buffer.length ≤ tick) (inside : start_tick ≤ tick)
    (absent : self.get (last_tick start_tick self.buffer.length) = none) (predicts : self.Predicts tick value) :
    value = none := by
  rw [predicts_iff started some inside,min_eq_right after] at predicts
  exact (gets_iff.mp predicts).2.symm.trans absent

end

/-- Removing the ticks before the last one, or a tick before the buffer. -/
private theorem predicts_pop_early {self : InputBuffer S} {tick later : Tick} {value : Option S}
    (short : self.buffer.length < 2 ^ 31)
    (early : ∀ last ∈ self.end_tick, tick < last)
    (after : tick < later ∨ ∀ start_tick ∈ self.start_tick, tick < start_tick)
    (predicts : self.Predicts later value) : (self.pop tick).2.Predicts later value := by
  have next := next_toNat tick
  rcases after with after | before
  · refine predicts.pop short (fun last isLast => ?_) ?_
    · have := early last isLast
      rw [Tick.lt_iff] at this
      rw [Tick.le_iff]
      omega
    · rw [Tick.lt_iff] at after
      rw [Tick.le_iff]
      omega
  · cases started : self.start_tick with
    | none =>
      simp only [InputBuffer.pop,started]
      exact predicts
    | some start_tick =>
      simp only [InputBuffer.pop,started,if_pos (before start_tick started)]
      exact predicts

/-- Removing the last tick, whose input is absent. -/
private theorem predicts_pop_all {self : InputBuffer S} {tick start_tick later : Tick}
    (started : self.start_tick = some start_tick)
    (some : self.buffer ≠ []) (short : self.buffer.length < 2 ^ 31) (inside : start_tick ≤ tick)
    (all : last_tick start_tick self.buffer.length ≤ tick) (after : tick ≤ later)
    (predicts : self.Predicts later none) :
    (self.pop tick).2.Predicts later none := by
  have next := next_toNat tick
  have last := last_tick_short start_tick (List.length_pos_of_ne_nil some) short
  have small := later.isLt
  have positive := List.length_pos_of_ne_nil some
  rcases all.lt_or_eq with beyond | isLast
  · simp only [InputBuffer.pop,started,if_neg inside.not_gt,if_pos beyond]
    exact (predicts_of_empty rfl).mpr rfl
  · rw [Tick.le_iff] at after
    by_cases greatest : tick.toNat = 2 ^ 32 - 1
    · -- The tick after the largest one is the largest one, which stays.
      refine predicts.pop short (fun last' isLast' => ?_) ?_
      · rw [end_tick,started,Option.map_some,Option.mem_some_iff] at isLast'
        rw [← isLast',isLast,Tick.le_iff]
        omega
      · rw [Tick.le_iff]
        omega
    · rw [pop_inside started some short inside isLast.ge,predicts_of_empty]
      rw [← List.length_eq_zero_iff,length_resumed,List.length_drop]
      rw [← BitVec.toNat_inj] at isLast
      rw [Tick.le_iff] at inside
      omega

/-- A prediction is the same after `pop_keeping_last`: that for a later tick, and that for the tick itself if it is not
before the last one, which stays. -/
theorem Predicts.pop_keeping_last {self : InputBuffer S} {tick later : Tick} {value : Option S}
    (short : self.buffer.length < 2 ^ 31)
    (positive : ∀ last ∈ self.end_tick, 0 < last)
    (after : tick < later ∨ tick = later ∧
      ((∀ start_tick ∈ self.start_tick, tick < start_tick) ∨ ∀ last ∈ self.end_tick, last ≤ tick))
    (predicts : self.Predicts later value) : (self.pop_keeping_last tick).2.Predicts later value := by
  cases started : self.start_tick with
  | none =>
    have none : self.get_last_with_tick = none := by simp only [get_last_with_tick,started]
    simp only [InputBuffer.pop_keeping_last,none,InputBuffer.pop,started]
    exact predicts
  | some start_tick =>
    have isEnd : self.end_tick = some (last_tick start_tick self.buffer.length) := by rw [end_tick,started]; rfl
    by_cases empty : self.buffer = []
    · have none : self.get_last_with_tick = none := by simp [get_last_with_tick,started,empty]
      simp only [InputBuffer.pop_keeping_last,none]
      exact (predicts_of_empty (pop_empty empty tick).2).mpr ((predicts_of_empty empty).mp predicts)
    have least := positive _ isEnd
    have later_le : tick ≤ later := after.elim le_of_lt fun same => same.1.le
    generalize isLast : last_tick start_tick self.buffer.length = last at *
    have lookup : self.get_last_with_tick = (self.get last).map (last,·) := by
      simp only [get_last_with_tick,started,isLast]
      rw [if_neg (by simpa using empty)]
    have early : tick < last → tick < later ∨ ∀ start_tick ∈ self.start_tick, tick < start_tick := fun before =>
      after.imp_right fun same => same.2.resolve_right fun all => (all last isEnd).not_gt before
    cases found : self.get last with
    | none =>
      simp only [InputBuffer.pop_keeping_last,lookup,found,Option.map_none]
      by_cases before : tick < last
      · exact predicts_pop_early short (fun last' isLast' => by rwa [← Option.some.inj (isEnd.symm.trans isLast')])
          (early before) predicts
      · by_cases outside : tick < start_tick
        · simp only [InputBuffer.pop,started,if_pos outside]
          exact predicts
        · have inside := not_lt.mp outside
          have all := not_lt.mp before
          subst isLast
          obtain rfl := predicts_none_after started empty (all.trans later_le) (inside.trans later_le) found predicts
          exact predicts_pop_all started empty short inside all later_le predicts
    | some input =>
      simp only [InputBuffer.pop_keeping_last,lookup,found,Option.map_some]
      split
      · next all =>
        have before : last.sub 1 < last := by
          rw [Tick.lt_iff] at least ⊢
          rw [Tick.toNat_sub]
          have : (0 : Tick).toNat = 0 := rfl
          omega
        exact predicts_pop_early short (fun last' isLast' => by rwa [← Option.some.inj (isEnd.symm.trans isLast')])
          (.inl (before.trans_le (all.trans later_le))) predicts
      · next before =>
        exact predicts_pop_early short (fun last' isLast' => by
          rw [← Option.some.inj (isEnd.symm.trans isLast')]
          exact not_le.mp before) (early (not_le.mp before)) predicts

/-- Removing ticks returns the input of the last of them and keeps what is read after them, and what is predicted from
there on if the last entry is kept. -/
theorem popping_keeps (self : InputBuffer S) (tick : Tick) (short : self.buffer.length < 2 ^ 31) :
    (∀ later value, tick < later → self.Gets later value → (self.pop tick).2.Gets later value) ∧
    (tick < Tick.MAX → ∀ value, self.Gets tick value → (self.pop tick).1 = value) ∧
    ((∀ last ∈ self.end_tick, 0 < last) → ∀ later value,
      (tick < later ∨ tick = later ∧
        ((∀ start_tick ∈ self.start_tick, tick < start_tick) ∨ ∀ last ∈ self.end_tick, last ≤ tick)) →
      self.Predicts later value → (self.pop_keeping_last tick).2.Predicts later value) := by
  refine ⟨fun later value after gets => gets.pop short ?_,fun below value gets => gets.popped short below,
    fun positive later value after predicts => predicts.pop_keeping_last short positive after⟩
  have next := next_toNat tick
  rw [Tick.lt_iff] at after
  rw [Tick.le_iff]
  omega

/-- Two of three ticks are removed, and the marker of the third becomes the input that it stands for. -/
theorem popping_keeps_resumed :
    Gets (pop (⟨some 10,[.Input 7,.SameAsPrecedent,.SameAsPrecedent],none⟩ : InputBuffer Nat) 11).2 12 (some 7) ∧
    (pop (⟨some 10,[.Input 7,.SameAsPrecedent,.SameAsPrecedent],none⟩ : InputBuffer Nat) 11).1 = some 7 ∧
    Predicts (pop_keeping_last
      (⟨some 10,[.Input 7,.SameAsPrecedent,.SameAsPrecedent],none⟩ : InputBuffer Nat) 12).2 12 (some 7) := by
  obtain ⟨gets,popped,predicts⟩ :=
    popping_keeps (⟨some 10,[.Input 7,.SameAsPrecedent,.SameAsPrecedent],none⟩ : InputBuffer Nat) 11 (by decide)
  obtain ⟨-,-,predicts⟩ :=
    popping_keeps (⟨some 10,[.Input 7,.SameAsPrecedent,.SameAsPrecedent],none⟩ : InputBuffer Nat) 12 (by decide)
  refine ⟨gets 12 _ (by decide) ⟨3,rfl⟩,popped (by decide) _ ⟨2,rfl⟩,
    predicts (fun last isLast => ?_) 12 _ (.inr ⟨rfl,.inr ?_⟩) ⟨2,rfl⟩⟩
  · obtain rfl : (12 : Tick) = last := Option.some.inj isLast
    decide
  · intro last isLast
    obtain rfl : (12 : Tick) = last := Option.some.inj isLast
    decide

open NativeStateSequence (native)

/-- The first of two ticks is removed, and then there is no prediction for it. -/
theorem popped_prediction_lost : ¬ ∀ self : InputBuffer (ActionState Nat),
    Runs.Reaches (fun before call => some (before.call (native (A := Nat)) call)) (fun _ _ _ => True) default self →
    ∀ tick later value, tick ≤ later → self.Predicts later value →
      (self.pop_keeping_last tick).2.Predicts later value := by
  intro keeps
  have reached : Runs.Reaches (fun before call => some (before.call (native (A := Nat)) call))
    (fun _ _ _ => True) default
      ⟨some 10,[.Input ⟨1⟩,.Input ⟨2⟩],none⟩ := .step (.set 11 ⟨2⟩) (.step (.set 10 ⟨1⟩) .start rfl trivial) rfl trivial
  obtain ⟨visits,found⟩ := keeps _ reached 10 10 (some ⟨1⟩) le_rfl ⟨0,rfl⟩
  cases found

end InputBuffer
end Lightyear.Inputs
