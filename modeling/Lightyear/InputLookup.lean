import Lightyear.InputBuffer

/-!
How a lookup in the buffer ends. A marker sends it to the tick before, and as ticks
stop at 0 the tick before tick 0 is tick 0.
-/
namespace Lightyear.Inputs
open Message

namespace InputBuffer
variable {S : Type}

/-- `get`, with a bound on the entries that it visits. -/
def look (self : InputBuffer S) : (visits : Nat) → Tick → Option (Option S)
  | 0,_ => none
  | visits + 1,tick =>
    match self.get_raw tick with
    | .Absent => some none
    | .SameAsPrecedent => self.look visits (tick.sub 1)
    | .Input value => some (some value)

/-- `get` returns a value. -/
def Gets (self : InputBuffer S) (tick : Tick) (value : Option S) : Prop := ∃ visits, self.look visits tick = some value

/-- The index of the entry of a tick. -/
def Holds (self : InputBuffer S) (tick : Tick) (index : Nat) : Prop :=
  ∃ start_tick, self.start_tick = some start_tick ∧ self.buffer ≠ [] ∧ start_tick ≤ tick ∧
    tick ≤ last_tick start_tick self.buffer.length ∧ index = (tick.diff start_tick).toNat

/-- A lookup that comes to tick 0, and stays there. -/
def Endless (self : InputBuffer S) (tick : Tick) : Prop :=
  self.start_tick = some 0 ∧ ∃ index, self.Holds tick index ∧ ∀ earlier ≤ index, self.buffer[earlier]? =
    some .SameAsPrecedent

section
variable {self : InputBuffer S} {tick : Tick} {index : Nat}

/-- The end of a buffer that holds a tick is one of its entries, also if its length does not fit into an `i32`. -/
private theorem last_tick_le (start_tick : Tick) {len : Nat} (some : 0 < len) :
    (last_tick start_tick len).toNat ≤ start_tick.toNat + (len - 1) ∧
      (last_tick start_tick len).toNat ≤ start_tick.toNat + (2 ^ 31 - 1) := by
  have cast : as_i32 (len - 1) ≤ len - 1 ∧ as_i32 (len - 1) ≤ 2 ^ 31 - 1 := by
    rw [as_i32,Int.bmod_def]
    split <;> omega
  rw [last_tick,Tick.toNat_add_signed]
  omega

theorem Holds.place (holds : self.Holds tick index) :
    index < self.buffer.length ∧ ∃ start_tick, self.start_tick = some start_tick ∧
      tick.toNat = start_tick.toNat + index := by
  obtain ⟨start_tick,started,some,after,inside,rfl⟩ := holds
  have positive := List.length_pos_of_ne_nil some
  have last := last_tick_le start_tick positive
  rw [Tick.le_iff] at after inside
  rw [Tick.diff]
  exact ⟨by omega,start_tick,started,by omega⟩

theorem Holds.get_raw (holds : self.Holds tick index) : self.buffer[index]? = some (self.get_raw tick) := by
  have place := holds.place.1
  obtain ⟨start_tick,started,some,after,inside,rfl⟩ := holds
  simp only [InputBuffer.get_raw,started]
  rw [if_neg (by simpa using some),if_neg (by simp [not_lt,after,inside]),List.getElem?_eq_getElem place,
    Option.getD_some]

theorem get_raw_of_not_holds (outside : ∀ index, ¬self.Holds tick index) : self.get_raw tick = .Absent := by
  unfold InputBuffer.get_raw
  split
  · rfl
  · next start_tick started =>
    split_ifs with empty range
    · rfl
    · rfl
    · simp only [not_or,not_lt] at range
      exact absurd ⟨start_tick,started,by simpa using empty,range.1,range.2,rfl⟩ (outside _)

theorem Holds.before (holds : self.Holds tick (index + 1)) : self.Holds (tick.sub 1) index := by
  obtain ⟨-,_,started',place⟩ := holds.place
  obtain ⟨start_tick,started,some,after,inside,-⟩ := holds
  obtain rfl := Option.some.inj (started.symm.trans started')
  rw [Tick.le_iff] at inside
  have := last_tick_le start_tick (List.length_pos_of_ne_nil some)
  refine ⟨start_tick,started,some,?_,?_,?_⟩
  · rw [Tick.le_iff,Tick.toNat_sub]
    omega
  · rw [Tick.le_iff,Tick.toNat_sub]
    omega
  · rw [Tick.diff,Tick.toNat_sub]
    omega

/-- What a lookup finds is the value of the tick. -/
theorem get_of_look {visits : Nat} {value : Option S} (found : self.look visits tick = some value) :
    self.get tick = value := by
  induction visits generalizing tick with
  | zero => cases found
  | succ visits ih =>
    rw [look] at found
    by_cases zero : tick.toNat = 0
    · have same : tick.sub 1 = tick := BitVec.eq_of_toNat_eq (by rw [Tick.toNat_sub]; omega)
      have first : BitVec.ofNat 32 0 = tick := BitVec.eq_of_toNat_eq (by simp [zero])
      split at found
      · next raw =>
        rw [get,zero,get_number,first,raw]
        exact Option.some.inj found
      · rw [same] at found
        exact ih found
      · next raw =>
        rw [get,zero,get_number,first,raw]
        exact Option.some.inj found
    · have next : tick.toNat = (tick.sub 1).toNat + 1 := by
        rw [Tick.toNat_sub]
        omega
      rw [get_next next]
      split at found
      · next raw => rw [raw]; exact Option.some.inj found
      · next raw => rw [raw]; exact ih found
      · next raw => rw [raw]; exact Option.some.inj found

/-- A lookup ends at the nearest entry that is not a marker. -/
theorem Holds.look_back {earlier : Nat} {entry : Compressed S} (holds : self.Holds tick index) (le : earlier ≤ index)
    (explicit : self.buffer[earlier]? = some entry) (noMarker : entry ≠ .SameAsPrecedent)
    (between : ∀ later, earlier < later → later ≤ index → self.buffer[later]? = some .SameAsPrecedent) :
    self.look (index - earlier + 1) tick = some (keep none entry) := by
  induction index,le using Nat.le_induction generalizing tick with
  | base =>
    obtain rfl : entry = self.get_raw tick := Option.some.inj (explicit.symm.trans holds.get_raw)
    rw [Nat.sub_self,look]
    cases raw : self.get_raw tick with
    | SameAsPrecedent => exact absurd raw noMarker
    | Absent | Input _ => rfl
  | succ index le ih =>
    have raw : self.get_raw tick = .SameAsPrecedent :=
      Option.some.inj (holds.get_raw.symm.trans (between (index + 1) (by omega) le_rfl))
    rw [Nat.succ_sub le,look,raw]
    exact ih holds.before fun later after within => between later after (within.trans (Nat.le_succ index))

/-- Before any entry there is a last one that is not a marker, or all of them are markers. -/
theorem explicit_or_markers (entries : List (Compressed S)) {index : Nat} (inside : index < entries.length) :
    (∃ earlier ≤ index, ∃ entry, entries[earlier]? = some entry ∧ entry ≠ .SameAsPrecedent ∧
      ∀ later, earlier < later → later ≤ index → entries[later]? = some .SameAsPrecedent) ∨
    ∀ earlier ≤ index, entries[earlier]? = some .SameAsPrecedent := by
  have stored {index : Nat} (inside : index < entries.length) := List.getElem?_eq_getElem inside
  induction index with
  | zero =>
    by_cases marker : entries[0] = .SameAsPrecedent
    · refine .inr fun earlier le => ?_
      rw [Nat.le_zero.mp le,stored inside,marker]
    · exact .inl ⟨0,le_rfl,_,stored inside,marker,fun later after within => by omega⟩
  | succ index ih =>
    by_cases marker : entries[index + 1] = .SameAsPrecedent
    · have last : entries[index + 1]? = some .SameAsPrecedent := (stored inside).trans (congrArg some marker)
      rcases ih (by omega) with ⟨earlier,le,entry,explicit,noMarker,between⟩ | all
      · refine .inl ⟨earlier,by omega,entry,explicit,noMarker,fun later after within => ?_⟩
        rcases Nat.le_succ_iff.mp within with within | rfl
        · exact between later after within
        · exact last
      · refine .inr fun earlier le => ?_
        rcases Nat.le_succ_iff.mp le with le | rfl
        · exact all earlier le
        · exact last
    · exact .inl ⟨index + 1,le_rfl,_,stored inside,marker,fun later after within => by omega⟩

/-- A lookup goes from markers to the tick before the buffer. -/
private theorem Holds.look_before {start_tick : Tick} (started : self.start_tick = some start_tick)
    (positive : 0 < start_tick.toNat) (holds : self.Holds tick index)
    (markers : ∀ earlier ≤ index, self.buffer[earlier]? = some .SameAsPrecedent) :
    self.look (index + 2) tick = some none := by
  induction index generalizing tick with
  | zero =>
    have raw : self.get_raw tick = .SameAsPrecedent := Option.some.inj (holds.get_raw.symm.trans (markers 0 le_rfl))
    obtain ⟨-,_,started',place⟩ := holds.place
    obtain rfl := Option.some.inj (started.symm.trans started')
    have outside : ∀ index, ¬self.Holds (tick.sub 1) index := by
      intro index holds
      obtain ⟨-,_,started',place'⟩ := holds.place
      obtain rfl := Option.some.inj (started.symm.trans started')
      rw [Tick.toNat_sub] at place'
      omega
    rw [look,raw]
    simp only [look,get_raw_of_not_holds outside]
  | succ index ih =>
    have raw : self.get_raw tick = .SameAsPrecedent := Option.some.inj (holds.get_raw.symm.trans (markers _ le_rfl))
    rw [look,raw]
    exact ih holds.before fun earlier le => markers earlier (le.trans (Nat.le_succ index))

/-- A lookup that comes to tick 0 has no end. -/
theorem Endless.look (endless : self.Endless tick) (visits : Nat) : self.look visits tick = none := by
  induction visits generalizing tick with
  | zero => rfl
  | succ visits ih =>
    obtain ⟨started,index,holds,markers⟩ := endless
    have raw : self.get_raw tick = .SameAsPrecedent := Option.some.inj (holds.get_raw.symm.trans (markers index le_rfl))
    rw [InputBuffer.look,raw]
    refine ih ⟨started,?_⟩
    cases index with
    | zero =>
      obtain ⟨-,_,started',place⟩ := holds.place
      obtain rfl := Option.some.inj (started.symm.trans started')
      have same : tick.sub 1 = tick := BitVec.eq_of_toNat_eq (by rw [Tick.toNat_sub]; simp at place; omega)
      rw [same]
      exact ⟨0,holds,markers⟩
    | succ index => exact ⟨index,holds.before,fun earlier le => markers earlier (le.trans (Nat.le_succ index))⟩

/-- A lookup ends unless it comes to tick 0. -/
theorem look_of_not_endless (ends : ¬self.Endless tick) : ∃ visits value, self.look visits tick = some value := by
  by_cases outside : ∀ index, ¬self.Holds tick index
  · refine ⟨1,none,?_⟩
    rw [look,get_raw_of_not_holds outside]
  · push Not at outside
    obtain ⟨index,holds⟩ := outside
    rcases explicit_or_markers self.buffer holds.place.1 with ⟨earlier,le,entry,explicit,noMarker,between⟩ | markers
    · exact ⟨_,_,holds.look_back le explicit noMarker between⟩
    · obtain ⟨-,start_tick,started,-⟩ := holds.place
      refine ⟨_,_,holds.look_before started (Nat.pos_of_ne_zero fun zero => ends ⟨?_,index,holds,markers⟩) markers⟩
      rw [started]
      exact congrArg some (BitVec.eq_of_toNat_eq zero)

/-- What `get` returns, if it does. -/
theorem gets_iff {value : Option S} : self.Gets tick value ↔ ¬self.Endless tick ∧ self.get tick = value := by
  constructor
  · rintro ⟨visits,found⟩
    refine ⟨fun endless => ?_,get_of_look found⟩
    cases (endless.look visits).symm.trans found
  · rintro ⟨ends,rfl⟩
    obtain ⟨visits,value,found⟩ := look_of_not_endless ends
    exact ⟨visits,found.trans (congrArg some (get_of_look found).symm)⟩

end
end InputBuffer
end Lightyear.Inputs
