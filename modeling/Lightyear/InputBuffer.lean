import Lightyear.Tick

/-!
The inputs of a player by tick, `input_buffer.rs`. An entry that repeats the one
before it is kept as a marker, so that a buffer is read from the left.
-/
namespace Lightyear.Inputs
open Message

inductive Compressed (S : Type) where
  | Absent
  | SameAsPrecedent
  | Input (value : S)
deriving DecidableEq, Repr

variable {S : Type}

/-- `Compressed::from` -/
def Compressed.from_option : Option S → Compressed S
  | some value => .Input value
  | none => .Absent

structure InputBuffer (S : Type) where
  start_tick : Option Tick
  buffer : List (Compressed S)
  last_remote_tick : Option Tick
deriving DecidableEq, Repr

/-- What a cast or a wrapping operation leaves in an `i32`. -/
def as_i32 (value : Int) : Int := value.bmod (2 ^ 32)

/-- `start_tick + (len as i32 - 1)` -/
def last_tick (start_tick : Tick) (len : Nat) : Tick := start_tick.add_signed (as_i32 (len - 1))

namespace InputBuffer

def default : InputBuffer S := ⟨none,[],none⟩

def len (self : InputBuffer S) : Nat := self.buffer.length

def end_tick (self : InputBuffer S) : Option Tick := self.start_tick.map (last_tick · self.buffer.length)

/-- Removes the entries after a tick. -/
def clip_after (self : InputBuffer S) (tick : Tick) : InputBuffer S :=
  match self.start_tick with
  | none => self
  | some start_tick =>
    if tick < start_tick then {self with start_tick := none,buffer := []} else
    if last_tick start_tick self.buffer.length ≤ tick then self else
      {self with buffer := self.buffer.take (tick.diff start_tick + 1).toNat}

/-- Extends the buffer to a range of ticks, with absent inputs. -/
def extend_to_range (self : InputBuffer S) (start_tick end_tick : Tick) : InputBuffer S :=
  let current_start := self.start_tick.getD start_tick
  let (current_start,buffer) :=
    if start_tick < current_start
    then (start_tick,List.replicate (current_start.diff start_tick).toNat .Absent ++ self.buffer)
    else (current_start,self.buffer)
  let current_end := last_tick current_start buffer.length
  let buffer := if current_end < end_tick then buffer ++ List.replicate (end_tick.diff current_end).toNat .Absent
    else buffer
  {self with start_tick := some current_start,buffer}

/-- Sets the entry of a tick, after filling the ticks up to it with markers. The source indexes the entry,
which is there. -/
def set_raw (self : InputBuffer S) (tick : Tick) (value : Compressed S) : InputBuffer S :=
  match self.start_tick with
  | none => {self with start_tick := some tick,buffer := self.buffer ++ [value]}
  | some start_tick =>
    if tick < start_tick then self else
      let end_tick := last_tick start_tick self.buffer.length
      let filled := if end_tick < tick
        then self.buffer ++ List.replicate (tick.diff end_tick - 1).toNat .SameAsPrecedent ++ [.Absent]
        else self.buffer
      {self with buffer := filled.set (tick.diff start_tick).toNat value}

/-- The entry of a tick, `Absent` outside of the buffer. -/
def get_raw (self : InputBuffer S) (tick : Tick) : Compressed S :=
  match self.start_tick with
  | none => .Absent
  | some start_tick =>
    if self.buffer.isEmpty then .Absent else
    if tick < start_tick ∨ last_tick start_tick self.buffer.length < tick then .Absent else
      (self.buffer[(tick.diff start_tick).toNat]?).getD .Absent

/-- A marker stands for the entry of the tick before. At tick 0 the source would ask for tick 0 again, without end. -/
def get_number (self : InputBuffer S) : Nat → Option S
  | 0 => match self.get_raw (BitVec.ofNat 32 0) with
    | .Input value => some value
    | _ => none
  | tick + 1 => match self.get_raw (BitVec.ofNat 32 (tick + 1)) with
    | .Absent => none
    | .SameAsPrecedent => self.get_number tick
    | .Input value => some value

/-- The input of a tick, without prediction. -/
def get (self : InputBuffer S) (tick : Tick) : Option S := self.get_number tick.toNat

def get_last (self : InputBuffer S) : Option S :=
  match self.start_tick with
  | none => none
  | some start_tick => if self.buffer.isEmpty then none else self.get (last_tick start_tick self.buffer.length)

/-- The input of a tick; after the end of the buffer the last one. -/
def get_predict (self : InputBuffer S) (tick : Tick) : Option S :=
  match self.start_tick with
  | none => none
  | some start_tick =>
    if self.buffer.isEmpty then none else
    if tick < start_tick then none else
    if last_tick start_tick self.buffer.length < tick then self.get_last else
      match self.get_raw tick with
      | .Absent => none
      | .SameAsPrecedent => self.get (tick.sub 1)
      | .Input value => some value

/-- A new value; one that repeats the tick before is stored as a marker. -/
def set [DecidableEq S] (self : InputBuffer S) (tick : Tick) (value : S) : InputBuffer S :=
  if self.get (tick.sub 1) = some value then self.set_raw tick .SameAsPrecedent else self.set_raw tick (.Input value)

def set_empty (self : InputBuffer S) (tick : Tick) : InputBuffer S := self.set_raw tick .Absent

/-- The last tick of the buffer, with its input if it has one. -/
def get_last_with_tick (self : InputBuffer S) : Option (Tick × S) :=
  match self.start_tick with
  | none => none
  | some start_tick =>
    if self.buffer.isEmpty then none else
      let end_tick := last_tick start_tick self.buffer.length
      (self.get end_tick).map (end_tick,·)

/-- The last of the popped entries that is not a marker. -/
def last_popped (entries : List (Compressed S)) : Compressed S :=
  entries.foldl (fun popped data => match data with
    | .SameAsPrecedent => popped
    | data => data) .Absent

/-- A marker in front is replaced by what it stands for. -/
def resumed (popped : Compressed S) : List (Compressed S) → List (Compressed S)
  | .SameAsPrecedent :: rest => popped :: rest
  | rest => rest

/-- Removes the entries up to a tick, and returns its input. -/
def pop (self : InputBuffer S) (tick : Tick) : Option S × InputBuffer S :=
  match self.start_tick with
  | none => (none,self)
  | some start_tick =>
    if tick < start_tick then (none,self) else
    if last_tick start_tick self.buffer.length < tick then
      (none,{self with buffer := [],start_tick := some (tick.add_signed 1)}) else
      let count := ((tick.add_signed 1).diff start_tick).toNat
      let popped := last_popped (self.buffer.take count)
      let popped_value := match popped with
        | .Input value => some value
        | _ => none
      (popped_value,{self with
        buffer := resumed popped (self.buffer.drop count),start_tick := some (tick.add_signed 1)})

/-- Like `pop`, but the last entry stays. -/
def pop_keeping_last (self : InputBuffer S) (tick : Tick) : Option S × InputBuffer S :=
  match self.get_last_with_tick with
  | none => self.pop tick
  | some (last_tick,_) => self.pop (if last_tick ≤ tick then last_tick.sub 1 else tick)

end InputBuffer

/-- What an entry stands for after an input that is held. -/
def keep (held : Option S) : Compressed S → Option S
  | .Absent => none
  | .SameAsPrecedent => held
  | .Input value => some value

/-- The input that is held after a run of entries. -/
def held (entries : List (Compressed S)) : Option S := entries.foldl keep none

/-- The input that an entry of a list stands for. -/
def value_at (entries : List (Compressed S)) (index : Nat) : Option S :=
  if index < entries.length then held (entries.take (index + 1)) else none

@[simp] theorem held_nil : held ([] : List (Compressed S)) = none := rfl

@[simp]
theorem value_at_nil (index : Nat) : value_at ([] : List (Compressed S)) index = none := if_neg (Nat.not_lt_zero index)

@[simp] theorem held_append (entries : List (Compressed S)) (entry : Compressed S) :
    held (entries ++ [entry]) = keep (held entries) entry := by
  simp [held]

@[simp] theorem keep_from_option (before : Option S) (value : Option S) : keep before (.from_option value) = value := by
  cases value <;> rfl

theorem value_at_append (entries : List (Compressed S)) (entry : Compressed S) (index : Nat) :
    value_at (entries ++ [entry]) index = if index = entries.length then keep (held entries) entry
      else value_at entries index := by
  unfold value_at
  rcases lt_trichotomy index entries.length with before | rfl | after
  · rw [if_neg before.ne,if_pos before,if_pos (by simp; omega),List.take_append_of_le_length before]
  · rw [if_pos rfl,if_pos (by simp),List.take_of_length_le (by simp),held_append]
  · rw [if_neg after.ne',if_neg (by simp; omega),if_neg (by omega)]

theorem value_at_take (entries : List (Compressed S)) (count index : Nat) :
    value_at (entries.take count) index = if index < count then value_at entries index else none := by
  unfold value_at
  rw [List.length_take,List.take_take]
  by_cases inside : index < count
  · rw [if_pos inside,Nat.min_eq_left (Nat.succ_le_of_lt inside)]
    exact if_congr (by omega) rfl rfl
  · rw [if_neg inside,if_neg (by omega)]

theorem held_eq_value_at (entries : List (Compressed S)) : held entries = value_at entries (entries.length - 1) := by
  cases entries with
  | nil => rfl
  | cons entry entries =>
    rw [value_at,if_pos (by simp),List.take_of_length_le (by simp)]

theorem held_take {entries : List (Compressed S)} {index : Nat} (inside : index < entries.length) :
    held (entries.take (index + 1)) = value_at entries index := (if_pos inside).symm

theorem value_at_of_raw (entries : List (Compressed S)) (index : Nat) :
    value_at entries index = keep (held (entries.take index)) ((entries[index]?).getD .Absent) := by
  by_cases inside : index < entries.length
  · rw [value_at,if_pos inside,List.take_succ_eq_append_getElem inside,held_append,List.getElem?_eq_getElem inside,
      Option.getD_some]
  · rw [value_at,if_neg inside,List.getElem?_eq_none (by omega),Option.getD_none,keep]

theorem value_at_markers (entries : List (Compressed S)) (count index : Nat) :
    value_at (entries ++ List.replicate count .SameAsPrecedent) index =
      if index < entries.length then value_at entries index else
      if index < entries.length + count then held entries else none := by
  have same : ∀ count, held (entries ++ List.replicate count .SameAsPrecedent) = held entries := by
    intro count
    induction count with
    | zero => simp
    | succ count ih => rw [List.replicate_succ',← List.append_assoc,held_append,ih,keep]
  induction count with
  | zero =>
    rw [List.replicate_zero,List.append_nil]
    split
    · rfl
    · rw [if_neg (by omega),value_at,if_neg ‹_›]
  | succ count ih =>
    rw [List.replicate_succ',← List.append_assoc,value_at_append,ih,same,keep,List.length_append,List.length_replicate]
    split_ifs <;> first | rfl | omega

namespace InputBuffer

/-- The last entry that is not a marker stands for what is held. -/
@[simp] theorem keep_last_popped (entries : List (Compressed S)) : keep none (last_popped entries) = held entries := by
  induction entries using List.reverseRecOn with
  | nil => rfl
  | append_singleton entries entry ih =>
    rw [held_append,last_popped,List.foldl_append,List.foldl_cons,List.foldl_nil]
    cases entry with
    | SameAsPrecedent => exact ih
    | Absent | Input _ => rfl

@[simp] theorem length_resumed (popped : Compressed S) (rest : List (Compressed S)) :
    (resumed popped rest).length = rest.length := by
  unfold resumed
  split <;> rfl

/-- What follows the entries that are removed reads as before. -/
theorem value_at_resumed (entries : List (Compressed S)) {count index : Nat} (after : count ≤ index) :
    value_at (resumed (last_popped (entries.take count)) (entries.drop count)) (index - count) =
      value_at entries index := by
  have same (rest : List (Compressed S)) (place : Nat) (inside : place < rest.length) :
      held ((resumed (last_popped (entries.take count)) rest).take (place + 1)) =
        (rest.take (place + 1)).foldl keep (held (entries.take count)) := by
    cases rest with
    | nil => cases inside
    | cons entry rest =>
      rw [← keep_last_popped (entries.take count)]
      cases entry <;> rfl
  unfold value_at
  rw [length_resumed,List.length_drop]
  by_cases inside : index < entries.length
  · rw [if_pos (by omega),if_pos inside,same _ _ (by rw [List.length_drop]; omega),held,← List.foldl_append,
      ← List.take_add,held]
    congr 2
    omega
  · rw [if_neg (by omega),if_neg inside]

/-- The ticks of the buffer, and those before `limit`, are ticks that it can be extended to. -/
structure Fits (inputs : InputBuffer S) (limit : Nat) : Prop where
  unset : inputs.start_tick = none → inputs.buffer = []
  room : ∀ start_tick ∈ inputs.start_tick, 0 < start_tick.toNat + inputs.buffer.length ∧
    start_tick.toNat + inputs.buffer.length ≤ 2 ^ 32 ∧ inputs.buffer.length < 2 ^ 31 ∧ limit < start_tick.toNat + 2 ^ 31

section
variable {self : InputBuffer S} {start_tick : Tick} {limit : Nat}

theorem last_tick_toNat {len : Nat} (some : 0 < start_tick.toNat + len) (inRange : start_tick.toNat + len ≤ 2 ^ 32)
    (short : len < 2 ^ 31) : (last_tick start_tick len).toNat = start_tick.toNat + len - 1 := by
  have cast : as_i32 (len - 1) = len - 1 := Int.bmod_eq_of_le (by omega) (by omega)
  rw [last_tick,Tick.toNat_add_signed,cast]
  omega

theorem diff_toNat {tick : Tick} (after : start_tick.toNat ≤ tick.toNat)
    (near : tick.toNat < start_tick.toNat + 2 ^ 31) :
    tick.diff start_tick = (tick.toNat - start_tick.toNat : Nat) := by
  rw [Tick.diff]
  omega

theorem get_raw_eq (fits : self.Fits limit) (started : self.start_tick = some start_tick) (tick : Tick) :
    self.get_raw tick =
      if tick.toNat < start_tick.toNat then .Absent
        else (self.buffer[tick.toNat - start_tick.toNat]?).getD .Absent := by
  obtain ⟨positive,inRange,short,-⟩ := fits.room start_tick started
  have last := last_tick_toNat positive inRange short
  simp only [get_raw,started,Tick.lt_iff,last]
  by_cases empty : self.buffer = []
  · simp [empty]
  · rw [if_neg (by simpa using empty)]
    have := List.length_pos_of_ne_nil empty
    by_cases before : tick.toNat < start_tick.toNat
    · rw [if_pos (Or.inl before),if_pos before]
    · rw [if_neg before]
      by_cases after : start_tick.toNat + self.buffer.length - 1 < tick.toNat
      · rw [if_pos (Or.inr after),List.getElem?_eq_none (by omega),Option.getD_none]
      · rw [if_neg (by omega),diff_toNat (by omega) (by omega),Int.toNat_natCast]

theorem get_eq (fits : self.Fits limit) (started : self.start_tick = some start_tick) (tick : Tick) :
    self.get tick =
      if tick.toNat < start_tick.toNat then none else value_at self.buffer (tick.toNat - start_tick.toNat) := by
  have read : ∀ number, number < 2 ^ 32 → self.get_number number =
      if number < start_tick.toNat then none else value_at self.buffer (number - start_tick.toNat) := by
    intro number
    induction number with
    | zero =>
      intro _
      rw [get_number,get_raw_eq fits started,value_at_of_raw]
      by_cases first : start_tick.toNat = 0
      · simp only [BitVec.toNat_ofNat,Nat.zero_mod,first,lt_irrefl,if_false,Nat.sub_zero,List.take_zero,held_nil]
        cases (self.buffer[0]?).getD .Absent <;> rfl
      · simp [Nat.pos_of_ne_zero first]
    | succ number ih =>
      intro small
      rw [get_number,get_raw_eq fits started,BitVec.toNat_ofNat,Nat.mod_eq_of_lt small,ih (by omega)]
      rcases lt_trichotomy (number + 1) start_tick.toNat with before | first | after
      · rw [if_pos before,if_pos before]
      · rw [if_neg first.not_lt,if_neg first.not_lt,first,Nat.sub_self,value_at_of_raw _ 0,List.take_zero,held_nil,
          if_pos (by omega)]
        cases (self.buffer[0]?).getD .Absent <;> rfl
      · rw [if_neg (by omega),if_neg (by omega),if_neg (by omega),
          show number + 1 - start_tick.toNat = number - start_tick.toNat + 1 by omega,value_at_of_raw _ (_ + 1)]
        cases stored : self.buffer[number - start_tick.toNat + 1]? with
        | none => rfl
        | some entry =>
          rw [held_take (by have := (List.getElem?_eq_some_iff.mp stored).1; omega)]
          cases entry <;> rfl
  exact read tick.toNat tick.isLt

/-- The last tick that was received does not matter for what is read. -/
@[simp] theorem get_remote (last_remote_tick : Option Tick) (tick : Tick) :
    get {self with last_remote_tick} tick = self.get tick := by
  rw [get,get]
  induction tick.toNat with
  | zero => rfl
  | succ number ih =>
    rw [get_number,get_number,ih]
    rfl

/-- The input of a tick follows from its entry and the input of the tick before. -/
theorem get_next {tick next : Tick} (isNext : next.toNat = tick.toNat + 1) :
    self.get next = keep (self.get tick) (self.get_raw next) := by
  rw [get,isNext,get_number,← isNext,BitVec.ofNat_toNat,BitVec.setWidth_eq]
  cases self.get_raw next <;> rfl

theorem get_of_unset (unset : self.start_tick = none) (tick : Tick) : self.get tick = none := by
  rw [get]
  cases tick.toNat <;> rw [get_number,get_raw,unset]

theorem get_of_before (started : self.start_tick = some start_tick) {tick : Tick} (before : tick < start_tick) :
    self.get tick = none := by
  have absent : self.get_raw (BitVec.ofNat 32 tick.toNat) = .Absent := by
    simp [get_raw,started,before]
  rw [get]
  cases number : tick.toNat <;> rw [number] at absent <;> rw [get_number,absent]

theorem get_last_eq (fits : self.Fits limit) (started : self.start_tick = some start_tick) :
    self.get_last = held self.buffer := by
  obtain ⟨positive,inRange,short,-⟩ := fits.room start_tick started
  simp only [get_last,started]
  by_cases empty : self.buffer = []
  · simp [empty]
  · have := List.length_pos_of_ne_nil empty
    rw [if_neg (by simpa using empty),get_eq fits started,last_tick_toNat positive inRange short,if_neg (by omega),
      held_eq_value_at]
    congr 1
    omega

private theorem get_before (fits : self.Fits limit) (started : self.start_tick = some start_tick) {tick : Tick}
    (inside : start_tick.toNat ≤ tick.toNat) (stored : tick.toNat < start_tick.toNat + self.buffer.length)
    (marker : (self.buffer[tick.toNat - start_tick.toNat]?).getD .Absent = .SameAsPrecedent) :
    self.get (tick.sub 1) = held (self.buffer.take (tick.toNat - start_tick.toNat)) := by
  rw [get_eq fits started,Tick.toNat_sub]
  by_cases first : tick.toNat = start_tick.toNat
  · rw [first] at marker ⊢
    rw [Nat.sub_self] at marker ⊢
    by_cases zero : start_tick.toNat = 0
    · rw [zero,if_neg (by omega),value_at_of_raw,marker,Nat.sub_self]
      rfl
    · rw [if_pos (by omega)]
      rfl
  · rw [if_neg (by omega),value_at,if_pos (by omega)]
    congr 2
    omega

theorem get_predict_eq (fits : self.Fits limit) (started : self.start_tick = some start_tick) (tick : Tick) :
    self.get_predict tick =
      if tick.toNat < start_tick.toNat then none else
      if tick.toNat < start_tick.toNat + self.buffer.length then value_at self.buffer (tick.toNat - start_tick.toNat)
      else held self.buffer := by
  obtain ⟨positive,inRange,short,-⟩ := fits.room start_tick started
  simp only [get_predict,started,Tick.lt_iff,last_tick_toNat positive inRange short]
  by_cases empty : self.buffer = []
  · simp [empty]
  · have := List.length_pos_of_ne_nil empty
    rw [if_neg (by simpa using empty)]
    by_cases before : tick.toNat < start_tick.toNat
    · rw [if_pos before,if_pos before]
    · rw [if_neg before,if_neg before]
      by_cases after : start_tick.toNat + self.buffer.length ≤ tick.toNat
      · rw [if_pos (by omega),if_neg (by omega),get_last_eq fits started]
      · rw [if_neg (by omega),if_pos (by omega),get_raw_eq fits started,if_neg before,value_at_of_raw]
        cases marker : (self.buffer[tick.toNat - start_tick.toNat]?).getD .Absent with
        | SameAsPrecedent => exact get_before fits started (by omega) (by omega) marker
        | Absent | Input _ => rfl

end

/-- The entries of the first ticks of a buffer, with markers for those that it does not reach. -/
def upto (entries : List (Compressed S)) (count : Nat) : List (Compressed S) :=
  (entries ++ List.replicate (count - entries.length) Compressed.SameAsPrecedent).take count

@[simp] theorem length_upto (entries : List (Compressed S)) (count : Nat) : (upto entries count).length = count := by
  simp [upto]
  omega

theorem upto_length (entries : List (Compressed S)) : upto entries entries.length = entries := by
  simp [upto]

theorem value_at_upto (entries : List (Compressed S)) {count index : Nat} (inside : index < count) :
    value_at (upto entries count) index = if index < entries.length then value_at entries index else held entries := by
  rw [upto,value_at_take,if_pos inside,value_at_markers]
  exact if_congr Iff.rfl rfl (if_pos (by omega))

section
variable {self : InputBuffer S} {start_tick : Tick} {limit : Nat}

theorem set_raw_of_unset (unset : self.start_tick = none) (tick : Tick) (value : Compressed S) :
    self.set_raw tick value = {self with start_tick := some tick,buffer := self.buffer ++ [value]} := by
  simp only [set_raw,unset]

theorem set_raw_start (started : self.start_tick = some start_tick) (tick : Tick) (value : Compressed S) :
    (self.set_raw tick value).start_tick = some start_tick := by
  simp only [set_raw,started]
  split
  · exact started
  · rfl

/-- Sets a tick after the end. -/
theorem set_raw_after (fits : self.Fits limit) (started : self.start_tick = some start_tick) {tick : Tick}
    (after : start_tick.toNat + self.buffer.length ≤ tick.toNat) (below : tick.toNat < limit) (value : Compressed S) :
    self.set_raw tick value = {self with buffer := upto self.buffer (tick.toNat - start_tick.toNat) ++ [value]} := by
  obtain ⟨positive,inRange,short,near⟩ := fits.room start_tick started
  have last := last_tick_toNat positive inRange short
  have gap : (tick.diff (last_tick start_tick self.buffer.length) - 1).toNat =
      tick.toNat - start_tick.toNat - self.buffer.length := by
    rw [diff_toNat (by omega) (by omega),last]
    omega
  have whole : upto self.buffer (tick.toNat - start_tick.toNat) =
      self.buffer ++ List.replicate (tick.toNat - start_tick.toNat - self.buffer.length) Compressed.SameAsPrecedent :=
    List.take_of_length_le (by simp; omega)
  have length := length_upto self.buffer (tick.toNat - start_tick.toNat)
  simp only [set_raw,started,Tick.lt_iff,last]
  rw [if_neg (by omega),if_pos (by omega),gap,← whole,diff_toNat (by omega) (by omega),Int.toNat_natCast,
    List.set_append_right _ _ length.le,length,Nat.sub_self]
  rfl

/-- Sets the tick after the last one. -/
theorem set_raw_next (fits : self.Fits limit) (started : self.start_tick = some start_tick) {tick : Tick}
    (next : tick.toNat = start_tick.toNat + self.buffer.length) (below : tick.toNat < limit) (value : Compressed S) :
    self.set_raw tick value = {self with buffer := self.buffer ++ [value]} := by
  rw [set_raw_after fits started next.ge below,next,Nat.add_sub_cancel_left,upto_length]

/-- Sets a tick and removes those after it. -/
theorem clip_set_raw (fits : self.Fits limit) (started : self.start_tick = some start_tick) {tick : Tick}
    (inside : start_tick ≤ tick) (below : tick.toNat < limit) (value : Compressed S) :
    (self.set_raw tick value).clip_after tick =
      {self with buffer := upto self.buffer (tick.toNat - start_tick.toNat) ++ [value]} := by
  obtain ⟨positive,inRange,short,near⟩ := fits.room start_tick started
  have last := last_tick_toNat positive inRange short
  rw [Tick.le_iff] at inside
  by_cases after : start_tick.toNat + self.buffer.length ≤ tick.toNat
  · have length := length_upto self.buffer (tick.toNat - start_tick.toNat)
    rw [set_raw_after fits started after below]
    simp only [clip_after,started,Tick.lt_iff,Tick.le_iff]
    rw [if_neg (by omega),if_pos (by rw [last_tick_toNat] <;> simp <;> omega)]
  · have whole : upto self.buffer (tick.toNat - start_tick.toNat) = self.buffer.take (tick.toNat - start_tick.toNat) :=
      List.take_append_of_le_length (by omega)
    have diff := diff_toNat inside (by omega)
    have written : self.set_raw tick value =
        {self with buffer := self.buffer.set (tick.toNat - start_tick.toNat) value} := by
      simp only [set_raw,started,Tick.lt_iff,last]
      rw [if_neg (by omega),if_neg (by omega),diff,Int.toNat_natCast]
    have kept : (self.buffer.set (tick.toNat - start_tick.toNat) value).take (tick.toNat - start_tick.toNat + 1) =
        self.buffer.take (tick.toNat - start_tick.toNat) ++ [value] := by
      rw [List.take_succ_eq_append_getElem (by simp; omega),List.take_set_of_le (by omega),List.getElem_set_self]
    rw [written,whole,← kept]
    simp only [clip_after,started,Tick.lt_iff,Tick.le_iff,List.length_set,last]
    rw [if_neg (by omega)]
    split
    · rw [List.take_of_length_le (by simp; omega)]
    · rw [diff]
      rfl

theorem clip_set_raw_before (started : self.start_tick = some start_tick) {tick : Tick} (before : tick < start_tick)
    (value : Compressed S) :
    (self.set_raw tick value).clip_after tick = {self with start_tick := none,buffer := []} := by
  simp only [set_raw,started,if_pos before,clip_after]

end
end InputBuffer
end Lightyear.Inputs
