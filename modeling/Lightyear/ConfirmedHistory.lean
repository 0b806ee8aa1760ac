import Lightyear.HistoryBuffer

/-!
The authoritative states of a component, `confirmed_history.rs`. A state equal to the
one before it is kept as a marker that refers to whatever precedes it, so that a
sample which arrives late can change what a later marker stands for.
-/
namespace Lightyear.Core
open Message Sorted

inductive ConfirmedHistoryState (C : Type) where
  | Explicit (state : HistoryState C)
  | SameAsPrecedent
deriving DecidableEq, Repr

variable {C : Type}

def ConfirmedHistoryState.explicit_state : ConfirmedHistoryState C → Option (HistoryState C)
  | .Explicit state => some state
  | .SameAsPrecedent => none

/-- The buffer of a history, in order or not. -/
abbrev ConfirmedEntries (C : Type) := List (Tick × ConfirmedHistoryState C)

namespace ConfirmedEntries

def resolve_state_at_index (self : ConfirmedEntries C) (index : Nat) : Option (HistoryState C) :=
  (self.take (index + 1)).reverse.findSome? (·.2.explicit_state)

/-- `partition.checked_sub(1)` -/
private def checked_pred : Nat → Option Nat
  | 0 => none
  | partition + 1 => some partition

def index_at_or_before (self : ConfirmedEntries C) (tick : Tick) : Option Nat :=
  checked_pred (VecDeque.partition_point (·.1 ≤ tick) self)

def index_before (self : ConfirmedEntries C) (tick : Tick) : Option Nat :=
  checked_pred (VecDeque.partition_point (·.1 < tick) self)

def get_nth_state (self : ConfirmedEntries C) (n : Nat) : Option (Tick × HistoryState C) := do
  let (tick,_) ← self[n]?
  let state ← self.resolve_state_at_index n
  some (tick,state)

def get_state_at_or_before (self : ConfirmedEntries C) (tick : Tick) : Option (HistoryState C) := do
  let index ← self.index_at_or_before tick
  self.resolve_state_at_index index

def state_before (self : ConfirmedEntries C) (tick : Tick) : Option (HistoryState C) := do
  let index ← self.index_before tick
  self.resolve_state_at_index index

def get_state_at (self : ConfirmedEntries C) (tick : Tick) : Option (HistoryState C) := do
  let pos := VecDeque.partition_point (·.1 < tick) self
  let (buffer_tick,_) ← self[pos]?
  if buffer_tick = tick then self.resolve_state_at_index pos else none

def insert_raw (self : ConfirmedEntries C) (tick : Tick) (state : ConfirmedHistoryState C) : ConfirmedEntries C :=
  put tick state self

def insert_explicit (self : ConfirmedEntries C) (tick : Tick) (state : HistoryState C) : ConfirmedEntries C :=
  self.insert_raw tick (.Explicit state)

/-- The raw entry of a state: a marker where the state before the tick is the same, for the equality that a
component has. -/
def entry (eq : HistoryState C → HistoryState C → Bool) (self : ConfirmedEntries C) (tick : Tick)
    (state : HistoryState C) :
    ConfirmedHistoryState C :=
  if (self.state_before tick).any (eq · state) then .SameAsPrecedent else .Explicit state

def insert (eq : HistoryState C → HistoryState C → Bool) (self : ConfirmedEntries C) (tick : Tick)
    (state : HistoryState C) :
    ConfirmedEntries C :=
  self.insert_raw tick (self.entry eq tick state)

def add_unchanged (self : ConfirmedEntries C) (tick : Tick) : ConfirmedEntries C × Bool :=
  if (self.get_state_at tick).isSome ∨ (self.state_before tick).isNone then (self,false)
  else (self.insert_raw tick .SameAsPrecedent,true)

end ConfirmedEntries

/-- The buffer is ordered from oldest to newest. -/
@[ext]
structure ConfirmedHistory (C : Type) where
  buffer : ConfirmedEntries C
  sorted : Ascending buffer

namespace ConfirmedHistory

def default : ConfirmedHistory C := ⟨[],List.Pairwise.nil⟩

/-- The n-th oldest state of the buffer. -/
def get_nth_state (self : ConfirmedHistory C) (n : Nat) : Option (Tick × HistoryState C) := self.buffer.get_nth_state n

/-- The latest authoritative state at or before a tick. -/
def get_state_at_or_before (self : ConfirmedHistory C) (tick : Tick) : Option (HistoryState C) :=
  self.buffer.get_state_at_or_before tick

def state_before (self : ConfirmedHistory C) (tick : Tick) : Option (HistoryState C) := self.buffer.state_before tick

/-- The authoritative state exactly at a tick. -/
def get_state_at (self : ConfirmedHistory C) (tick : Tick) : Option (HistoryState C) := self.buffer.get_state_at tick

def get_present (self : ConfirmedHistory C) (tick : Tick) : Option C := do
  let state ← self.get_state_at_or_before tick
  state.value

def insert_raw (self : ConfirmedHistory C) (tick : Tick) (state : ConfirmedHistoryState C) : ConfirmedHistory C :=
  ⟨self.buffer.insert_raw tick state,self.sorted.put tick state⟩

def insert_explicit (self : ConfirmedHistory C) (tick : Tick) (state : HistoryState C) : ConfirmedHistory C :=
  ⟨self.buffer.insert_explicit tick state,self.sorted.put tick _⟩

/-- `ConfirmedHistory::insert`, for the equality that a component has. -/
def insert_where (eq : HistoryState C → HistoryState C → Bool) (self : ConfirmedHistory C) (tick : Tick)
    (state : HistoryState C) : ConfirmedHistory C :=
  ⟨self.buffer.insert eq tick state,self.sorted.put tick _⟩

section
variable [DecidableEq C]

/-- The raw entry of a state, for an equality of components that is exact. -/
def entry (self : ConfirmedHistory C) (tick : Tick) (state : HistoryState C) : ConfirmedHistoryState C :=
  self.buffer.entry (fun stored new => stored = new) tick state

/-- `ConfirmedHistory::insert`, for an equality of components that is exact. -/
def insert (self : ConfirmedHistory C) (tick : Tick) (state : HistoryState C) : ConfirmedHistory C :=
  self.insert_where (fun stored new => stored = new) tick state

theorem entry_eq (self : ConfirmedHistory C) (tick : Tick) (state : HistoryState C) :
    self.entry tick state = if self.state_before tick = some state then .SameAsPrecedent else .Explicit state := by
  unfold entry state_before ConfirmedEntries.entry
  cases self.buffer.state_before tick with
  | none => rfl
  | some before => simp

end

theorem sorted_add_unchanged {buffer : ConfirmedEntries C} (sorted : Ascending buffer) (tick : Tick) :
    Ascending (buffer.add_unchanged tick).1 := by
  unfold ConfirmedEntries.add_unchanged
  split
  · exact sorted
  · exact sorted.put tick _

/-- `add_unchanged`, with the history after it. -/
def add_unchanged (self : ConfirmedHistory C) (tick : Tick) : ConfirmedHistory C × Bool :=
  (⟨(self.buffer.add_unchanged tick).1,sorted_add_unchanged self.sorted tick⟩,(self.buffer.add_unchanged tick).2)

theorem add_unchanged_eq (self : ConfirmedHistory C) (tick : Tick) :
    self.add_unchanged tick =
      if (self.get_state_at tick).isSome ∨ (self.state_before tick).isNone then (self,false)
      else (self.insert_raw tick .SameAsPrecedent,true) := by
  by_cases present : (self.get_state_at tick).isSome ∨ (self.state_before tick).isNone
  · have same : self.buffer.add_unchanged tick = (self.buffer,false) := if_pos present
    rw [if_pos present]
    exact Prod.ext (ConfirmedHistory.ext (Prod.ext_iff.mp same).1) (Prod.ext_iff.mp same).2
  · have marked : self.buffer.add_unchanged tick = (self.buffer.insert_raw tick .SameAsPrecedent,true) := if_neg present
    rw [if_neg present]
    exact Prod.ext (ConfirmedHistory.ext (Prod.ext_iff.mp marked).1) (Prod.ext_iff.mp marked).2

/-! ### What is read at a tick -/

/-- The last explicit state of some entries. -/
def resolved (entries : List (Tick × ConfirmedHistoryState C)) : Option (HistoryState C) :=
  entries.reverse.findSome? (·.2.explicit_state)

@[simp] theorem resolved_nil : resolved ([] : List (Tick × ConfirmedHistoryState C)) = none := rfl

@[simp] theorem resolved_snoc (entries : List (Tick × ConfirmedHistoryState C)) (tick : Tick)
    (raw : ConfirmedHistoryState C) :
    resolved (entries ++ [(tick,raw)]) = raw.explicit_state.or (resolved entries) := by
  cases raw <;> simp [resolved,ConfirmedHistoryState.explicit_state]

private theorem resolve_front (self : ConfirmedHistory C) (partition : Nat) :
    (ConfirmedEntries.checked_pred partition).bind self.buffer.resolve_state_at_index =
      resolved (self.buffer.take partition) := by
  cases partition <;> rfl

/-- Wherever the two slices of the ring buffer meet, a search up to some tick ends there. -/
theorem search_eq (self : ConfirmedHistory C) {test : Tick → Bool}
    (closed : ∀ a b, a < b → test b = true → test a = true) {front back : ConfirmedEntries C}
    (slices : self.buffer = front ++ back) :
    VecDeque.search (test ·.1) front back = VecDeque.partition_point (test ·.1) self.buffer := by
  rw [slices]
  exact VecDeque.search_eq (slices ▸ self.sorted) fun a b => closed a.1 b.1

theorem get_state_at_or_before_eq (self : ConfirmedHistory C) (tick : Tick) :
    self.get_state_at_or_before tick = resolved (self.buffer.filter (·.1 ≤ tick)) := by
  rw [← (self.sorted.upTo tick).1]
  exact self.resolve_front _

theorem resolved_append (front back : List (Tick × ConfirmedHistoryState C)) :
    resolved (front ++ back) = (resolved back).or (resolved front) := by
  rw [resolved,List.reverse_append,List.findSome?_append,← resolved,← resolved]

/-- What is read at a tick is an explicit state after an earlier tick, or what is read at the earlier one. -/
theorem get_state_at_or_before_from (self : ConfirmedHistory C) {tick other : Tick} (after : tick ≤ other) :
    self.get_state_at_or_before other =
      (resolved ((self.buffer.filter (tick < ·.1)).filter (·.1 ≤ other))).or (self.get_state_at_or_before tick) := by
  have divided : self.buffer = self.buffer.filter (·.1 ≤ tick) ++ self.buffer.filter (tick < ·.1) := by
    rw [← (self.sorted.upTo tick).1,← (self.sorted.upTo tick).2,List.take_append_drop]
  have front : (self.buffer.filter (·.1 ≤ tick)).filter (·.1 ≤ other) = self.buffer.filter (·.1 ≤ tick) :=
    List.filter_eq_self.mpr fun entry member => by
      simpa using le_trans (by simpa using (List.mem_filter.mp member).2) after
  rw [get_state_at_or_before_eq,get_state_at_or_before_eq]
  conv_lhs => rw [divided,List.filter_append,front,resolved_append]

theorem state_before_eq (self : ConfirmedHistory C) (tick : Tick) :
    self.state_before tick = resolved (self.buffer.filter (·.1 < tick)) := by
  rw [← (self.sorted.below tick).1]
  exact self.resolve_front _

theorem get_state_at_stored {self : ConfirmedHistory C} {tick : Tick} {raw : ConfirmedHistoryState C}
    (stored : (tick,raw) ∈ self.buffer) : self.get_state_at tick = self.get_state_at_or_before tick := by
  obtain ⟨front,back⟩ := self.sorted.below tick
  rw [self.sorted.from_stored stored] at back
  have found : self.buffer[VecDeque.partition_point (·.1 < tick) self.buffer]? = some (tick,raw) := by
    rw [← List.head?_drop,back,List.head?_cons]
  have upTo : self.buffer.take (VecDeque.partition_point (·.1 < tick) self.buffer + 1) =
      self.buffer.filter (·.1 ≤ tick) := by
    rw [List.take_add_one,found,front,self.sorted.upTo_stored stored]
    rfl
  rw [get_state_at,ConfirmedEntries.get_state_at,found,get_state_at_or_before_eq,← upTo]
  exact if_pos rfl

theorem get_state_at_absent {self : ConfirmedHistory C} {tick : Tick} (absent : ∀ raw, (tick,raw) ∉ self.buffer) :
    self.get_state_at tick = none := by
  rw [get_state_at,ConfirmedEntries.get_state_at]
  cases found : self.buffer[VecDeque.partition_point (·.1 < tick) self.buffer]? with
  | none => rfl
  | some stored =>
    have other : stored.1 ≠ tick := by
      rintro rfl
      exact absent stored.2 (List.mem_of_getElem? found)
    exact if_neg other

/-- At a stored tick the entry itself is read, or what precedes it. -/
theorem get_state_at_or_before_stored {self : ConfirmedHistory C} {tick : Tick} {raw : ConfirmedHistoryState C}
    (stored : (tick,raw) ∈ self.buffer) :
    self.get_state_at_or_before tick = raw.explicit_state.or (self.state_before tick) := by
  rw [get_state_at_or_before_eq,self.sorted.upTo_stored stored,resolved_snoc,state_before_eq]

private theorem below_closed (tick : Tick) (a b : Tick) (less : a < b) (kept : decide (b < tick) = true) :
    decide (a < tick) = true := by
  rw [decide_eq_true_eq] at *
  exact less.trans kept

private theorem upTo_closed (tick : Tick) (a b : Tick) (less : a < b) (kept : decide (b ≤ tick) = true) :
    decide (a ≤ tick) = true := by
  rw [decide_eq_true_eq] at *
  exact less.le.trans kept

theorem insert_raw_before (self : ConfirmedHistory C) {tick other : Tick} (before : other < tick)
    (raw : ConfirmedHistoryState C) :
    (self.insert_raw tick raw).get_state_at_or_before other = self.get_state_at_or_before other := by
  rw [get_state_at_or_before_eq,get_state_at_or_before_eq]
  exact congrArg resolved (self.sorted.put_front raw (upTo_closed other) (by simpa using before))

theorem insert_raw_at (self : ConfirmedHistory C) (tick : Tick) (raw : ConfirmedHistoryState C) :
    (self.insert_raw tick raw).get_state_at_or_before tick = raw.explicit_state.or (self.state_before tick) := by
  rw [get_state_at_or_before_stored ((mem_put self.sorted).mpr (.inl rfl)),state_before_eq,state_before_eq]
  exact congrArg (fun entries => raw.explicit_state.or (resolved entries))
    (self.sorted.put_front raw (below_closed tick) (by simp))

/-- To mark a tick as unchanged changes nothing that is read. -/
theorem add_unchanged_reads (self : ConfirmedHistory C) (tick other : Tick) :
    (self.add_unchanged tick).1.get_state_at_or_before other = self.get_state_at_or_before other := by
  rw [add_unchanged_eq]
  split
  · rfl
  next absent =>
    simp only [not_or,Option.not_isSome_iff_eq_none,Option.isNone_iff_eq_none,← Option.isSome_iff_ne_none] at absent
    obtain ⟨unset,precedes⟩ := absent
    have new : ∀ entry ∈ self.buffer, entry.1 ≠ tick := by
      rintro ⟨tick',raw⟩ stored rfl
      rw [get_state_at_stored stored,get_state_at_or_before_stored stored,Option.or_eq_none_iff] at unset
      simp [unset.2] at precedes
    have above : self.buffer.filter (tick ≤ ·.1) = self.buffer.filter (tick < ·.1) :=
      List.filter_congr fun entry stored => by simp [le_iff_lt_or_eq,(new entry stored).symm]
    have parts := self.sorted.parts tick
    rw [above] at parts
    rw [get_state_at_or_before_eq,get_state_at_or_before_eq]
    conv_rhs => rw [parts]
    simp only [insert_raw,ConfirmedEntries.insert_raw,put_eq self.sorted,List.filter_append,List.filter_cons]
    split <;> simp [resolved,ConfirmedHistoryState.explicit_state]

section
variable [DecidableEq C]

theorem insert_before (self : ConfirmedHistory C) {tick other : Tick} (before : other < tick) (state : HistoryState C) :
    (self.insert tick state).get_state_at_or_before other = self.get_state_at_or_before other :=
  self.insert_raw_before before _

theorem insert_at (self : ConfirmedHistory C) (tick : Tick) (state : HistoryState C) :
    (self.insert tick state).get_state_at_or_before tick = some state := by
  have inserted : (self.insert tick state).get_state_at_or_before tick = _ :=
    self.insert_raw_at tick (self.entry tick state)
  rw [inserted,entry_eq]
  split
  · next same => exact same
  · rfl

/-- After a tick at which a state is inserted, this state is read until the next explicit one. -/
theorem insert_from (self : ConfirmedHistory C) {tick other : Tick} (after : tick ≤ other) (state : HistoryState C) :
    (self.insert tick state).get_state_at_or_before other =
      (resolved ((self.buffer.filter (tick < ·.1)).filter (·.1 ≤ other))).or (some state) := by
  have inserted : (self.insert tick state).buffer =
      self.buffer.filter (·.1 < tick) ++ (tick,self.entry tick state) :: self.buffer.filter (tick < ·.1) :=
    put_eq self.sorted tick _
  have beyond : (self.insert tick state).buffer.filter (tick < ·.1) = self.buffer.filter (tick < ·.1) := by
    have none : (self.buffer.filter (·.1 < tick)).filter (tick < ·.1) = [] :=
      List.filter_eq_nil_iff.mpr fun entry member => by
        simpa using (by simpa using (List.mem_filter.mp member).2 : entry.1 < tick).le
    have all : (self.buffer.filter (tick < ·.1)).filter (tick < ·.1) = self.buffer.filter (tick < ·.1) := by
      simp [List.filter_filter]
    rw [inserted,List.filter_append,List.filter_cons_of_neg (by simp),none,all,List.nil_append]
  rw [get_state_at_or_before_from _ after,beyond,insert_at]

end

/-! ### Samples in any order -/

section
variable [DecidableEq C]

/-- The history after some samples, which arrive in the order of the list. -/
def insert_all (samples : List (Tick × HistoryState C)) : ConfirmedHistory C :=
  samples.foldl (fun history sample => history.insert sample.1 sample.2) default

/-- The last of some samples whose ticks pass a test. -/
def IsLast (samples : List (Tick × HistoryState C)) (keeps : Tick → Bool) (sample : Tick × HistoryState C) : Prop :=
  sample ∈ samples ∧ keeps sample.1 = true ∧ ∀ other ∈ samples, keeps other.1 = true → other.1 ≤ sample.1

/-- A sample that is stored as a marker has the state of the sample that precedes it in the end. -/
def Unbroken (samples : List (Tick × HistoryState C)) : Prop :=
  ∀ before tick state after, samples = before ++ (tick,state) :: after →
    (insert_all before).state_before tick = some state → ∀ sample, IsLast samples (· < tick) sample → sample.2 = state

private theorem insert_all_snoc (samples : List (Tick × HistoryState C)) (tick : Tick) (state : HistoryState C) :
    insert_all (samples ++ [(tick,state)]) = (insert_all samples).insert tick state := by
  simp [insert_all]

/-- The entries are those of the samples, each as it was made when its sample arrived. -/
private theorem stored_iff {samples : List (Tick × HistoryState C)} (distinct : (samples.map Prod.fst).Nodup)
    (tick : Tick) (raw : ConfirmedHistoryState C) :
    (tick,raw) ∈ (insert_all samples).buffer ↔ ∃ before state after,
      samples = before ++ (tick,state) :: after ∧ raw = (insert_all before).entry tick state := by
  induction samples using List.reverseRecOn with
  | nil => simp [insert_all,default]
  | append_singleton samples last ih =>
    obtain ⟨t,s⟩ := last
    rw [List.map_append] at distinct
    obtain ⟨earlier,-,apart⟩ := List.nodup_append.mp distinct
    rw [insert_all_snoc]
    constructor
    · intro stored
      rcases (mem_put (insert_all samples).sorted).mp stored with isLast | ⟨-,old⟩
      · cases isLast
        exact ⟨samples,s,[],rfl,rfl⟩
      · obtain ⟨before,state,after,rfl,isEntry⟩ := (ih earlier).mp old
        exact ⟨before,state,after ++ [(t,s)],by simp,isEntry⟩
    · rintro ⟨before,state,after,isSplit,isEntry⟩
      refine (mem_put (insert_all samples).sorted).mpr ?_
      rcases List.eq_nil_or_concat after with rfl | ⟨front,last,rfl⟩
      · obtain ⟨rfl,isLast⟩ := List.append_inj' isSplit rfl
        cases isLast
        exact Or.inl (congrArg (tick,·) isEntry)
      · rw [List.concat_eq_append,← List.cons_append,← List.append_assoc] at isSplit
        obtain ⟨rfl,-⟩ := List.append_inj' isSplit rfl
        have other : tick ≠ t := apart tick (by simp) t (by simp)
        exact Or.inr ⟨other,(ih earlier).mpr ⟨before,state,front,rfl,isEntry⟩⟩

private theorem key_iff {samples : List (Tick × HistoryState C)} (distinct : (samples.map Prod.fst).Nodup)
    (tick : Tick) :
    (∃ raw, (tick,raw) ∈ (insert_all samples).buffer) ↔ ∃ state, (tick,state) ∈ samples := by
  simp only [stored_iff distinct]
  constructor
  · rintro ⟨_,before,state,after,rfl,-⟩
    exact ⟨state,by simp⟩
  · rintro ⟨state,member⟩
    obtain ⟨before,after,isSplit⟩ := List.append_of_mem member
    exact ⟨_,before,state,after,isSplit,rfl⟩

private theorem exists_last {samples : List (Tick × HistoryState C)} (distinct : (samples.map Prod.fst).Nodup)
    {keeps : Tick → Bool} (closed : ∀ a b, a < b → keeps b = true → keeps a = true) {earlier : Tick × HistoryState C}
    (member : earlier ∈ samples) (kept : keeps earlier.1 = true) : ∃ sample, IsLast samples keeps sample := by
  have sorted := (insert_all samples).sorted
  obtain ⟨raw,stored⟩ := (key_iff distinct earlier.1).mpr ⟨earlier.2,member⟩
  have atFront : (earlier.1,raw) ∈ (insert_all samples).buffer.filter (keeps ·.1) := List.mem_filter.mpr ⟨stored,kept⟩
  cases isLast : ((insert_all samples).buffer.filter (keeps ·.1)).getLast? with
  | none => rw [List.getLast?_eq_none_iff.mp isLast] at atFront; cases atFront
  | some last =>
    obtain ⟨inBuffer,kept,-⟩ := sorted.front_eq closed isLast
    obtain ⟨state,isSample⟩ := (key_iff distinct last.1).mp ⟨last.2,inBuffer⟩
    refine ⟨(last.1,state),isSample,kept,fun other isOther otherKept => ?_⟩
    obtain ⟨raw,stored⟩ := (key_iff distinct other.1).mpr ⟨other.2,isOther⟩
    exact (sorted.filter _).last_greatest isLast (other.1,raw) (List.mem_filter.mpr ⟨stored,otherKept⟩)

private theorem front_empty {samples : List (Tick × HistoryState C)} (distinct : (samples.map Prod.fst).Nodup)
    (keeps : Tick → Bool) (none : ∀ sample ∈ samples, keeps sample.1 = false) :
    (insert_all samples).buffer.filter (keeps ·.1) = [] :=
  List.filter_eq_nil_iff.mpr fun entry stored => by
    obtain ⟨state,isSample⟩ := (key_iff distinct entry.1).mp ⟨entry.2,stored⟩
    exact Bool.eq_false_iff.mp (none _ isSample)

/-- The entries at the front stand for what is read at the tick of the last sample there. -/
private theorem resolved_front {samples : List (Tick × HistoryState C)} (distinct : (samples.map Prod.fst).Nodup)
    {keeps : Tick → Bool} (closed : ∀ a b, a < b → keeps b = true → keeps a = true) {sample : Tick × HistoryState C}
    (isLast : IsLast samples keeps sample) :
    resolved ((insert_all samples).buffer.filter (keeps ·.1)) =
      (insert_all samples).get_state_at_or_before sample.1 := by
  rw [get_state_at_or_before_eq]
  congr 1
  refine List.filter_congr fun entry stored => ?_
  obtain ⟨state,isSample⟩ := (key_iff distinct entry.1).mp ⟨entry.2,stored⟩
  rw [Bool.eq_iff_iff,decide_eq_true_eq]
  constructor
  · exact isLast.2.2 _ isSample
  · intro most
    rcases most.lt_or_eq with less | same
    · exact closed _ _ less isLast.2.1
    · exact same ▸ isLast.2.1

/-- Before a tick there is what is read at the tick of the sample that precedes it. -/
private theorem state_before_preceding {samples : List (Tick × HistoryState C)}
    (distinct : (samples.map Prod.fst).Nodup) {tick : Tick} {sample : Tick × HistoryState C}
    (precedes : IsLast samples (· < tick) sample) :
    (insert_all samples).state_before tick = (insert_all samples).get_state_at_or_before sample.1 := by
  rw [state_before_eq]
  exact resolved_front distinct (below_closed tick) precedes

/-- Of a sample the state itself is stored, or a marker if the state before it was the same when it arrived. -/
private theorem entry_cases {samples : List (Tick × HistoryState C)} (distinct : (samples.map Prod.fst).Nodup)
    {tick : Tick} {state : HistoryState C} (member : (tick,state) ∈ samples) :
    (tick,.Explicit state) ∈ (insert_all samples).buffer ∨ (tick,.SameAsPrecedent) ∈ (insert_all samples).buffer ∧
      ∃ before after, samples = before ++ (tick,state) :: after ∧ (insert_all before).state_before tick =
        some state := by
  obtain ⟨before,after,isSplit⟩ := List.append_of_mem member
  have stored := (stored_iff distinct tick _).mpr ⟨before,state,after,isSplit,rfl⟩
  rw [entry_eq] at stored
  split at stored
  · next same => exact Or.inr ⟨stored,before,after,isSplit,same⟩
  · exact Or.inl stored

private theorem resolves_of_unbroken {samples : List (Tick × HistoryState C)} (distinct : (samples.map Prod.fst).Nodup)
    (unbroken : Unbroken samples) (tick : Tick) :
    ∀ state, (tick,state) ∈ samples → (insert_all samples).get_state_at_or_before tick = some state := by
  induction tick using WellFoundedLT.induction with
  | ind tick ih =>
    intro state member
    rcases entry_cases distinct member with explicit | ⟨marker,before,after,isSplit,same⟩
    · rw [get_state_at_or_before_stored explicit]
      rfl
    · -- some earlier sample was there when this one arrived, so one precedes it in the end
      have earlier : ∃ sample ∈ before, sample.1 < tick := by
        rw [state_before_eq] at same
        by_contra none
        push Not at none
        have apart : (before.map Prod.fst).Nodup := by
          rw [isSplit,List.map_append] at distinct
          exact distinct.of_append_left
        rw [front_empty apart (· < tick) (by simpa using none)] at same
        cases same
      obtain ⟨sample,inBefore,less⟩ := earlier
      obtain ⟨last,precedes⟩ := exists_last distinct (below_closed tick) (isSplit ▸ List.mem_append_left _ inBefore)
        (decide_eq_true less)
      rw [get_state_at_or_before_stored marker,state_before_preceding distinct precedes,
        ih last.1 (of_decide_eq_true precedes.2.1) last.2 precedes.1,
          unbroken before tick state after isSplit same last precedes]
      rfl

/-- Samples at distinct ticks are all read back, at their ticks, exactly if no late sample comes between a marker and
the sample it stands for. Two orders of arrival of which this holds give the same states at every tick. -/
theorem samples_resolve (samples : List (Tick × HistoryState C)) (distinct : (samples.map Prod.fst).Nodup) :
    ((∀ sample ∈ samples, (insert_all samples).get_state_at sample.1 = some sample.2) ↔ Unbroken samples) ∧
      ∀ order, order.Perm samples → Unbroken samples → Unbroken order → ∀ tick,
        (insert_all order).get_state_at_or_before tick = (insert_all samples).get_state_at_or_before tick := by
  have stored : ∀ sample ∈ samples,
      (insert_all samples).get_state_at sample.1 = (insert_all samples).get_state_at_or_before sample.1 := by
    intro sample member
    obtain ⟨raw,stored⟩ := (key_iff distinct sample.1).mpr ⟨sample.2,member⟩
    exact get_state_at_stored stored
  refine ⟨⟨fun resolves before tick state after isSplit same sample precedes => ?_,fun unbroken sample member => ?_⟩,
    fun order perm unbroken unbroken' tick => ?_⟩
  · have member : (tick,state) ∈ samples := isSplit ▸ by simp
    have marker : (tick,ConfirmedHistoryState.SameAsPrecedent) ∈ (insert_all samples).buffer :=
      (stored_iff distinct tick _).mpr
        ⟨before,state,after,isSplit,(((insert_all before).entry_eq tick state).trans (if_pos same)).symm⟩
    have read := resolves (tick,state) member
    have readBefore := resolves sample precedes.1
    rw [get_state_at_stored marker,get_state_at_or_before_stored marker,
      state_before_preceding distinct precedes] at read
    rw [stored sample precedes.1] at readBefore
    exact Option.some_inj.mp (readBefore.symm.trans read)
  · rw [stored sample member]
    exact resolves_of_unbroken distinct unbroken sample.1 sample.2 member
  · have distinct' : (order.map Prod.fst).Nodup := (perm.map _).nodup_iff.mpr distinct
    by_cases some : ∃ sample ∈ samples, sample.1 ≤ tick
    · obtain ⟨earlier,member,most⟩ := some
      obtain ⟨last,isLast⟩ := exists_last distinct (upTo_closed tick) member (decide_eq_true most)
      have isLast' : IsLast order (· ≤ tick) last :=
        ⟨perm.mem_iff.mpr isLast.1,isLast.2.1,fun other member => isLast.2.2 other (perm.mem_iff.mp member)⟩
      rw [get_state_at_or_before_eq,get_state_at_or_before_eq,resolved_front distinct' (upTo_closed tick) isLast',
        resolved_front distinct (upTo_closed tick) isLast,
        resolves_of_unbroken distinct' unbroken' last.1 last.2 isLast'.1,
        resolves_of_unbroken distinct unbroken last.1 last.2 isLast.1]
    · push Not at some
      rw [get_state_at_or_before_eq,get_state_at_or_before_eq,
        front_empty distinct (· ≤ tick) (by simpa using some),
        front_empty distinct' (· ≤ tick) fun sample member => by simpa using some sample (perm.mem_iff.mp member)]

/-- A sample that repeats its predecessor, then one before both that differs. -/
theorem samples_resolve_three :
    Unbroken [((5 : Tick),HistoryState.Updated 10),(1,.Updated 10),(3,.Removed)] :=
  (samples_resolve _ (by decide)).1.mp
    (List.forall_mem_cons.mpr
      ⟨rfl,List.forall_mem_cons.mpr ⟨rfl,List.forall_mem_cons.mpr ⟨rfl,fun _ none => nomatch none⟩⟩⟩)

/-- The sample of tick 3 arrives last, and the marker of tick 5 then stands for it. -/
theorem late_sample_changes_marker :
    ¬ ∀ samples : List (Tick × HistoryState Nat), (samples.map Prod.fst).Nodup →
      ∀ sample ∈ samples, (insert_all samples).get_state_at sample.1 = some sample.2 := by
  intro resolves
  have read := resolves [(1,.Updated 10),(5,.Updated 10),(3,.Updated 20)] (by decide) (5,.Updated 10) (by decide)
  exact absurd read (by decide)

end
end ConfirmedHistory
end Lightyear.Core
