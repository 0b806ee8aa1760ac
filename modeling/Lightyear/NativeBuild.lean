import Lightyear.NativeInputs
import Lightyear.InputLookup

/-!
The message of the native inputs that is built from a buffer, `build_from_input_buffer`:
how many states it has, and for which ticks.
-/
namespace Lightyear.Inputs
open Message InputBuffer

namespace NativeStateSequence
variable {A : Type}

/-- The first tick that is sent, `max(end_tick - num_ticks + 1, buffer_start_tick)`. -/
def first_tick (buffer_start_tick : Tick) (num_ticks : Nat) (end_tick : Tick) : Tick :=
  max ((end_tick.sub num_ticks).add_signed 1) buffer_start_tick

/-- `build_from_input_buffer`, with a bound on the entries that its lookup visits. -/
def build_within (visits : Nat) (input_buffer : InputBuffer (ActionState A)) (num_ticks : Nat) (end_tick : Tick) :
    Option (Option (NativeStateSequence A)) :=
  match input_buffer.start_tick with
  | none => some none
  | some buffer_start_tick => do
    let start_tick := first_tick buffer_start_tick num_ticks end_tick
    let start_input ← input_buffer.look visits start_tick
    let start_state := start_input.elim .Absent (.Input ·.value)
    let buffer_start := as_usize ((start_tick.add_signed 1).diff buffer_start_tick)
    let buffer_end := as_usize ((end_tick.add_signed 1).diff buffer_start_tick)
    let states := (List.range' buffer_start (buffer_end - buffer_start)).map (sent input_buffer.buffer[·]?)
    some (some ⟨start_state :: states⟩)

/-- A message of at most `num_ticks` states: those of the ticks from the first that is sent to the last, `end_tick`.
Each state but the first takes one round of the loop. -/
structure Complete (input_buffer : InputBuffer (ActionState A)) (buffer_start_tick : Tick) (num_ticks : Nat)
    (end_tick : Tick)
    (sequence : NativeStateSequence A) : Prop where
  few : sequence.len ≤ num_ticks
  ends : (first_tick buffer_start_tick num_ticks end_tick).toNat + sequence.len = end_tick.toNat + 1
  first : sequence.states[0]? =
    some ((input_buffer.get (first_tick buffer_start_tick num_ticks end_tick)).elim .Absent (.Input ·.value))
  later : ∀ tick, first_tick buffer_start_tick num_ticks end_tick < tick → tick ≤ end_tick →
    sequence.states[tick.toNat - (first_tick buffer_start_tick num_ticks end_tick).toNat]? =
      some (sent input_buffer.buffer[tick.toNat - buffer_start_tick.toNat]?)

/-- Building returns, with nothing if the buffer has no first tick. -/
def Builds (input_buffer : InputBuffer (ActionState A)) (num_ticks : Nat) (end_tick : Tick) : Prop :=
  ∃ visits result, build_within visits input_buffer num_ticks end_tick = some result ∧
    match input_buffer.start_tick with
    | none => result = none
    | some buffer_start_tick =>
      ∃ sequence, result = some sequence ∧ Complete input_buffer buffer_start_tick num_ticks end_tick sequence

/-- At least one tick is asked for, the last one is neither tick 0 nor before the buffer, and it is the first one as
well unless it is below the largest tick and less than `i32::MAX` ticks after the start of the buffer. -/
def InReach (buffer_start_tick : Tick) (num_ticks : Nat) (end_tick : Tick) : Prop :=
  0 < num_ticks ∧ 0 < end_tick.toNat ∧ buffer_start_tick ≤ end_tick ∧
    (num_ticks = 1 ∨ buffer_start_tick = end_tick ∨ end_tick.toNat = 1 ∨
      end_tick < Tick.MAX ∧ end_tick.toNat + 1 < buffer_start_tick.toNat + 2 ^ 31)

section
variable {input_buffer : InputBuffer (ActionState A)} {buffer_start_tick end_tick : Tick} {num_ticks : Nat}

/-- When a message has a first tick, and when it is the only one. -/
private theorem first_le_iff {start first last count : Nat}
    (isFirst : first = max (min (last - count + 1) (2 ^ 32 - 1)) start)
    (small : last < 2 ^ 32) (some : 0 < count) :
    (first ≤ last ↔ 0 < last ∧ start ≤ last) ∧
      (first ≤ last → last - first + 1 ≤ count ∧ (first = last ↔ count = 1 ∨ start = last ∨ last = 1)) := by
  refine ⟨?_,fun le => ⟨?_,?_⟩⟩ <;> omega

/-- The places of the ticks after two ticks are as far apart as the ticks unless one of them saturates. -/
private theorem next_sub_next {start first last : Nat} (le : start ≤ first) (lt : first < last)
    (small : last < 2 ^ 32) :
    min (min (last + 1) (2 ^ 32 - 1) - start) (2 ^ 31 - 1) - min (min (first + 1) (2 ^ 32 - 1) - start) (2 ^ 31 - 1) =
        last - first ↔
      last < 2 ^ 32 - 1 ∧ last + 1 < start + 2 ^ 31 := by
  rw [min_eq_left (show first + 1 ≤ 2 ^ 32 - 1 by omega)]
  omega

variable (buffer_start_tick end_tick num_ticks) in
private theorem first_tick_toNat : (first_tick buffer_start_tick num_ticks end_tick).toNat =
    max (min (end_tick.toNat - num_ticks + 1) (2 ^ 32 - 1)) buffer_start_tick.toNat := by
  have monotone : Monotone (BitVec.toNat : Tick → Nat) := fun _ _ le => le
  rw [first_tick,monotone.map_max,Tick.toNat_add_signed,Tick.toNat_sub]
  congr 1

/-- The place of the entry after a tick that is not before the buffer. -/
private theorem as_usize_next {tick : Tick} (after : buffer_start_tick.toNat ≤ tick.toNat) :
    as_usize ((tick.add_signed 1).diff buffer_start_tick) =
      min (min (tick.toNat + 1) (2 ^ 32 - 1) - buffer_start_tick.toNat) (2 ^ 31 - 1) := by
  have diff : (tick.add_signed 1).diff buffer_start_tick =
      (min (min (tick.toNat + 1) (2 ^ 32 - 1) - buffer_start_tick.toNat) (2 ^ 31 - 1) : Nat) := by
    have := buffer_start_tick.isLt
    rw [Tick.diff,Tick.toNat_add_signed]
    omega
  rw [as_usize,diff,Int.emod_eq_of_lt (by omega) (by omega),Int.toNat_natCast]

/-- The rounds of the loop. -/
private def rounds (buffer_start_tick : Tick) (num_ticks : Nat) (end_tick : Tick) : Nat :=
  as_usize ((end_tick.add_signed 1).diff buffer_start_tick) -
    as_usize (((first_tick buffer_start_tick num_ticks end_tick).add_signed 1).diff buffer_start_tick)

private theorem inReach_iff : InReach buffer_start_tick num_ticks end_tick ↔
    rounds buffer_start_tick num_ticks end_tick + 1 ≤ num_ticks ∧
      (first_tick buffer_start_tick num_ticks end_tick).toNat + (rounds buffer_start_tick num_ticks end_tick + 1) =
        end_tick.toNat + 1 := by
  have isFirst := first_tick_toNat buffer_start_tick end_tick num_ticks
  have small := end_tick.isLt
  have greatest : end_tick < Tick.MAX ↔ end_tick.toNat < 2 ^ 32 - 1 := Iff.rfl
  rcases Nat.eq_zero_or_pos num_ticks with rfl | some
  · exact iff_of_false (fun inReach => inReach.1.false) fun ⟨few,_⟩ => by omega
  · obtain ⟨le_iff,place⟩ := first_le_iff isFirst small some
    have start_le : buffer_start_tick.toNat ≤ (first_tick buffer_start_tick num_ticks end_tick).toNat :=
      (le_max_right _ _).trans_eq isFirst.symm
    simp only [InReach,Tick.le_iff,greatest,← BitVec.toNat_inj]
    by_cases le : (first_tick buffer_start_tick num_ticks end_tick).toNat ≤ end_tick.toNat
    · obtain ⟨positive,within⟩ := le_iff.mp le
      obtain ⟨few,only⟩ := place le
      rw [rounds,as_usize_next within,as_usize_next start_le]
      rcases le.eq_or_lt with same | lt
      · rw [same,Nat.sub_self]
        refine iff_of_true ⟨some,positive,within,?_⟩ ⟨by omega,rfl⟩
        rcases only.mp same with one | started | first
        · exact .inl one
        · exact .inr (.inl started)
        · exact .inr (.inr (.inl first))
      · have several := mt only.mpr lt.ne
        have exact_iff := next_sub_next start_le lt small
        generalize min (min (end_tick.toNat + 1) _ - _) _ - _ = rounds at exact_iff ⊢
        constructor
        · rintro ⟨-,-,-,one | started | first | near⟩
          · exact absurd (.inl one) several
          · exact absurd (.inr (.inl started)) several
          · exact absurd (.inr (.inr first)) several
          · have := exact_iff.mpr near
            omega
        · rintro ⟨-,ends⟩
          exact ⟨some,positive,within,.inr (.inr (.inr (exact_iff.mp (by omega))))⟩
    · refine iff_of_false (fun ⟨_,positive,within,_⟩ => le (le_iff.mpr ⟨positive,within⟩)) fun ⟨_,ends⟩ => ?_
      omega

private theorem build_within_some (started : input_buffer.start_tick = some buffer_start_tick) {visits : Nat}
    {start_input : Option (ActionState A)}
    (found : input_buffer.look visits (first_tick buffer_start_tick num_ticks end_tick) = some start_input) :
    build_within visits input_buffer num_ticks end_tick = some (some ⟨start_input.elim .Absent (.Input ·.value) ::
      (List.range' (as_usize (((first_tick buffer_start_tick num_ticks end_tick).add_signed 1).diff buffer_start_tick))
        (rounds buffer_start_tick num_ticks end_tick)).map (sent input_buffer.buffer[·]?)⟩) := by
  simp only [build_within,started,found]
  rfl

private theorem build_within_none (started : input_buffer.start_tick = some buffer_start_tick) {visits : Nat}
    (endless : input_buffer.look visits (first_tick buffer_start_tick num_ticks end_tick) = none) :
    build_within visits input_buffer num_ticks end_tick = none := by
  simp only [build_within,started,endless]
  rfl

/-- The states of a message that reaches its last tick. -/
private theorem complete (inReach : InReach buffer_start_tick num_ticks end_tick) :
    Complete input_buffer buffer_start_tick num_ticks end_tick
      ⟨(input_buffer.get (first_tick buffer_start_tick num_ticks end_tick)).elim .Absent (.Input ·.value) ::
        (List.range' (as_usize
          (((first_tick buffer_start_tick num_ticks end_tick).add_signed 1).diff buffer_start_tick))
          (rounds buffer_start_tick num_ticks end_tick)).map (sent input_buffer.buffer[·]?)⟩ := by
  obtain ⟨few,ends⟩ := inReach_iff.mp inReach
  have isFirst := first_tick_toNat buffer_start_tick end_tick num_ticks
  refine ⟨by simpa [len],by simpa [len],rfl,fun tick after le => ?_⟩
  rw [Tick.lt_iff] at after
  rw [Tick.le_iff] at le
  have start_le : buffer_start_tick.toNat ≤ (first_tick buffer_start_tick num_ticks end_tick).toNat :=
    (le_max_right _ _).trans_eq isFirst.symm
  clear isFirst
  obtain ⟨place,isPlace⟩ := Nat.exists_eq_add_of_lt after
  have inside : place < rounds buffer_start_tick num_ticks end_tick := by omega
  have near : as_usize
    (((first_tick buffer_start_tick num_ticks end_tick).add_signed 1).diff buffer_start_tick) + place =
      tick.toNat - buffer_start_tick.toNat := by
    have apart : rounds buffer_start_tick num_ticks end_tick = _ := congrArg₂ HSub.hSub
      (as_usize_next (start_le.trans (after.le.trans le))) (as_usize_next start_le)
    have near := (next_sub_next start_le (after.trans_le le) end_tick.isLt).mp (apart.symm.trans (by omega))
    rw [as_usize_next start_le,min_eq_left (by omega),min_eq_left (by omega)]
    omega
  rw [show tick.toNat - (first_tick buffer_start_tick num_ticks end_tick).toNat = place + 1 by omega,
    List.getElem?_cons_succ,List.getElem?_map,List.getElem?_range' inside,Nat.one_mul,near,Option.map_some]

/-- Building a message returns it, with its states up to the last tick, exactly if that tick is in reach and the lookup
of the first one does not come to tick 0 over markers. -/
theorem builds_iff (input_buffer : InputBuffer (ActionState A)) (num_ticks : Nat) (end_tick : Tick) :
    Builds input_buffer num_ticks end_tick ↔
      ∀ buffer_start_tick ∈ input_buffer.start_tick, InReach buffer_start_tick num_ticks end_tick ∧
        ¬input_buffer.Endless (first_tick buffer_start_tick num_ticks end_tick) := by
  cases started : input_buffer.start_tick with
  | none =>
    refine iff_of_true ⟨0,none,?_,?_⟩ fun _ isStart => nomatch isStart
    · simp only [build_within,started]
    · simp only [started]
  | some buffer_start_tick =>
    have only : (∀ start ∈ some buffer_start_tick, InReach start num_ticks end_tick ∧
        ¬input_buffer.Endless (first_tick start num_ticks end_tick)) ↔
      InReach buffer_start_tick num_ticks end_tick ∧
        ¬input_buffer.Endless (first_tick buffer_start_tick num_ticks end_tick) := by simp
    rw [only]
    constructor
    · rintro ⟨visits,result,built,isResult⟩
      simp only [started] at isResult
      obtain ⟨sequence,rfl,isComplete⟩ := isResult
      cases found : input_buffer.look visits (first_tick buffer_start_tick num_ticks end_tick) with
      | none => cases (build_within_none started found).symm.trans built
      | some start_input =>
        obtain rfl := Option.some.inj (Option.some.inj ((build_within_some started found).symm.trans built))
        refine ⟨inReach_iff.mpr ⟨?_,?_⟩,(gets_iff.mp ⟨visits,found⟩).1⟩
        · simpa [len] using isComplete.few
        · simpa [len] using isComplete.ends
    · rintro ⟨inReach,ends⟩
      obtain ⟨visits,start_input,found⟩ := look_of_not_endless ends
      refine ⟨visits,_,build_within_some started found,?_⟩
      simp only [started]
      refine ⟨_,rfl,?_⟩
      rw [← get_of_look found]
      exact complete inReach

/-- The buffer starts at tick 10 and three ticks up to tick 5 are asked for. The end is 4 entries before the buffer,
which as a `usize` is almost 2^64. -/
theorem early_end_unbounded : ¬ ∀ (input_buffer : InputBuffer (ActionState Nat)) (num_ticks : Nat) (end_tick : Tick),
    Builds input_buffer num_ticks end_tick := by
  intro builds
  obtain ⟨visits,result,built,isResult⟩ := builds ⟨some 10,[.Input ⟨1⟩],none⟩ 3 5
  obtain ⟨sequence,rfl,isComplete⟩ : ∃ sequence, result = some sequence ∧ Complete _ 10 3 5 sequence := isResult
  cases found : (⟨some 10,[.Input ⟨1⟩],none⟩ : InputBuffer (ActionState Nat)).look visits (first_tick 10 3 5) with
  | none => cases (build_within_none rfl found).symm.trans built
  | some start_input =>
    obtain rfl := Option.some.inj (Option.some.inj ((build_within_some rfl found).symm.trans built))
    have few := isComplete.few
    rw [len,List.length_cons,List.length_map,List.length_range'] at few
    exact absurd few (by decide)

end
end NativeStateSequence
end Lightyear.Inputs
