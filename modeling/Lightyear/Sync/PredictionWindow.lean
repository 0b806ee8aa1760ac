import Lightyear.Tick
import Mathlib.Data.List.TakeWhile

/-!
The wait of a deterministic simulation for the inputs of the other peers,
`timeline/input.rs`: it starts when another tick would exceed the prediction window and
ends when some of the window is free again.
-/
namespace Lightyear.Sync
open Message

/-- The number of ticks that must be free before a wait ends. -/
def PREDICTION_WINDOW_HYSTERESIS_TICKS : Nat := 2

structure PredictionWindowWait where
  waiting : Bool
  origin_tick : Option Tick
  current_tick : Tick
  confirmed_tick : Option Tick
  prediction_depth : Int
  maximum_predicted_ticks : Nat
deriving DecidableEq

namespace PredictionWindowWait

def default : PredictionWindowWait := ⟨false,none,0,none,0,0⟩

/-- Updates the decision to wait, and returns whether it has changed. -/
def update (self : PredictionWindowWait) (current_tick : Tick) (confirmed_tick : Option Tick)
    (maximum_predicted_ticks : Nat) :
    Bool × PredictionWindowWait :=
  let origin_tick := self.origin_tick.getD current_tick
  let frontier := confirmed_tick.getD origin_tick
  let prediction_depth := current_tick.diff frontier
  let maximum : Int := maximum_predicted_ticks
  let resume_at : Int := (maximum_predicted_ticks - PREDICTION_WINDOW_HYSTERESIS_TICKS : Nat)
  let waiting :=
    if confirmed_tick.isNone ∧ current_tick = origin_tick then false
    else if self.waiting then decide (resume_at < prediction_depth)
    else decide (maximum ≤ prediction_depth)
  (waiting != self.waiting,
    ⟨waiting,some origin_tick,current_tick,confirmed_tick,prediction_depth,maximum_predicted_ticks⟩)

end PredictionWindowWait

/-- The decision and the next tick. -/
structure WaitRun where
  wait : PredictionWindowWait
  tick : Tick

namespace WaitRun
variable (m : Nat)

/-- An update with the confirmed frontier. The tick advances if there is no wait. -/
def step (self : WaitRun) (confirmed : Option Tick) : WaitRun :=
  let wait := (self.wait.update self.tick confirmed m).2
  ⟨wait,if wait.waiting then self.tick else self.tick.add 1⟩

def run (start_tick : Tick) (frontiers : List (Option Tick)) : WaitRun := frontiers.foldl (step m) ⟨.default,start_tick⟩

/-- The depth of the first update with a confirmed frontier. -/
def first_depth (start_tick : Tick) (frontiers : List (Option Tick)) : Int :=
  match frontiers.dropWhile Option.isNone with
  | some frontier :: _ => (run m start_tick (frontiers.takeWhile Option.isNone)).tick.diff frontier
  | _ => 0

end WaitRun

/-- A frontier that is there stays, and does not go back. -/
def Advances : Option Tick → Option Tick → Prop
  | none,_ => True
  | some _,none => False
  | some frontier,some next => frontier ≤ next

namespace PredictionWindowWait

/-- When an update decides to wait. -/
theorem waiting_iff (self : PredictionWindowWait) (current_tick : Tick) (confirmed : Option Tick) (m : Nat) :
    (self.update current_tick confirmed m).2.waiting = true ↔
      ¬(confirmed = none ∧ current_tick = self.origin_tick.getD current_tick) ∧
        (self.waiting = true ∧ ((m - PREDICTION_WINDOW_HYSTERESIS_TICKS : Nat) : Int) <
            current_tick.diff (confirmed.getD (self.origin_tick.getD current_tick)) ∨
          self.waiting = false ∧
            (m : Int) ≤ current_tick.diff (confirmed.getD (self.origin_tick.getD current_tick))) := by
  simp only [update,Option.isNone_iff_eq_none]
  split_ifs with first isWaiting
  · exact iff_of_false (fun isTrue => isTrue) fun later => later.1 first
  · simp only [decide_eq_true_eq,isWaiting,Bool.true_eq_false,true_and,false_and,or_false]
    exact (and_iff_right first).symm
  · rw [Bool.not_eq_true] at isWaiting
    simp only [decide_eq_true_eq,isWaiting,Bool.false_eq_true,false_and,true_and,false_or]
    exact (and_iff_right first).symm

/-- With every input up to the current tick there is no wait. -/
theorem update_not_waiting (self : PredictionWindowWait) {current_tick frontier : Tick} {m : Nat}
    (confirmed : current_tick ≤ frontier)
    (regular : 0 < m ∨ frontier ≠ current_tick) : (self.update current_tick (some frontier) m).2.waiting = false := by
  rw [← Bool.not_eq_true,waiting_iff,Option.getD_some]
  rintro ⟨-,deep⟩
  rw [PREDICTION_WINDOW_HYSTERESIS_TICKS] at deep
  have depth : 0 < m ∧ current_tick.diff frontier ≤ 0 ∨ current_tick.diff frontier < 0 := by
    rw [Tick.le_iff] at confirmed
    rcases regular with positive | differ
    · refine .inl ⟨positive,?_⟩
      rw [Tick.diff]
      omega
    · have := BitVec.toNat_ne.mp differ
      refine .inr ?_
      rw [Tick.diff]
      omega
  omega

/-- A second update with the same ticks decides the same. -/
theorem update_again (self : PredictionWindowWait) {current_tick : Tick} {confirmed : Option Tick} {m : Nat}
    (regular : 0 < m ∨ confirmed ≠ some current_tick) :
    ((self.update current_tick confirmed m).2.update current_tick confirmed m).2.waiting =
      (self.update current_tick confirmed m).2.waiting := by
  have decides := self.waiting_iff current_tick confirmed m
  have again := (self.update current_tick confirmed m).2.waiting_iff current_tick confirmed m
  rw [show (self.update current_tick confirmed m).2.origin_tick.getD current_tick =
    self.origin_tick.getD current_tick from rfl]
    at again
  by_cases first : confirmed = none ∧ current_tick = self.origin_tick.getD current_tick
  · rw [Bool.eq_iff_iff,again,decides]
    exact iff_of_false (fun later => later.1 first) fun later => later.1 first
  have depth : 0 < m ∨ current_tick.diff (confirmed.getD (self.origin_tick.getD current_tick)) ≠ 0 := by
    refine regular.imp_right fun differ => ?_
    have ne : confirmed.getD (self.origin_tick.getD current_tick) ≠ current_tick := by
      cases confirmed with
      | none => exact fun same => first ⟨rfl,same.symm⟩
      | some frontier => exact fun same => differ (congrArg some same)
    have := BitVec.toNat_ne.mp ne
    rw [Tick.diff]
    omega
  simp only [first,not_false_eq_true,true_and,PREDICTION_WINDOW_HYSTERESIS_TICKS] at decides again
  cases waits : (self.update current_tick confirmed m).2.waiting
  all_goals
    rw [waits] at decides again
    simp only [Bool.false_eq_true,false_iff,Bool.true_eq_false,true_iff,false_and,true_and,or_false,
      false_or] at decides again
  · rw [← Bool.not_eq_true,again]
    cases was : self.waiting <;> simp only [was] at decides <;> simp at decides <;> omega
  · rw [again]
    cases was : self.waiting <;> simp only [was] at decides <;> simp at decides <;> omega

end PredictionWindowWait

private theorem diff_antitone (tick : Tick) {frontier next : Tick} (later : frontier ≤ next) :
    tick.diff next ≤ tick.diff frontier := by
  rw [Tick.le_iff] at later
  rw [Tick.diff,Tick.diff]
  omega

namespace WaitRun
variable {m : Nat} {start_tick : Tick}

variable (m) in
/-- A step never leaves the tick further after the frontier than it was or the window allows. -/
theorem step_depth (self : WaitRun) (confirmed : Option Tick) :
    (self.step m confirmed).tick.diff (confirmed.getD (self.wait.origin_tick.getD self.tick)) ≤
      max (self.tick.diff (confirmed.getD (self.wait.origin_tick.getD self.tick))) (max (m : Int) 1) := by
  have advance (frontier : Tick) : (self.tick.add 1).diff frontier ≤ self.tick.diff frontier + 1 := by
    have := Tick.toNat_add self.tick 1
    rw [Tick.diff,Tick.diff]
    omega
  simp only [step]
  split_ifs with waiting
  · exact le_max_left _ _
  · rw [PredictionWindowWait.waiting_iff,not_and] at waiting
    by_cases first : confirmed = none ∧ self.tick = self.wait.origin_tick.getD self.tick
    · rw [first.1,Option.getD_none,← first.2]
      have := advance self.tick
      have : self.tick.diff self.tick = 0 := by
        rw [Tick.diff]
        omega
      omega
    · have window := waiting first
      have := advance (confirmed.getD (self.wait.origin_tick.getD self.tick))
      rw [PREDICTION_WINDOW_HYSTERESIS_TICKS] at window
      cases waits : self.wait.waiting
      all_goals
        simp only [waits,Bool.false_eq_true,Bool.true_eq_false,false_and,true_and,false_or,or_false] at window
        omega

private theorem run_concat (frontiers : List (Option Tick)) (confirmed : Option Tick) :
    run m start_tick (frontiers ++ [confirmed]) = (run m start_tick frontiers).step m confirmed := by
  rw [run,List.foldl_append]
  rfl

variable (m start_tick) in
/-- The origin is the start tick. -/
theorem run_origin (frontiers : List (Option Tick)) :
    (run m start_tick frontiers).wait.origin_tick.getD (run m start_tick frontiers).tick = start_tick := by
  induction frontiers using List.reverseRecOn with
  | nil => rfl
  | append_singleton frontiers confirmed before =>
    rw [run_concat]
    exact before

private theorem first_depth_none {frontiers : List (Option Tick)}
    (none_yet : ∀ confirmed ∈ frontiers, confirmed = none) :
    first_depth m start_tick frontiers = 0 := by
  have rest : frontiers.dropWhile Option.isNone = [] :=
    List.dropWhile_eq_nil_iff.mpr fun confirmed mem => Option.isNone_iff_eq_none.mpr (none_yet confirmed mem)
  rw [first_depth,rest]

private theorem first_depth_some {frontiers : List (Option Tick)} (none_yet : ∀ confirmed ∈ frontiers, confirmed = none)
    (frontier : Tick) (later : List (Option Tick)) :
    first_depth m start_tick (frontiers ++ some frontier :: later) =
      (run m start_tick frontiers).tick.diff frontier := by
  have isNone (confirmed : Option Tick) (mem : confirmed ∈ frontiers) : confirmed.isNone = true :=
    Option.isNone_iff_eq_none.mpr (none_yet confirmed mem)
  rw [first_depth,List.takeWhile_append_of_pos isNone,List.dropWhile_append_of_pos isNone]
  simp

/-- The depth at the first frontier does not change with the later ones. -/
private theorem first_depth_append {frontiers : List (Option Tick)} {frontier : Tick} (mem : some frontier ∈ frontiers)
    (later : List (Option Tick)) :
    first_depth m start_tick (frontiers ++ later) = first_depth m start_tick frontiers := by
  have first : ∃ before found after, frontiers = before ++ some found :: after ∧ ∀ confirmed ∈ before, confirmed =
      none := by
    induction frontiers with
    | nil => exact (nomatch mem)
    | cons confirmed rest ih =>
      cases confirmed with
      | some found => exact ⟨[],found,rest,rfl,fun _ none => (nomatch none)⟩
      | none =>
        obtain ⟨before,found,after,rfl,none_yet⟩ := ih (List.mem_of_ne_of_mem (by simp) mem)
        refine ⟨none :: before,found,after,rfl,fun confirmed isMember => ?_⟩
        rcases List.mem_cons.mp isMember with rfl | isMember
        · rfl
        · exact none_yet confirmed isMember
  obtain ⟨before,found,after,rfl,none_yet⟩ := first
  rw [List.append_assoc,List.cons_append,first_depth_some none_yet,first_depth_some none_yet]

/-- The tick and the last depth stay within the window, or within the depth at the first frontier. -/
theorem run_depth {frontiers : List (Option Tick)} (advances : frontiers.Pairwise Advances) :
    (run m start_tick frontiers).wait.prediction_depth ≤ max (max (m : Int) 1) (first_depth m start_tick frontiers) ∧
      ∃ last ∈ none :: frontiers, (last = none → ∀ confirmed ∈ frontiers, confirmed = none) ∧
        (run m start_tick frontiers).tick.diff (last.getD start_tick) ≤
          max (max (m : Int) 1) (first_depth m start_tick frontiers) := by
  induction frontiers using List.reverseRecOn with
  | nil =>
    refine ⟨by simp [run,PredictionWindowWait.default],none,List.mem_singleton_self none,by simp,?_⟩
    have : start_tick.diff start_tick = 0 := by
      rw [Tick.diff]
      omega
    change start_tick.diff start_tick ≤ _
    omega
  | append_singleton frontiers confirmed ih =>
    obtain ⟨before,-,next⟩ := List.pairwise_append.mp advances
    obtain ⟨-,last,mem,none_yet,depth⟩ := ih before
    have origin := run_origin m start_tick frontiers
    have within : (run m start_tick frontiers).tick.diff (confirmed.getD start_tick) ≤
        max (max (m : Int) 1) (first_depth m start_tick (frontiers ++ [confirmed])) := by
      cases last with
      | none =>
        cases confirmed with
        | none =>
          have none_still : ∀ confirmed ∈ frontiers ++ [none], confirmed = none := by
            simpa [or_imp,forall_and] using none_yet rfl
          rw [first_depth_none none_still]
          rwa [first_depth_none (none_yet rfl)] at depth
        | some frontier =>
          rw [first_depth_some (none_yet rfl)]
          exact le_max_right _ _
      | some last =>
        have isLast : some last ∈ frontiers := List.mem_of_ne_of_mem (by simp) mem
        have later := next (some last) isLast confirmed (List.mem_singleton_self confirmed)
        rw [first_depth_append isLast]
        cases confirmed with
        | none => exact later.elim
        | some frontier => exact (diff_antitone _ later).trans depth
    have stepped := step_depth m (run m start_tick frontiers) confirmed
    rw [origin] at stepped
    rw [run_concat]
    refine ⟨?_,confirmed,by simp,?_,stepped.trans (max_le within (le_max_left _ _))⟩
    · change (run m start_tick frontiers).tick.diff (confirmed.getD _) ≤ _
      rwa [origin]
    · rintro rfl earlier isMember
      rcases List.mem_append.mp isMember with isMember | isMember
      · cases earlier with
        | none => rfl
        | some frontier => exact (next _ isMember none (List.mem_singleton_self none)).elim
      · exact List.mem_singleton.mp isMember

end WaitRun

/-- The depth stays within the window, at least one, and the depth at which the first frontier was
found; a frontier at or after the tick ends the wait; and asking again does not change the decision.
An empty window with its frontier just at the tick is the exception to the last two. -/
theorem prediction_window (m : Nat) :
    (∀ start_tick frontiers, frontiers.Pairwise Advances → (WaitRun.run m start_tick frontiers).wait.prediction_depth ≤
        max (max (m : Int) 1) (WaitRun.first_depth m start_tick frontiers)) ∧
      (∀ (wait : PredictionWindowWait) (current_tick frontier : Tick), current_tick ≤ frontier →
        0 < m ∨ frontier ≠ current_tick → (wait.update current_tick (some frontier) m).2.waiting = false) ∧
      ∀ (wait : PredictionWindowWait) (current_tick : Tick) (confirmed : Option Tick), 0 < m ∨
        confirmed ≠ some current_tick →
        ((wait.update current_tick confirmed m).2.update current_tick confirmed m).2.waiting =
          (wait.update current_tick confirmed m).2.waiting := by
  refine ⟨fun start_tick frontiers advances => ?_,fun wait current_tick frontier confirmed regular => ?_,
    fun wait current_tick confirmed regular => ?_⟩
  · exact (WaitRun.run_depth advances).1
  · exact wait.update_not_waiting confirmed regular
  · exact wait.update_again regular

theorem prediction_window_two :
    (WaitRun.run 2 10 [none,none,some 9]).wait.prediction_depth ≤
      max (max ((2 : Nat) : Int) 1) (WaitRun.first_depth 2 10 [none,none,some 9]) ∧
      (PredictionWindowWait.default.update 3 (some 4) 2).2.waiting = false ∧
      ((PredictionWindowWait.default.update 3 none 2).2.update 3 none 2).2.waiting =
        (PredictionWindowWait.default.update 3 none 2).2.waiting :=
  ⟨(prediction_window 2).1 10 [none,none,some 9] (by simp [Advances]),
    (prediction_window 2).2.1 .default 3 4 (by decide) (.inl (by decide)),
    (prediction_window 2).2.2 .default 3 none (.inl (by decide))⟩

/-- A first frontier five ticks back is five ticks deep at once. With an empty window and the frontier
at the tick the decision is to wait, and when asked again not to. -/
theorem prediction_window_empty :
    ([some 0] : List (Option Tick)).Pairwise Advances ∧
      max (0 : Int) 1 < (WaitRun.run 0 5 [some 0]).wait.prediction_depth ∧
      (5 : Tick) ≤ 5 ∧ (WaitRun.run 0 5 [some 5]).wait.waiting = true ∧
      ((PredictionWindowWait.default.update 5 (some 5) 0).2.update 5 (some 5) 0).2.waiting ≠
        (PredictionWindowWait.default.update 5 (some 5) 0).2.waiting := by
  refine ⟨List.pairwise_singleton _ _,?_,?_,?_,?_⟩ <;> decide

end Lightyear.Sync
