import Mathlib.Tactic

/-!
Runs of a system whose steps are partial: an event that cannot happen in a state has
no next state. A condition on the steps is part of the run, not of the system.
-/
namespace Runs

variable {S E : Type}

/-- The states that a run reaches when all of its steps meet a condition. -/
inductive Reaches (step : S → E → Option S) (meets : S → E → S → Prop) (start : S) : S → Prop
  | start : Reaches step meets start start
  | step {before after : S} (event : E) : Reaches step meets start before → step before event = some after →
      meets before event after → Reaches step meets start after

variable {step : S → E → Option S} {meets : S → E → S → Prop} {start : S}

/-- What holds at the start and is kept by every step holds in every state reached. -/
theorem Reaches.invariant (holds : S → Prop) (initially : holds start)
    (kept : ∀ before event after, holds before → step before event = some after → meets before event after →
      holds after)
    {s : S} (reached : Reaches step meets start s) : holds s := by
  induction reached with
  | start => exact initially
  | step event _ executed condition ih => exact kept _ event _ ih executed condition

/-- Executes a list of events as far as they can happen and meet the condition. -/
def run (step : S → E → Option S) (meets : S → E → S → Prop) [∀ s e s', Decidable (meets s e s')] :
    S → List E → Option S
  | s, [] => some s
  | s, event :: events =>
    match step s event with
    | none => none
    | some after => if meets s event after then run step meets after events else none

theorem reaches_of_run [∀ s e s', Decidable (meets s e s')] {events : List E} {s s' : S}
    (reached : Reaches step meets start s) (executed : run step meets s events = some s') :
    Reaches step meets start s' := by
  induction events generalizing s with
  | nil => cases executed; exact reached
  | cons event events ih =>
    simp only [run] at executed
    split at executed
    · cases executed
    · next after stepped =>
      split at executed
      · next condition => exact ih (.step event reached stepped condition) executed
      · cases executed

/-- A list of events that leads to a state that passes a check. -/
theorem reaches_of_check (step : S → E → Option S) (meets : S → E → S → Prop)
    [∀ s e s', Decidable (meets s e s')] (start : S) (check : S → Bool) (events : List E)
    (passes : (run step meets start events).any check = true) : ∃ s, Reaches step meets start s ∧ check s = true := by
  cases executed : run step meets start events with
  | none =>
    rw [executed] at passes
    cases passes
  | some s =>
    rw [executed] at passes
    exact ⟨s,reaches_of_run .start executed,passes⟩

/-- Every state of a run with the event that happens in it, up to an event that has no next state. -/
def turns (step : S → E → Option S) : S → List E → List (S × E)
  | _, [] => []
  | s, event :: events => (s,event) :: ((step s event).elim [] fun after => turns step after events)

end Runs
