import Mathlib.Algebra.Group.Nat.Even
import Mathlib.Data.Multiset.Fold
import Mathlib.Data.Finset.Basic
import Mathlib.Tactic

/-!
The exclusive or of the hashes of a multiset. It does not depend on an order, and two
equal values cancel, so that it depends on the values with an odd number of occurrences.
-/
namespace Xor

variable {V : Type} {w : Nat}

/-- The exclusive or of some words. -/
def all (words : Multiset (BitVec w)) : BitVec w := words.fold (· ^^^ ·) 0

@[simp] theorem all_zero : all (0 : Multiset (BitVec w)) = 0 := Multiset.fold_zero ..

@[simp] theorem all_cons (word : BitVec w) (words : Multiset (BitVec w)) : all (word ::ₘ words) = word ^^^ all words :=
  Multiset.fold_cons_left ..

theorem all_add (a b : Multiset (BitVec w)) : all (a + b) = all a ^^^ all b := by
  induction a using Multiset.induction with
  | empty => simp
  | cons word words ih => rw [Multiset.cons_add,all_cons,all_cons,ih,BitVec.xor_assoc]

theorem eq_iff_xor (a b : BitVec w) : a = b ↔ a ^^^ b = 0 := BitVec.xor_eq_zero_iff.symm

/-- A loop that combines words in the order of a list. -/
theorem foldl_eq {step : BitVec w → V → BitVec w} (word : V → BitVec w)
    (steps : ∀ init value,step init value = init ^^^ word value)
    (values : List V) (init : BitVec w) :
    values.foldl step init = init ^^^ all (values.map word : Multiset (BitVec w)) := by
  induction values generalizing init with
  | nil => simp
  | cons value values ih =>
    rw [List.foldl_cons,ih,steps,List.map_cons,← Multiset.cons_coe,all_cons,BitVec.xor_assoc]

variable [DecidableEq V]

/-- The values with an odd number of occurrences. -/
def odd (values : Multiset V) : Finset V := values.toFinset.filter fun value => Odd (values.count value)

theorem mem_odd (values : Multiset V) (value : V) : value ∈ odd values ↔ Odd (values.count value) := by
  rw [odd,Finset.mem_filter,Multiset.mem_toFinset]
  refine and_iff_right_of_imp fun isOdd => ?_
  by_contra absent
  rw [Multiset.count_eq_zero_of_notMem absent] at isOdd
  exact absurd isOdd (by decide)

theorem odd_cons (value : V) (values : Multiset V) :
    odd (value ::ₘ values) = if value ∈ odd values then (odd values).erase value else insert value (odd values) := by
  ext other
  rw [mem_odd,Multiset.count_cons]
  split_ifs with same isOdd isOdd
  · subst same
    simp [(mem_odd _ _).mp isOdd,Nat.odd_add_one]
  · subst same
    simp [Nat.odd_add_one,← mem_odd,isOdd]
  · simp [same,mem_odd]
  · simp [same,mem_odd]

/-- Only the values with an odd number of occurrences matter. -/
theorem all_odd (hash : V → BitVec w) (values : Multiset V) :
    all (values.map hash) = all ((odd values).val.map hash) := by
  induction values using Multiset.induction with
  | empty => rfl
  | cons value values ih =>
    rw [Multiset.map_cons,all_cons,ih,odd_cons]
    split_ifs with isOdd
    · have split := Multiset.cons_erase (s := (odd values).val) isOdd
      rw [Finset.erase_val,← congrArg (fun values => all (Multiset.map hash values)) split,Multiset.map_cons,all_cons,
        ← BitVec.xor_assoc,BitVec.xor_self,BitVec.zero_xor]
    · rw [Finset.insert_val_of_notMem isOdd,Multiset.map_cons,all_cons]

end Xor
