import Mathlib.Data.Int.ModEq
import Mathlib.Tactic

/-!
Serial numbers. An unbounded index is sent as its last `w` bits, and two of these
are compared by the sign of their difference. The comparison is right exactly
while the indices are less than half the number space apart (`dist_wrap`).
-/
namespace Serial

/-- The `w` bits that the index `n` is sent as. -/
def wrap (w : Nat) (n : Int) : BitVec w := BitVec.ofInt w n

/-- The signed distance that one has to go from `b` to reach `a`. -/
def dist {w : Nat} (a b : BitVec w) : Int := (a - b).toInt

theorem wrap_toInt {w : Nat} (a : BitVec w) : wrap w a.toInt = a := by
  simp [wrap]

theorem wrap_add (w : Nat) (a b : Int) : wrap w (a + b) = wrap w a + wrap w b :=
  BitVec.ofInt_add a b

theorem dist_wrap_bmod (w : Nat) (a b : Int) : dist (wrap w a) (wrap w b) = (a - b).bmod (2 ^ w) := by
  simp [dist,wrap]

/-- Indices less than half the number space apart keep their exact distance. -/
theorem dist_wrap {w : Nat} {a b : Int} (low : -(2 ^ w : Int) ≤ 2 * (a - b)) (high : 2 * (a - b) < 2 ^ w) :
    dist (wrap w a) (wrap w b) = a - b := by
  rw [dist_wrap_bmod]
  apply Int.bmod_eq_of_le_mul_two
  · push_cast; omega
  · push_cast; omega

theorem wrap_eq_iff {w : Nat} {a b : Int} : wrap w a = wrap w b ↔ (2 ^ w : Int) ∣ a - b := by
  rw [← BitVec.toInt_inj,wrap,wrap,BitVec.toInt_ofInt,BitVec.toInt_ofInt]
  constructor
  · intro same
    have rest := Int.dvd_bmod_sub_self (x := a) (m := 2 ^ w)
    have rest' := Int.dvd_bmod_sub_self (x := b) (m := 2 ^ w)
    rw [same] at rest
    have both := Int.dvd_sub rest' rest
    push_cast at both
    simpa using both
  · intro divides
    have rest : a.bmod (2 ^ w) = b.bmod (2 ^ w) := by
      rw [Int.bmod_eq_bmod_iff_bmod_sub_eq_zero,← Int.dvd_iff_bmod_eq_zero]
      push_cast
      exact divides
    exact rest

/-- Indices less than the number space apart are told apart by their bits. -/
theorem wrap_inj {w : Nat} {a b : Int} (low : -(2 ^ w : Int) < a - b) (high : a - b < 2 ^ w)
    (same : wrap w a = wrap w b) : a = b := by
  obtain ⟨k,multiple⟩ := wrap_eq_iff.mp same
  have positive : (0 : Int) < 2 ^ w := by positivity
  have below : k < 1 := by by_contra above; nlinarith
  have above : -1 < k := by by_contra below; nlinarith
  have zero : k = 0 := by omega
  subst zero
  simp at multiple
  omega

end Serial
