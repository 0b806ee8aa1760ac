import Lightyear.Message
import Mathlib.Tactic

/-!
The ticks of `tick.rs`. They are ordered as numbers and do not wrap: arithmetic on
them stops at 0 and at the largest `u32`, and a difference of two ticks at the
bounds of an `i32`.
-/
namespace Lightyear.Message

instance : LinearOrder Tick where
  le := (· ≤ ·)
  lt := (· < ·)
  le_refl a := Nat.le_refl a.toNat
  le_trans _ _ _ ab bc := Nat.le_trans ab bc
  lt_iff_le_not_ge _ _ := Nat.lt_iff_le_and_not_ge
  le_antisymm _ _ ab ba := BitVec.eq_of_toNat_eq (Nat.le_antisymm ab ba)
  le_total a b := Nat.le_total a.toNat b.toNat
  toDecidableLE := inferInstance
  toDecidableLT := inferInstance
  toDecidableEq := inferInstance

namespace Tick
/-- `Tick(u32::MAX)` -/
def MAX : Tick := BitVec.ofNat 32 (2 ^ 32 - 1)

/-- `Tick + u32`, and `+=` -/
def add (self : Tick) (rhs : Nat) : Tick := BitVec.ofNat 32 (min (self.toNat + rhs) (2 ^ 32 - 1))

/-- `Tick - u32` -/
def sub (self : Tick) (rhs : Nat) : Tick := BitVec.ofNat 32 (self.toNat - rhs)

/-- `Tick + i32` -/
def add_signed (self : Tick) (rhs : Int) : Tick := BitVec.ofNat 32 (min ((self.toNat + rhs).toNat) (2 ^ 32 - 1))

/-- `Tick - Tick` -/
def diff (self rhs : Tick) : Int := max (-2 ^ 31) (min (self.toNat - rhs.toNat) (2 ^ 31 - 1))

@[simp] theorem toNat_add (self : Tick) (rhs : Nat) : (self.add rhs).toNat = min (self.toNat + rhs) (2 ^ 32 - 1) := by
  rw [add,BitVec.toNat_ofNat]
  omega

@[simp] theorem toNat_sub (self : Tick) (rhs : Nat) : (self.sub rhs).toNat = self.toNat - rhs := by
  have := self.isLt
  rw [sub,BitVec.toNat_ofNat]
  omega

@[simp] theorem toNat_add_signed (self : Tick) (rhs : Int) :
    (self.add_signed rhs).toNat = min ((self.toNat + rhs).toNat) (2 ^ 32 - 1) := by
  rw [add_signed,BitVec.toNat_ofNat]
  omega

theorem lt_iff (a b : Tick) : a < b ↔ a.toNat < b.toNat := Iff.rfl
theorem le_iff (a b : Tick) : a ≤ b ↔ a.toNat ≤ b.toNat := Iff.rfl

/-- A shift keeps the order, also where it saturates. -/
theorem add_signed_le {a b : Tick} {rhs : Int} (le : a ≤ b) : a.add_signed rhs ≤ b.add_signed rhs := by
  rw [le_iff] at le ⊢
  simp only [toNat_add_signed]
  omega

instance : WellFoundedLT Tick := ⟨(measure BitVec.toNat).wf⟩
end Tick
end Lightyear.Message
