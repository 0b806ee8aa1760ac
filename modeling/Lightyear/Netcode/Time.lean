import Mathlib.Data.Int.Basic

/-!
The times of the crate are `f64`. Which of them are equal, or how they round, does not
matter here: any type with these operations will do.
-/
namespace Lightyear.Netcode

/-- What the crate uses of `f64`. -/
class F64 (F : Type) where
  add : F → F → F
  sub : F → F → F
  lt : F → F → Bool
  le : F → F → Bool
  zero : F
  one : F
  infinity : F
  neg_infinity : F
  of_i32 : Int32 → F
  of_u64 : UInt64 → F

/-- Whole numbers of seconds, on which `f64` is exact. -/
inductive Seconds where
  | nan
  | neg_infinity
  | of (seconds : Int)
  | infinity
deriving DecidableEq, Repr

namespace Seconds

def add : Seconds → Seconds → Seconds
  | .of a, .of b => .of (a + b)
  | .infinity, .of _ | .of _, .infinity | .infinity, .infinity => .infinity
  | .neg_infinity, .of _ | .of _, .neg_infinity | .neg_infinity, .neg_infinity => .neg_infinity
  | _, _ => .nan

def neg : Seconds → Seconds
  | .of a => .of (-a)
  | .infinity => .neg_infinity
  | .neg_infinity => .infinity
  | .nan => .nan

def le : Seconds → Seconds → Bool
  | .nan, _ | _, .nan => false
  | .neg_infinity, _ | _, .infinity => true
  | .of a, .of b => a ≤ b
  | _, _ => false

end Seconds

instance : F64 Seconds where
  add := Seconds.add
  sub a b := a.add b.neg
  lt a b := a.le b && a != b
  le := Seconds.le
  zero := .of 0
  one := .of 1
  infinity := .infinity
  neg_infinity := .neg_infinity
  of_i32 n := .of n.toInt
  of_u64 n := .of n.toNat

end Lightyear.Netcode
