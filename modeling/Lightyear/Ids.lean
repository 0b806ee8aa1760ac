import Lightyear.Serial

/-!
The identifiers made by `wrapping_id!` in `core/utils/src/wrapping_id.rs`. They
have no global order: `partial_cmp` looks only at the sign of the difference.
-/
namespace Lightyear.Ids

/-- The newtype over `u16` that `wrapping_id!` generates. -/
structure WrappingId where
  val : BitVec 16
deriving DecidableEq, Repr

abbrev MessageId := WrappingId
abbrev PacketId := WrappingId

/-- `wrapping_diff`: `b.wrapping_sub(a) as i16`. -/
def wrapping_diff (a b : BitVec 16) : Int := (b - a).toInt

namespace WrappingId

def partial_cmp (self other : WrappingId) : Ordering :=
  if wrapping_diff self.val other.val = 0 then .eq
  else if wrapping_diff self.val other.val > 0 then .lt
  else .gt

/-- `self < other` and `self > other` are two tests: ids that are exactly `2^15`
    apart are each greater than the other. -/
def lt (self other : WrappingId) : Bool := self.partial_cmp other == .lt
def gt (self other : WrappingId) : Bool := self.partial_cmp other == .gt

/-- `Sub`: `self.0.wrapping_sub(rhs.0) as i16`. -/
def sub (self rhs : WrappingId) : Int := (self.val - rhs.val).toInt

/-- `u16::wrapping_sub` and `AddAssign<u16>`. -/
def wrapping_sub (self : WrappingId) (rhs : Nat) : WrappingId := ⟨self.val - BitVec.ofNat 16 rhs⟩
def add_assign (self : WrappingId) (rhs : Nat) : WrappingId := ⟨self.val + BitVec.ofNat 16 rhs⟩

/-- `PacketId(u16::MAX)`. -/
def max : WrappingId := ⟨BitVec.allOnes 16⟩

/-- `MessageId::default()` and `PacketId(0)`. -/
def zero : WrappingId := ⟨0⟩

/-- The id that the `n`-th packet or message has on the wire. -/
def ofIndex (n : Int) : WrappingId := ⟨Serial.wrap 16 n⟩

end WrappingId
open WrappingId

theorem ofIndex_surjective (id : WrappingId) : ∃ n : Nat, n < 2 ^ 16 ∧ ofIndex n = id := by
  refine ⟨id.val.toNat,id.val.isLt,?_⟩
  cases id
  simp [ofIndex,Serial.wrap]

theorem add_assign_ofIndex (n : Int) (k : Nat) : (ofIndex n).add_assign k = ofIndex (n + k) := by
  have step : Serial.wrap 16 (n + k) = Serial.wrap 16 n + BitVec.ofNat 16 k := by
    rw [Serial.wrap_add]; simp [Serial.wrap,BitVec.ofInt_natCast]
  simp [add_assign,ofIndex,step]

theorem wrapping_sub_ofIndex (n : Int) (k : Nat) : (ofIndex n).wrapping_sub k = ofIndex (n - k) := by
  have back := add_assign_ofIndex (n - k) k
  rw [Int.sub_add_cancel] at back
  rw [← back]
  simp only [wrapping_sub,add_assign,BitVec.add_sub_cancel]

theorem ofIndex_inj {a b : Int} (low : -2 ^ 16 < a - b) (high : a - b < 2 ^ 16) (same : ofIndex a = ofIndex b) :
    a = b :=
  Serial.wrap_inj low high (WrappingId.mk.inj same)

/-- Within half the id space the difference of two ids is the difference of
    their indices. -/
theorem sub_ofIndex {a b : Int} (low : -2 ^ 15 ≤ a - b) (high : a - b < 2 ^ 15) :
    (ofIndex a).sub (ofIndex b) = a - b :=
  Serial.dist_wrap (by omega) (by omega)

/-- Whatever an id is, some index at its distance has it. -/
theorem ofIndex_sub_sub (n : Int) (id : WrappingId) : ofIndex (n - (ofIndex n).sub id) = id := by
  have distance : Serial.wrap 16 ((ofIndex n).sub id) = Serial.wrap 16 n - id.val := Serial.wrap_toInt _
  have back : Serial.wrap 16 (n - (ofIndex n).sub id) = id.val := by
    have whole := Serial.wrap_add 16 (n - (ofIndex n).sub id) ((ofIndex n).sub id)
    rw [Int.sub_add_cancel,distance] at whole
    bv_omega
  rw [ofIndex,back]

theorem wrapping_diff_ofIndex {a b : Int} (low : -2 ^ 15 ≤ b - a) (high : b - a < 2 ^ 15) :
    wrapping_diff (ofIndex a).val (ofIndex b).val = b - a :=
  sub_ofIndex low high

theorem lt_ofIndex {a b : Int} (low : -2 ^ 15 ≤ b - a) (high : b - a < 2 ^ 15) :
    (ofIndex a).lt (ofIndex b) = decide (a < b) := by
  simp only [lt,partial_cmp,wrapping_diff_ofIndex low high]
  rcases lt_trichotomy a b with less | same | more
  · simp [less,show ¬ b - a = 0 by omega]
  · simp [same]
  · simp [show ¬ b - a = 0 by omega,show ¬ a < b by omega]

theorem gt_ofIndex {a b : Int} (low : -2 ^ 15 ≤ b - a) (high : b - a < 2 ^ 15) :
    (ofIndex a).gt (ofIndex b) = decide (b < a) := by
  simp only [gt,partial_cmp,wrapping_diff_ofIndex low high]
  rcases lt_trichotomy a b with less | same | more
  · simp [less,show ¬ b - a = 0 by omega,show ¬ b < a by omega]
  · simp [same]
  · simp [show ¬ b - a = 0 by omega,show ¬ a < b by omega,more]

@[simp] theorem not_lt_self (id : WrappingId) : id.lt id = false := by
  simp [lt,partial_cmp,wrapping_diff]

@[simp] theorem not_gt_self (id : WrappingId) : id.gt id = false := by
  simp [gt,partial_cmp,wrapping_diff]

/-- Every pair of ids is equal, ascending or descending. -/
theorem eq_of_not_lt_gt {a b : WrappingId} (notLess : a.lt b = false) (notGreater : a.gt b = false) : a = b := by
  simp only [lt,gt,partial_cmp] at notLess notGreater
  split at notLess
  · next same =>
    have zero : b.val - a.val = 0 := BitVec.eq_of_toInt_eq (by simpa [wrapping_diff] using same)
    have equal : b.val = a.val := by
      rw [← BitVec.sub_add_cancel b.val a.val,zero]; simp
    cases a; cases b
    simpa using equal.symm
  · split at notLess <;> simp_all

end Lightyear.Ids
