import Mathlib.Data.List.Basic
import Mathlib.Tactic

/-!
A full ring of fixed size: pushing an element drops the one pushed longest ago.
-/
namespace Ring

/-- The elements of a full ring of size `size`, the last one pushed first. -/
structure Buffer (α : Type) (size : Nat) where
  items : List α
  full : items.length = size
deriving DecidableEq

variable {α : Type} {size : Nat}

def fill (size : Nat) (value : α) : Buffer α size := ⟨List.replicate size value,by simp⟩

def enqueue (ring : Buffer α size) (value : α) : Buffer α size :=
  ⟨(value :: ring.items).take size,by simp [ring.full]⟩

/-- Overwrites the element at the signed position `-back`, where `-1` is the last one pushed. -/
def setBack (ring : Buffer α size) (back : Nat) (value : α) : Buffer α size :=
  ⟨ring.items.set (back - 1) value,by simp [ring.full]⟩

/-- The elements from the one pushed longest ago to the last one pushed. -/
def iter (ring : Buffer α size) : List α := ring.items.reverse

/-- The element pushed `back` pushes before the last one. -/
def get? (ring : Buffer α size) (back : Nat) : Option α := ring.items[back]?

theorem get?_fill {value : α} {back : Nat} (inside : back < size) : get? (fill size value) back = some value := by
  simp [get?,fill,inside]

theorem get?_enqueue_zero (ring : Buffer α size) (value : α) (inside : 0 < size) :
    get? (enqueue ring value) 0 = some value := by
  simp [get?,enqueue,inside]

theorem get?_enqueue_succ (ring : Buffer α size) (value : α) {back : Nat} (inside : back + 1 < size) :
    get? (enqueue ring value) (back + 1) = get? ring back := by
  simp [get?,enqueue,inside]

theorem get?_setBack (ring : Buffer α size) {back : Nat} (value : α) {other : Nat} (positive : 0 < back)
    (inside : other < size) :
    get? (setBack ring back value) other = if other + 1 = back then some value else get? ring other := by
  simp only [get?,setBack,List.getElem?_set]
  by_cases same : back - 1 = other
  · have isBack : other + 1 = back := by omega
    have inItems : back - 1 < ring.items.length := by rw [ring.full]; omega
    simp [same,isBack,show other < ring.items.length by rw [ring.full]; exact inside]
  · simp [same,show ¬ other + 1 = back by omega]

/-- Pushing one value many times leaves the older elements behind the pushed ones. -/
theorem get?_iterate_enqueue (ring : Buffer α size) (value : α) (count : Nat) {back : Nat} (inside : back < size) :
    get? ((fun r => enqueue r value)^[count] ring) back =
      if back < count then some value else get? ring (back - count) := by
  induction count generalizing back with
  | zero => simp
  | succ count ih =>
    rw [Function.iterate_succ_apply']
    cases back with
    | zero => rw [get?_enqueue_zero _ _ inside]; simp
    | succ back =>
      rw [get?_enqueue_succ _ _ inside,ih (by omega)]
      simp

end Ring
