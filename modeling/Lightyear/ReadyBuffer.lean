import Mathlib.Tactic

/-!
The buffer of `ready_buffer.rs`: items are taken in the order of their keys, as soon as
the current key has reached theirs.
-/
namespace Lightyear.Utils

variable {K T : Type} [LinearOrder K]

/-- The items of the heap, in the order in which they were pushed. -/
structure ReadyBuffer (K T : Type) where
  heap : List (K × T)

namespace ReadyBuffer

/-- `BinaryHeap::pop` of a min-heap: an item with the smallest key, and the others. -/
def pop : List (K × T) → Option ((K × T) × List (K × T))
  | [] => none
  | first :: rest =>
    match pop rest with
    | none => some (first,[])
    | some (least,others) => if first.1 ≤ least.1 then some (first,rest) else some (least,first :: others)

/-- The loop of `drain_until`, which pops an item in every round. -/
def drain (key : K) : Nat → List (K × T) → List (K × T) × List (K × T)
  | 0,heap => ([],heap)
  | rounds + 1,heap =>
    match pop heap with
    | none => ([],heap)
    | some (least,others) =>
      if least.1 > key then ([],heap)
      else
        let (popped,left) := drain key rounds others
        (least :: popped,left)

def new : ReadyBuffer K T := ⟨[]⟩

def len (self : ReadyBuffer K T) : Nat := self.heap.length

def push (self : ReadyBuffer K T) (key : K) (item : T) : ReadyBuffer K T := ⟨self.heap ++ [(key,item)]⟩

/-- An item is ready when the current key has reached its key. -/
def has_item (self : ReadyBuffer K T) (current_key : K) : Bool :=
  match pop self.heap with
  | none => false
  | some (least,_) => least.1 ≤ current_key

def pop_item (self : ReadyBuffer K T) (current_key : K) : Option (K × T) × ReadyBuffer K T :=
  if self.has_item current_key then
    match pop self.heap with
    | none => (none,self)
    | some (least,others) => (some least,⟨others⟩)
  else (none,self)

/-- The items with a key up to the one given, and the buffer without them. -/
def drain_until (self : ReadyBuffer K T) (key : K) : List (K × T) × ReadyBuffer K T :=
  let (popped,left) := drain key self.heap.length self.heap
  (popped,⟨left⟩)

/-- Every item was pushed under a key above those before it. -/
def Ordered (self : ReadyBuffer K T) : Prop := self.heap.Pairwise fun a b => a.1 < b.1

private theorem pop_ordered {first : K × T} {rest : List (K × T)}
    (ordered : (first :: rest).Pairwise fun a b => a.1 ≤ b.1) : pop (first :: rest) = some (first,rest) := by
  obtain ⟨after,tail⟩ := List.pairwise_cons.mp ordered
  induction rest generalizing first with
  | nil => rfl
  | cons second rest ih =>
    have less := after second List.mem_cons_self
    rw [pop,ih tail (List.pairwise_cons.mp tail).1 (List.pairwise_cons.mp tail).2]
    exact if_pos less

/-- The first of several items whose keys do not decrease is popped when it is ready. -/
theorem pop_item_cons {first : K × T} {rest : List (K × T)} (ordered : (first :: rest).Pairwise fun a b => a.1 ≤ b.1)
    (current_key : K) :
    (⟨first :: rest⟩ : ReadyBuffer K T).pop_item current_key =
      if first.1 ≤ current_key then (some first,⟨rest⟩) else (none,⟨first :: rest⟩) := by
  rw [pop_item,has_item,pop_ordered ordered]
  simp

private theorem drain_ordered (key : K) {heap : List (K × T)} (ordered : heap.Pairwise fun a b => a.1 < b.1) :
    drain key heap.length heap = (heap.takeWhile (·.1 ≤ key),heap.dropWhile (·.1 ≤ key)) := by
  induction heap with
  | nil => rfl
  | cons first rest ih =>
    rw [List.length_cons,drain,pop_ordered (ordered.imp le_of_lt)]
    by_cases due : first.1 ≤ key
    · simp [due,ih (List.pairwise_cons.mp ordered).2]
    · simp [due,not_le.mp due]

/-- Items whose keys increase are drained in the order in which they were pushed, and the others stay. -/
theorem Ordered.drain_until {self : ReadyBuffer K T} (ordered : self.Ordered) (key : K) :
    (self.drain_until key).1 ++ (self.drain_until key).2.heap = self.heap ∧ (self.drain_until key).2.Ordered := by
  rw [ReadyBuffer.drain_until,drain_ordered key ordered]
  exact ⟨List.takeWhile_append_dropWhile,List.Pairwise.sublist (List.dropWhile_sublist _) ordered⟩

theorem Ordered.push {self : ReadyBuffer K T} (ordered : self.Ordered) {key : K} (item : T)
    (above : ∀ waiting ∈ self.heap, waiting.1 < key) : (self.push key item).Ordered :=
  List.pairwise_append.mpr ⟨ordered,List.pairwise_singleton _ _,fun waiting member last isLast => by
    rw [List.mem_singleton.mp isLast]
    exact above waiting member⟩

end ReadyBuffer
end Lightyear.Utils
