import Mathlib.Tactic

/-!
A list cut into chunks of one size, the last one shorter, and put together again in
a buffer that is sized before the last chunk is known.
-/
namespace Chunks

variable {α : Type}

/-- The number of chunks that a list of length `len` is cut into. -/
def count (size len : Nat) : Nat := (len + size - 1) / size

/-- The `i`-th chunk. -/
def chunk (size : Nat) (whole : List α) (i : Nat) : List α := (whole.drop (i * size)).take size

/-- `slice::chunks` -/
def chunks (size : Nat) (whole : List α) : List (List α) :=
  (List.range (count size whole.length)).map (chunk size whole)

/-- `copy_from_slice` into the range that starts at `start`. -/
def splice (buffer : List α) (start : Nat) (part : List α) : List α :=
  buffer.take start ++ part ++ buffer.drop (start + part.length)

/-- `Vec::resize` -/
def resize (buffer : List α) (len : Nat) (fill : α) : List α :=
  buffer.take len ++ List.replicate (len - buffer.length) fill

theorem length_chunks (size : Nat) (whole : List α) : (chunks size whole).length = count size whole.length := by
  simp [chunks]

theorem length_chunk (size : Nat) (whole : List α) (i : Nat) :
    (chunk size whole i).length = min size (whole.length - i * size) := by
  simp [chunk]

theorem getElem?_chunk (size : Nat) (whole : List α) (i : Nat) {k : Nat} (inside : k < size) :
    (chunk size whole i)[k]? = whole[i * size + k]? := by
  rw [chunk,List.getElem?_take_of_lt inside,List.getElem?_drop]

theorem length_splice {buffer part : List α} {start : Nat} (inside : start + part.length ≤ buffer.length) :
    (splice buffer start part).length = buffer.length := by
  simp only [splice,List.length_append,List.length_take,List.length_drop]
  omega

theorem getElem?_splice {buffer part : List α} {start : Nat} (inside : start + part.length ≤ buffer.length) (k : Nat) :
    (splice buffer start part)[k]? =
      if start ≤ k ∧ k < start + part.length then part[k - start]? else buffer[k]? := by
  have taken : (buffer.take start).length = start := by rw [List.length_take]; omega
  unfold splice
  by_cases before : k < start
  · rw [List.append_assoc,List.getElem?_append_left (by omega),List.getElem?_take_of_lt before,if_neg (by omega)]
  by_cases within : k < start + part.length
  · rw [if_pos ⟨by omega,within⟩,List.getElem?_append_left (by rw [List.length_append]; omega),
      List.getElem?_append_right (by omega),taken]
  · rw [if_neg (by omega),List.getElem?_append_right (by rw [List.length_append]; omega),List.length_append,taken,
      List.getElem?_drop]
    congr 1
    omega

theorem length_resize {buffer : List α} {len : Nat} (fill : α) : (resize buffer len fill).length = len := by
  simp only [resize,List.length_append,List.length_take,List.length_replicate]
  omega

theorem getElem?_resize {buffer : List α} {len : Nat} (fill : α) {k : Nat} (inside : k < len)
    (stored : k < buffer.length) : (resize buffer len fill)[k]? = buffer[k]? := by
  rw [resize,List.getElem?_append_left (by rw [List.length_take]; omega),List.getElem?_take_of_lt inside]

section Count
variable {size len : Nat}

theorem count_eq_zero (positive : 0 < size) : count size len = 0 ↔ len = 0 := by
  rw [count,Nat.div_eq_zero_iff]
  omega

/-- All chunks together hold the list, and all but the last one do not. -/
theorem le_count_mul (positive : 0 < size) : len ≤ count size len * size := by
  have split := Nat.div_add_mod (len + size - 1) size
  have rest := Nat.mod_lt (len + size - 1) positive
  rw [count,Nat.mul_comm]
  omega

theorem pred_count_mul_lt (positive : 0 < size) (nonempty : 0 < len) : (count size len - 1) * size < len := by
  have split := Nat.div_mul_le_self (len + size - 1) size
  rw [count,Nat.sub_mul]
  omega

theorem count_mul_lt (positive : 0 < size) : count size len * size < len + size := by
  have split := Nat.div_mul_le_self (len + size - 1) size
  rw [count]
  omega

theorem div_lt_count (positive : 0 < size) {k : Nat} (inside : k < len) : k / size < count size len := by
  rw [Nat.div_lt_iff_lt_mul positive]
  have all : len ≤ count size len * size := le_count_mul positive
  omega

/-- Only the last chunk is short. -/
theorem length_chunk_full {whole : List α} {i : Nat} (before : i + 1 < count size whole.length) :
    (chunk size whole i).length = size := by
  have positive : 0 < size := by
    rcases Nat.eq_zero_or_pos size with zero | positive
    · subst zero; simp [count] at before
    · exact positive
  have nonempty : 0 < whole.length := by
    by_contra empty
    rw [(count_eq_zero positive).mpr (by omega)] at before
    omega
  have last := pred_count_mul_lt positive nonempty
  have next : (i + 1) * size ≤ (count size whole.length - 1) * size := Nat.mul_le_mul_right _ (by omega)
  rw [Nat.succ_mul] at next
  rw [length_chunk]
  omega

theorem length_chunk_last {whole : List α} (positive : 0 < size) (nonempty : 0 < whole.length) :
    (count size whole.length - 1) * size + (chunk size whole (count size whole.length - 1)).length = whole.length := by
  have all : whole.length ≤ count size whole.length * size := le_count_mul positive
  have last := pred_count_mul_lt positive nonempty
  have some : 0 < count size whole.length := by
    rw [Nat.pos_iff_ne_zero,ne_eq,count_eq_zero positive]
    omega
  have split : count size whole.length * size = (count size whole.length - 1) * size + size := by
    rw [← Nat.succ_mul]
    congr 1
    omega
  rw [length_chunk]
  omega

theorem length_chunk_le {whole : List α} (i : Nat) : (chunk size whole i).length ≤ size := by
  rw [length_chunk]
  omega

end Count

/-! ### Reassembly -/

/-- A buffer that holds the chunks in `got`, and has its final length once the last
    chunk is among them. -/
structure Filled (size : Nat) (whole buffer : List α) (got : List Nat) : Prop where
  exact : count size whole.length - 1 ∈ got → buffer.length = whole.length
  roomy : count size whole.length - 1 ∉ got → buffer.length = count size whole.length * size
  same : ∀ k < whole.length, k / size ∈ got → buffer[k]? = whole[k]?

/-- Writes the `i`-th of `n` chunks at its place; the last one fixes the length. -/
def write (size n : Nat) (buffer : List α) (i : Nat) (part : List α) (fill : α) : List α :=
  splice (if i = n - 1 then resize buffer ((n - 1) * size + part.length) fill else buffer) (i * size) part

theorem filled_nil (size : Nat) (whole : List α) (fill : α) :
    Filled size whole (List.replicate (count size whole.length * size) fill) [] :=
  ⟨by simp,by simp,by simp⟩

section Write
variable {size : Nat} {whole buffer : List α} {got : List Nat} {i : Nat}

/-- A chunk lies inside the buffer that it is written to. -/
theorem chunk_inside (known : Filled size whole buffer got) (positive : 0 < size) (inside : i < count size whole.length)
    (middle : i ≠ count size whole.length - 1) : i * size + (chunk size whole i).length ≤ buffer.length := by
  have nonempty : 0 < whole.length := by
    by_contra empty
    rw [(count_eq_zero positive).mpr (by omega)] at inside
    omega
  have last := pred_count_mul_lt positive nonempty
  have full : (chunk size whole i).length = size := length_chunk_full (by omega)
  have next : (i + 1) * size ≤ (count size whole.length - 1) * size := Nat.mul_le_mul_right _ (by omega)
  rw [Nat.succ_mul] at next
  have all : whole.length ≤ count size whole.length * size := le_count_mul positive
  by_cases arrived : count size whole.length - 1 ∈ got
  · rw [known.exact arrived]; omega
  · rw [known.roomy arrived]; omega

/-- Writing a chunk that was missing. -/
theorem filled_write (known : Filled size whole buffer got) (positive : 0 < size) (inside : i < count size whole.length)
    (missing : i ∉ got) (fill : α) :
    Filled size whole (write size (count size whole.length) buffer i (chunk size whole i) fill) (i :: got) := by
  have nonempty : 0 < whole.length := by
    by_contra empty
    rw [(count_eq_zero positive).mpr (by omega)] at inside
    omega
  have place : ∀ k < whole.length, (i * size ≤ k ∧ k < i * size + (chunk size whole i).length) ↔ k / size = i := by
    intro k low
    rw [length_chunk,Nat.div_eq_iff positive]
    omega
  have own : ∀ k, i * size ≤ k → k < i * size + (chunk size whole i).length →
      (chunk size whole i)[k - i * size]? = whole[k]? := by
    intro k start stop
    rw [length_chunk] at stop
    rw [getElem?_chunk _ _ _ (by omega)]
    congr 1
    omega
  -- It is enough to know the buffer that the chunk is copied into.
  have written : ∀ base : List α, i * size + (chunk size whole i).length ≤ base.length →
      (∀ k < whole.length, k / size ∈ got → base[k]? = whole[k]?) →
      ∀ k < whole.length, k / size ∈ i :: got → (splice base (i * size) (chunk size whole i))[k]? = whole[k]? := by
    intro base room old k low member
    rw [getElem?_splice room]
    by_cases here : k / size = i
    · obtain ⟨start,stop⟩ := (place k low).mpr here
      rw [if_pos ⟨start,stop⟩,own k start stop]
    · rw [if_neg (fun at' => here ((place k low).mp at'))]
      exact old k low ((List.mem_cons.mp member).resolve_left here)
  unfold write
  by_cases isLast : i = count size whole.length - 1
  · have ends : (count size whole.length - 1) * size +
        (chunk size whole (count size whole.length - 1)).length = whole.length := length_chunk_last positive nonempty
    rw [← isLast] at ends
    rw [if_pos isLast,← isLast,ends]
    have room : i * size + (chunk size whole i).length ≤ (resize buffer whole.length fill).length := by
      rw [length_resize]
      omega
    refine ⟨fun _ => by rw [length_splice room,length_resize],fun absent => by simp [← isLast] at absent,
      written _ room fun k low member => ?_⟩
    have wide := known.roomy (isLast ▸ missing)
    have all : whole.length ≤ count size whole.length * size := le_count_mul positive
    rw [getElem?_resize fill low (by omega)]
    exact known.same k low member
  · have room := chunk_inside known positive inside isLast
    rw [if_neg isLast]
    refine ⟨fun arrived => ?_,fun absent => ?_,written _ room known.same⟩
    · rw [length_splice room]
      exact known.exact ((List.mem_cons.mp arrived).resolve_left (Ne.symm isLast))
    · rw [length_splice room]
      exact known.roomy (fun old => absent (List.mem_cons_of_mem _ old))

/-- Once every chunk was written the buffer is the whole. -/
theorem filled_complete (known : Filled size whole buffer got) (positive : 0 < size) (nonempty : 0 < whole.length)
    (all : ∀ i < count size whole.length, i ∈ got) : buffer = whole := by
  have some : 0 < count size whole.length := by
    rw [Nat.pos_iff_ne_zero,ne_eq,count_eq_zero positive]
    omega
  have length := known.exact (all _ (by omega))
  apply List.ext_getElem?
  intro k
  by_cases inside : k < whole.length
  · exact known.same k inside (all _ (div_lt_count positive inside))
  · rw [List.getElem?_eq_none (by omega),List.getElem?_eq_none (by omega)]

end Write

end Chunks
