import Mathlib.Tactic

/-!
Entries in the order of their keys: what a sorted queue of pairs holds. A search by
`partition_point` splits such a queue at a key, so that its parts are those entries
below the key, up to it and above it. In other queues the binary search of a slice
ends behind some entry that passes the test and before one that fails, and that of a
deque depends on the place where its ring buffer wraps around.
-/
namespace Sorted

/-- The loop of `binary_search_by`: of the `size` entries from `base` on, it goes to the one in the middle if
that passes. -/
def search_base {α : Type} (holds : α → Bool) (entries : List α) : (rounds base size : Nat) → Nat
  | 0, base, _ => base
  | rounds + 1, base, size =>
    if size ≤ 1 then base
    else
      let half := size / 2
      let mid := base + half
      search_base holds entries rounds (if (entries[mid]?).any holds then mid else base) (size - half)

/-- `slice::partition_point` -/
def partition_point {α : Type} (holds : α → Bool) (entries : List α) : Nat :=
  let base := search_base holds entries entries.length 0 entries.length
  if (entries[base]?).any holds then base + 1 else base

section Search
variable {α : Type} {holds : α → Bool} {entries : List α}

/-- What a round keeps. Of an odd number of entries the middle one, which has failed, is looked at once more. -/
private structure Searching (holds : α → Bool) (entries : List α) (base size : Nat) : Prop where
  inside : base + size ≤ entries.length
  positive : 0 < size
  low : base = 0 ∨ (entries[base]?).any holds = true
  high : (entries[base + size]?).any holds = false ∨ 2 ≤ size ∧ (entries[base + size - 1]?).any holds = false

private theorem Searching.passes {base size : Nat} (searching : Searching holds entries base size) (more : 1 < size)
    (passes : (entries[base + size / 2]?).any holds = true) :
    Searching holds entries (base + size / 2) (size - size / 2) := by
  have last : base + size / 2 + (size - size / 2) = base + size := by omega
  refine ⟨last ▸ searching.inside,by omega,.inr passes,?_⟩
  rw [last]
  refine searching.high.imp_right fun beyond => ⟨?_,beyond.2⟩
  have other : size ≠ 2 := by
    rintro rfl
    exact absurd passes (by simpa using beyond.2)
  omega

private theorem Searching.fails {base size : Nat} (searching : Searching holds entries base size) (more : 1 < size)
    (fails : (entries[base + size / 2]?).any holds = false) : Searching holds entries base (size - size / 2) := by
  refine ⟨by have := searching.inside; omega,by omega,searching.low,?_⟩
  rcases Nat.even_or_odd size with even | odd
  · left
    rwa [show size - size / 2 = size / 2 by have := Nat.even_iff.mp even; omega]
  · right
    have half := Nat.odd_iff.mp odd
    refine ⟨by omega,?_⟩
    rwa [show base + (size - size / 2) - 1 = base + size / 2 by omega]

private theorem Searching.search_base {rounds base size : Nat} (searching : Searching holds entries base size)
    (enough : size ≤ rounds + 1) : Searching holds entries (search_base holds entries rounds base size) 1 := by
  induction rounds generalizing base size with
  | zero =>
    obtain rfl : size = 1 := by have := searching.positive; omega
    exact searching
  | succ rounds ih =>
    rw [Sorted.search_base]
    split
    next few =>
      obtain rfl : size = 1 := by have := searching.positive; omega
      exact searching
    next more =>
      dsimp only
      have less : size - size / 2 ≤ rounds + 1 := by omega
      split
      next passes => exact ih (searching.passes (by omega) passes) less
      next fails => exact ih (searching.fails (by omega) (Bool.eq_false_iff.mpr fails)) less

/-- The search ends behind an entry that passes, or at the front, and before one that fails, or at the end. -/
theorem partition_point_between (holds : α → Bool) (entries : List α) :
    (∀ kept,partition_point holds entries = kept + 1 → (entries[kept]?).any holds = true) ∧
      (entries[partition_point holds entries]?).any holds = false := by
  cases entries with
  | nil => exact ⟨fun _ isKept => absurd isKept (Nat.succ_ne_zero _).symm,rfl⟩
  | cons first rest =>
    have start : Searching holds (first :: rest) 0 (first :: rest).length :=
      ⟨by simp,by simp,.inl rfl,.inl (by simp)⟩
    have done : Searching holds (first :: rest)
        (search_base holds (first :: rest) (first :: rest).length 0 (first :: rest).length) 1 :=
      start.search_base (Nat.le_succ _)
    have high := done.high.resolve_right fun two => absurd two.1 (by decide)
    unfold partition_point
    dsimp only
    split
    next passes => exact ⟨fun kept isKept => Nat.succ_injective isKept ▸ passes,high⟩
    next fails =>
      refine ⟨fun kept isKept => ?_,Bool.eq_false_iff.mpr fails⟩
      rcases done.low with front | passes
      · exact absurd (front.symm.trans isKept) (Nat.succ_ne_zero kept).symm
      · exact absurd passes fails

theorem partition_point_le (holds : α → Bool) (entries : List α) : partition_point holds entries ≤ entries.length := by
  cases isPoint : partition_point holds entries with
  | zero => exact Nat.zero_le _
  | succ kept =>
    obtain ⟨entry,stored,-⟩ := (Option.any_eq_true _ _).mp ((partition_point_between holds entries).1 kept isPoint)
    exact (List.getElem?_eq_some_iff.mp stored).1

/-- Where a test parts the entries the search ends between the parts. -/
theorem partition_point_append {front back : List α} (passes : ∀ entry ∈ front,holds entry = true)
    (fails : ∀ entry ∈ back,holds entry = false) : partition_point holds (front ++ back) = front.length := by
  obtain ⟨before,behind⟩ := partition_point_between holds (front ++ back)
  rcases lt_trichotomy (partition_point holds (front ++ back)) front.length with early | same | late
  · rw [List.getElem?_append_left early,List.getElem?_eq_getElem early,Option.any_some,
      passes _ (List.getElem_mem early)] at behind
    exact absurd behind Bool.true_eq_false_eq_False
  · exact same
  · cases isPoint : partition_point holds (front ++ back) with
    | zero => exact absurd (isPoint ▸ late) (Nat.not_lt_zero _)
    | succ kept =>
      obtain ⟨entry,stored,passed⟩ := (Option.any_eq_true _ _).mp (before kept isPoint)
      rw [List.getElem?_append_right (by omega)] at stored
      exact absurd passed (Bool.eq_false_iff.mp (fails entry (List.mem_of_getElem? stored)))

theorem partition_point_all (passes : ∀ entry ∈ entries,holds entry = true) :
    partition_point holds entries = entries.length := by
  have found := partition_point_append passes
    (fun _ member => absurd member List.not_mem_nil : ∀ entry ∈ [],holds entry = false)
  rwa [List.append_nil] at found

/-- The search reads nothing but the results of the test. -/
theorem partition_point_map {β : Type} {change : α → β} {test : β → Bool}
    (same : ∀ entry ∈ entries,test (change entry) = holds entry) :
    partition_point test (entries.map change) = partition_point holds entries := by
  have reads (at_index : Nat) : ((entries.map change)[at_index]?).any test = (entries[at_index]?).any holds := by
    rw [List.getElem?_map]
    cases stored : entries[at_index]? with
    | none => rfl
    | some entry => exact same entry (List.mem_of_getElem? stored)
  have bases (rounds base size : Nat) :
      search_base test (entries.map change) rounds base size = search_base holds entries rounds base size := by
    induction rounds generalizing base size with
    | zero => rfl
    | succ rounds ih => simp only [search_base,reads,ih]
  simp only [partition_point,bases,reads,List.length_map]

end Search

namespace VecDeque

/-- `VecDeque::partition_point`, where the ring buffer holds the entries in two slices. -/
def search {α : Type} (holds : α → Bool) (front back : List α) : Nat :=
  if back.head?.any holds then Sorted.partition_point holds back + front.length else Sorted.partition_point holds front

/-- The entries of a deque before the first one that fails a test. -/
def partition_point {α : Type} (holds : α → Bool) (entries : List α) : Nat := (entries.takeWhile holds).length

theorem partition_point_le {α : Type} (holds : α → Bool) (entries : List α) :
    partition_point holds entries ≤ entries.length := (List.takeWhile_prefix holds).length_le

/-- The last entry that passes, before the first one that fails. -/
theorem partition_point_succ {α : Type} {holds : α → Bool} {entries : List α} {kept : Nat}
    (isKept : partition_point holds entries = kept + 1) :
    ∃ entry rest,entries.drop kept = entry :: rest ∧ holds entry = true ∧ ∀ next ∈ rest.head?,holds next = false := by
  induction entries generalizing kept with
  | nil => exact nomatch isKept
  | cons first entries ih =>
    unfold partition_point at isKept ih
    cases passes : holds first with
    | false => simp [passes] at isKept
    | true =>
      rw [List.takeWhile_cons_of_pos passes,List.length_cons,Nat.add_right_cancel_iff] at isKept
      cases kept with
      | zero =>
        refine ⟨first,entries,rfl,passes,fun next isNext => Bool.eq_false_iff.mpr fun nextPasses => ?_⟩
        obtain ⟨rest,rfl⟩ := List.head?_eq_some_iff.mp isNext
        simp [nextPasses] at isKept
      | succ kept => exact ih isKept

theorem partition_point_append {α : Type} {holds : α → Bool} {front back : List α}
    (passes : ∀ entry ∈ front,holds entry = true)
    (fails : ∀ entry ∈ back,holds entry = false) : partition_point holds (front ++ back) = front.length := by
  have none : back.takeWhile holds = [] := by
    cases back with
    | nil => rfl
    | cons first rest => exact List.takeWhile_cons_of_neg (by simpa using fails first List.mem_cons_self)
  rw [partition_point,List.takeWhile_append_of_pos passes,none,List.append_nil]

/-- The search of a deque that the test parts ends there, wherever its slices meet. -/
theorem search_parted {α : Type} {holds : α → Bool} {passing failing front back : List α}
    (slices : passing ++ failing = front ++ back)
    (passes : ∀ entry ∈ passing,holds entry = true) (fails : ∀ entry ∈ failing,holds entry = false) :
    search holds front back = partition_point holds (front ++ back) := by
  rw [← slices,partition_point_append passes fails,search]
  rcases List.append_eq_append_iff.mp slices with ⟨middle,rfl,rfl⟩ | ⟨middle,rfl,rfl⟩
  · -- the slices meet behind the entries that pass
    have behind : back.head?.any holds = false := by
      cases back with
      | nil => rfl
      | cons next back => exact fails next (by simp)
    rw [behind,if_neg Bool.false_ne_true]
    exact Sorted.partition_point_append passes fun entry member => fails entry (List.mem_append_left _ member)
  · have within := Sorted.partition_point_append
      (fun entry member => passes entry (List.mem_append_right front member)) fails
    cases middle with
    | nil =>
      have all := Sorted.partition_point_all fun entry member => passes entry (List.mem_append_left [] member)
      have behind : failing.head?.any holds = false := by
        cases failing with
        | nil => rfl
        | cons next failing => exact fails next List.mem_cons_self
      rw [List.nil_append,behind,if_neg Bool.false_ne_true,all,List.append_nil]
    | cons next middle =>
      have first : (next :: middle ++ failing).head?.any holds = true := passes next (by simp)
      rw [if_pos first,within,List.length_append,Nat.add_comm]

/-- So does that of any other deque whose slices meet there. -/
theorem search_wrapped {α : Type} (holds : α → Bool) (entries : List α) :
    search holds (entries.takeWhile holds) (entries.dropWhile holds) = partition_point holds entries := by
  have behind : (entries.dropWhile holds).head?.any holds = false := by
    have fails := List.head?_dropWhile_not holds entries
    cases first : (entries.dropWhile holds).head? with
    | none => rfl
    | some next => simpa [first] using fails
  rw [search,behind,if_neg Bool.false_ne_true]
  exact Sorted.partition_point_all (List.all_eq_true.mp List.all_takeWhile)

end VecDeque

theorem insertIdx_append {α : Type} (low high : List α) (entry : α) :
    (low ++ high).insertIdx low.length entry = low ++ entry :: high := by
  induction low with
  | nil => simp
  | cons first low ih => simp [ih]

section Split
variable {α : Type} {R : α → α → Prop} {holds : α → Bool} {entries : List α}

/-- In an ordered list the entries that pass a downward closed test are at its front. -/
theorem takeWhile_eq_filter (ordered : entries.Pairwise R) (closed : ∀ a b, R a b → holds b = true → holds a = true) :
    entries.takeWhile holds = entries.filter holds ∧ entries.dropWhile holds = entries.filter (!holds ·) := by
  induction entries with
  | nil => exact ⟨rfl,rfl⟩
  | cons a rest ih =>
    obtain ⟨after,tail⟩ := List.pairwise_cons.mp ordered
    cases first : holds a with
    | true => simpa [first] using ih tail
    | false =>
      have fails : ∀ b ∈ rest, holds b = false := fun b member =>
        Bool.eq_false_iff.mpr fun passes => Bool.eq_false_iff.mp first (closed a b (after b member) passes)
      have none : rest.filter holds = [] := List.filter_eq_nil_iff.mpr fun b member => by simp [fails b member]
      have all : rest.filter (!holds ·) = rest := List.filter_eq_self.mpr fun b member => by simp [fails b member]
      simp [first,none,all]

private theorem dropWhile_fails (ordered : entries.Pairwise R)
    (closed : ∀ a b, R a b → holds b = true → holds a = true) :
    ∀ entry ∈ entries.dropWhile holds,holds entry = false := by
  intro entry member
  rw [(takeWhile_eq_filter ordered closed).2] at member
  simpa using (List.mem_filter.mp member).2

theorem VecDeque.take_partition_point (ordered : entries.Pairwise R)
    (closed : ∀ a b, R a b → holds b = true → holds a = true) :
    entries.take (VecDeque.partition_point holds entries) = entries.filter holds := by
  rw [← (takeWhile_eq_filter ordered closed).1,VecDeque.partition_point]
  exact (List.prefix_iff_eq_take.mp (List.takeWhile_prefix holds)).symm

theorem VecDeque.drop_partition_point (ordered : entries.Pairwise R)
    (closed : ∀ a b, R a b → holds b = true → holds a = true) :
    entries.drop (VecDeque.partition_point holds entries) = entries.filter (!holds ·) := by
  rw [← (takeWhile_eq_filter ordered closed).2,VecDeque.partition_point]
  calc entries.drop (entries.takeWhile holds).length
      = (entries.takeWhile holds ++ entries.dropWhile holds).drop (entries.takeWhile holds).length := by
        rw [List.takeWhile_append_dropWhile]
    _ = entries.dropWhile holds := List.drop_left

/-- Wherever the slices of an ordered deque meet, its search ends there. -/
theorem VecDeque.search_eq {front back : List α} (ordered : (front ++ back).Pairwise R)
    (closed : ∀ a b, R a b → holds b = true → holds a = true) :
    VecDeque.search holds front back = VecDeque.partition_point holds (front ++ back) := by
  exact search_parted (List.takeWhile_append_dropWhile (p := holds) (l := front ++ back))
    (List.all_eq_true.mp List.all_takeWhile) (dropWhile_fails ordered closed)

/-- The search of a slice ends there too. -/
theorem partition_point_eq (ordered : entries.Pairwise R) (closed : ∀ a b, R a b → holds b = true → holds a = true) :
    partition_point holds entries = VecDeque.partition_point holds entries := by
  conv_lhs => rw [← List.takeWhile_append_dropWhile (p := holds) (l := entries)]
  exact partition_point_append (List.all_eq_true.mp List.all_takeWhile) (dropWhile_fails ordered closed)

theorem take_partition_point (ordered : entries.Pairwise R) (closed : ∀ a b, R a b → holds b = true → holds a = true) :
    entries.take (partition_point holds entries) = entries.filter holds := by
  rw [partition_point_eq ordered closed,VecDeque.take_partition_point ordered closed]

theorem drop_partition_point (ordered : entries.Pairwise R) (closed : ∀ a b, R a b → holds b = true → holds a = true) :
    entries.drop (partition_point holds entries) = entries.filter (!holds ·) := by
  rw [partition_point_eq ordered closed,VecDeque.drop_partition_point ordered closed]

end Split

variable {K V : Type} [LinearOrder K]

/-- The keys increase strictly. -/
def Ascending (entries : List (K × V)) : Prop := entries.Pairwise fun a b => a.1 < b.1

instance (entries : List (K × V)) : Decidable (Ascending entries) := inferInstanceAs (Decidable (entries.Pairwise _))

/-- Puts a value under a key: over the entry that has this key, else where the order has its place. -/
def put (k : K) (v : V) (entries : List (K × V)) : List (K × V) :=
  let pos := VecDeque.partition_point (·.1 < k) entries
  if (entries[pos]?).map Prod.fst = some k then entries.set pos (k,v) else entries.insertIdx pos (k,v)

variable {entries : List (K × V)}

theorem Ascending.filter (ascending : Ascending entries) (keeps : K × V → Bool) : Ascending (entries.filter keeps) :=
  List.Pairwise.filter keeps ascending

theorem Ascending.below (ascending : Ascending entries) (k : K) :
    entries.take (VecDeque.partition_point (·.1 < k) entries) = entries.filter (·.1 < k) ∧
      entries.drop (VecDeque.partition_point (·.1 < k) entries) = entries.filter (k ≤ ·.1) := by
  have closed : ∀ a b : K × V, a.1 < b.1 → decide (b.1 < k) = true → decide (a.1 < k) = true := by
    simp only [decide_eq_true_eq]
    exact fun a b less => less.trans
  refine ⟨VecDeque.take_partition_point ascending closed,(VecDeque.drop_partition_point ascending closed).trans ?_⟩
  exact List.filter_congr fun entry _ => by simp [← not_lt]

theorem Ascending.upTo (ascending : Ascending entries) (k : K) :
    entries.take (VecDeque.partition_point (·.1 ≤ k) entries) = entries.filter (·.1 ≤ k) ∧
      entries.drop (VecDeque.partition_point (·.1 ≤ k) entries) = entries.filter (k < ·.1) := by
  have closed : ∀ a b : K × V, a.1 < b.1 → decide (b.1 ≤ k) = true → decide (a.1 ≤ k) = true := by
    simp only [decide_eq_true_eq]
    exact fun a b less most => less.le.trans most
  refine ⟨VecDeque.take_partition_point ascending closed,(VecDeque.drop_partition_point ascending closed).trans ?_⟩
  exact List.filter_congr fun entry _ => by simp [← not_le]

private theorem put_append {k : K} (v : V) (low high : List (K × V)) (below : ∀ entry ∈ low, entry.1 < k)
    (least : ∀ entry ∈ high, k ≤ entry.1) (ordered : Ascending high) :
    put k v (low ++ high) = low ++ (k,v) :: high.filter (k < ·.1) := by
  have place : VecDeque.partition_point (·.1 < k) (low ++ high) = low.length :=
    VecDeque.partition_point_append (by simpa using below) (by simpa using least)
  simp only [put]
  rw [place]
  cases high with
  | nil => simp
  | cons first rest =>
    obtain ⟨after,-⟩ := List.pairwise_cons.mp ordered
    have beyond : rest.filter (k < ·.1) = rest := List.filter_eq_self.mpr fun entry member => by
      simpa using (least first List.mem_cons_self).trans_lt (after entry member)
    by_cases same : first.1 = k
    · simp [same,beyond]
    · have less : k < first.1 := lt_of_le_of_ne (least first List.mem_cons_self) (Ne.symm same)
      simp [same,beyond,less,insertIdx_append]

theorem Ascending.parts (ascending : Ascending entries) (k : K) :
    entries = entries.filter (·.1 < k) ++ entries.filter (k ≤ ·.1) := by
  obtain ⟨front,back⟩ := ascending.below k
  rw [← front,← back,List.take_append_drop]

theorem put_eq (ascending : Ascending entries) (k : K) (v : V) :
    put k v entries = entries.filter (·.1 < k) ++ (k,v) :: entries.filter (k < ·.1) := by
  have above : (entries.filter (k ≤ ·.1)).filter (k < ·.1) = entries.filter (k < ·.1) := by
    rw [List.filter_filter]
    exact List.filter_congr fun entry _ => by simpa using le_of_lt
  have divided := put_append v (entries.filter (·.1 < k)) (entries.filter (k ≤ ·.1))
    (fun entry member => by simpa using (List.mem_filter.mp member).2)
    (fun entry member => by simpa using (List.mem_filter.mp member).2) (ascending.filter _)
  rwa [← ascending.parts k,above] at divided

theorem mem_put (ascending : Ascending entries) {k : K} {v : V} {entry : K × V} :
    entry ∈ put k v entries ↔ entry = (k,v) ∨ entry.1 ≠ k ∧ entry ∈ entries := by
  rw [put_eq ascending]
  simp only [List.mem_append,List.mem_cons,List.mem_filter,decide_eq_true_eq,ne_iff_lt_or_gt]
  tauto

/-- A front that ends before a key is not changed by what is put under it. -/
theorem Ascending.put_front (ascending : Ascending entries) {k : K} (v : V) {keeps : K → Bool}
    (closed : ∀ a b, a < b → keeps b = true → keeps a = true) (beyond : keeps k = false) :
    (put k v entries).filter (keeps ·.1) = entries.filter (keeps ·.1) := by
  have fails (entry : K × V) (above : k ≤ entry.1) : keeps entry.1 = false := by
    rcases above.lt_or_eq with less | same
    · exact Bool.eq_false_iff.mpr fun kept => Bool.eq_false_iff.mp beyond (closed _ _ less kept)
    · exact same ▸ beyond
  have none : (entries.filter (k < ·.1)).filter (keeps ·.1) = [] := List.filter_eq_nil_iff.mpr fun entry member => by
    simp [fails entry (by simpa using (List.mem_filter.mp member).2 : k < entry.1).le]
  have nothing : (entries.filter (k ≤ ·.1)).filter (keeps ·.1) = [] := List.filter_eq_nil_iff.mpr fun entry member => by
    simp [fails entry (by simpa using (List.mem_filter.mp member).2)]
  conv_rhs => rw [ascending.parts k]
  rw [put_eq ascending,List.filter_append,List.filter_append,List.filter_cons_of_neg (by simp [beyond]),none,nothing]

theorem Ascending.put (ascending : Ascending entries) (k : K) (v : V) : Ascending (put k v entries) := by
  rw [put_eq ascending]
  refine List.pairwise_append.mpr ⟨ascending.filter _,List.pairwise_cons.mpr ⟨?_,ascending.filter _⟩,?_⟩
  · intro entry member
    simpa using (List.mem_filter.mp member).2
  · intro low member high reached
    have less : low.1 < k := by simpa using (List.mem_filter.mp member).2
    rcases List.mem_cons.mp reached with rfl | beyond
    · exact less
    · exact less.trans (by simpa using (List.mem_filter.mp beyond).2)

theorem Ascending.unique (ascending : Ascending entries) {k : K} {v w : V} (one : (k,v) ∈ entries)
    (other : (k,w) ∈ entries) : v = w := by
  induction entries with
  | nil => cases one
  | cons first rest ih =>
    obtain ⟨after,tail⟩ := List.pairwise_cons.mp ascending
    rcases List.mem_cons.mp one with rfl | later <;> rcases List.mem_cons.mp other with same | later'
    · exact (Prod.mk.inj same).2.symm
    · exact absurd (after _ later') (lt_irrefl k)
    · subst same
      exact absurd (after _ later) (lt_irrefl k)
    · exact ih tail later later'

/-- The last entry has the greatest key. -/
theorem Ascending.last_greatest (ascending : Ascending entries) {last : K × V} (isLast : entries.getLast? = some last) :
    ∀ entry ∈ entries, entry.1 ≤ last.1 := by
  obtain ⟨front,rfl⟩ := List.getLast?_eq_some_iff.mp isLast
  intro entry member
  rcases List.mem_append.mp member with before | only
  · exact ((List.pairwise_append.mp ascending).2.2 entry before last List.mem_cons_self).le
  · exact (List.mem_singleton.mp only ▸ le_refl _)

/-- The entries at the front up to a bound are those up to the key of the last of them. -/
theorem Ascending.front_eq (ascending : Ascending entries) {keeps : K → Bool}
    (closed : ∀ a b, a < b → keeps b = true → keeps a = true) {last : K × V}
    (isLast : (entries.filter (keeps ·.1)).getLast? = some last) :
    last ∈ entries ∧ keeps last.1 = true ∧ entries.filter (keeps ·.1) = entries.filter (·.1 ≤ last.1) := by
  obtain ⟨stored,kept⟩ := List.mem_filter.mp (List.mem_of_getLast? isLast)
  refine ⟨stored,kept,List.filter_congr fun entry member => ?_⟩
  have most := (ascending.filter (keeps ·.1)).last_greatest isLast entry
  rw [Bool.eq_iff_iff,decide_eq_true_eq]
  constructor
  · exact fun keeps => most (List.mem_filter.mpr ⟨member,keeps⟩)
  · intro le
    rcases le.lt_or_eq with less | same
    · exact closed _ _ less kept
    · exact same ▸ kept

/-- Up to the key of an entry there are those below it and the entry itself. -/
theorem Ascending.upTo_stored (ascending : Ascending entries) {k : K} {v : V} (stored : (k,v) ∈ entries) :
    entries.filter (·.1 ≤ k) = entries.filter (·.1 < k) ++ [(k,v)] := by
  obtain ⟨front,back,rfl⟩ := List.append_of_mem stored
  obtain ⟨-,tail,across⟩ := List.pairwise_append.mp ascending
  have less : ∀ entry ∈ front, entry.1 < k := fun entry member => across entry member (k,v) List.mem_cons_self
  have more : ∀ entry ∈ back, k < entry.1 := (List.pairwise_cons.mp tail).1
  have upTo : front.filter (·.1 ≤ k) = front := List.filter_eq_self.mpr fun entry member => by
    simpa using (less entry member).le
  have below : front.filter (·.1 < k) = front := List.filter_eq_self.mpr fun entry member => by
    simpa using less entry member
  have none : back.filter (·.1 ≤ k) = [] := List.filter_eq_nil_iff.mpr fun entry member => by
    simpa using more entry member
  have nothing : back.filter (·.1 < k) = [] :=
    List.filter_eq_nil_iff.mpr fun entry member => by simpa using (more entry member).le
  simp [upTo,below,none,nothing]

/-- From the key of an entry on there are the entry itself and those above it. -/
theorem Ascending.from_stored (ascending : Ascending entries) {k : K} {v : V} (stored : (k,v) ∈ entries) :
    entries.filter (k ≤ ·.1) = (k,v) :: entries.filter (k < ·.1) := by
  obtain ⟨front,back,rfl⟩ := List.append_of_mem stored
  obtain ⟨-,tail,across⟩ := List.pairwise_append.mp ascending
  have less : ∀ entry ∈ front, entry.1 < k := fun entry member => across entry member (k,v) List.mem_cons_self
  have more : ∀ entry ∈ back, k < entry.1 := (List.pairwise_cons.mp tail).1
  have fromKey : back.filter (k ≤ ·.1) = back := List.filter_eq_self.mpr fun entry member => by
    simpa using (more entry member).le
  have above : back.filter (k < ·.1) = back := List.filter_eq_self.mpr fun entry member => by
    simpa using more entry member
  have none : front.filter (k ≤ ·.1) = [] := List.filter_eq_nil_iff.mpr fun entry member => by
    simpa using less entry member
  have nothing : front.filter (k < ·.1) = [] :=
    List.filter_eq_nil_iff.mpr fun entry member => by simpa using (less entry member).le
  simp [fromKey,above,none,nothing]

end Sorted
