import Mathlib.Data.List.AList
import Mathlib.Data.Set.Card
import Mathlib.Tactic

/-!
Finite maps whose values have one type, over Mathlib's `AList`. A hash map's order
is not observable; an index map's is, and removing an entry moves the last one there.
-/
namespace Maps

/-- A finite map that stores each key at most once. -/
abbrev Map (K V : Type) := AList (fun _ : K => V)

variable {K V : Type} [DecidableEq K]

theorem lookup_insert_ite (m : Map K V) (k other : K) (v : V) :
    (m.insert k v).lookup other = if other = k then some v else m.lookup other := by
  by_cases same : other = k
  · subst same; simp
  · simp [same,AList.lookup_insert_ne same]

theorem lookup_erase_ite (m : Map K V) (k other : K) :
    (m.erase k).lookup other = if other = k then none else m.lookup other := by
  by_cases same : other = k
  · subst same; simp
  · simp [same,AList.lookup_erase_ne same]

theorem mem_iff_lookup (m : Map K V) (k : K) : k ∈ m ↔ ∃ v, m.lookup k = some v := by
  rw [← AList.lookup_isSome,Option.isSome_iff_exists]

theorem lookup_eq_some_iff (m : Map K V) (k : K) (v : V) : m.lookup k = some v ↔ ⟨k,v⟩ ∈ m.entries :=
  AList.mem_lookup_iff

/-- Keeps the entries that satisfy a condition, in their order. -/
def retain (keep : K → V → Bool) (m : Map K V) : Map K V :=
  ⟨m.entries.filter (fun entry => keep entry.1 entry.2),m.nodupKeys.sublist List.filter_sublist⟩

theorem lookup_retain (keep : K → V → Bool) (m : Map K V) (k : K) :
    (retain keep m).lookup k = (m.lookup k).filter (keep k) := by
  ext v
  rw [Option.filter_eq_some_iff]
  simp only [lookup_eq_some_iff,retain,List.mem_filter]

/-- The number of entries that satisfy a condition is the number of their keys. -/
theorem encard_satisfying (keep : V → Bool) (m : Map K V) :
    {k | ∃ v, m.lookup k = some v ∧ keep v = true}.encard = (m.entries.filter (fun entry => keep entry.2)).length := by
  have distinct : ((m.entries.filter (fun entry => keep entry.2)).map Sigma.fst).Nodup :=
    m.nodupKeys.sublist List.filter_sublist
  have same : {k | ∃ v, m.lookup k = some v ∧ keep v = true} =
      ((m.entries.filter (fun entry => keep entry.2)).map Sigma.fst).toFinset := by
    ext k
    simp only [lookup_eq_some_iff,Set.mem_ofPred_eq,List.coe_toFinset,List.mem_map,List.mem_filter]
    exact ⟨fun ⟨v,stored,kept⟩ => ⟨⟨k,v⟩,⟨stored,kept⟩,rfl⟩,fun ⟨entry,⟨stored,kept⟩,isKey⟩ =>
      ⟨entry.2,isKey ▸ stored,kept⟩⟩
  rw [same,Set.encard_coe_eq_coe_finsetCard,List.toFinset_card_of_nodup distinct,List.length_map]

/-- Two maps are inverse to each other, as partial functions. -/
def Mutual [DecidableEq V] (there : Map K V) (back : Map V K) : Prop :=
  ∀ k v, there.lookup k = some v ↔ back.lookup v = some k

section Mutual
variable [DecidableEq V] {there : Map K V} {back : Map V K}

theorem mutual_empty : Mutual (∅ : Map K V) (∅ : Map V K) := fun k v => by simp

theorem Mutual.erase (inverse : Mutual there back) {k : K} {v : V} (stored : there.lookup k = some v) :
    Mutual (there.erase k) (back.erase v) := by
  intro k' v'
  rw [lookup_erase_ite,lookup_erase_ite]
  have stored' := (inverse k v).mp stored
  have there' := inverse k' v'
  by_cases sameKey : k' = k <;> by_cases sameValue : v' = v
  · simp [sameKey,sameValue]
  · subst sameKey
    simp only [if_true,if_neg sameValue,reduceCtorEq,false_iff]
    exact fun other => sameValue (Option.some_inj.mp ((there'.mpr other).symm.trans stored))
  · subst sameValue
    simp only [if_true,if_neg sameKey,reduceCtorEq,iff_false]
    exact fun other => sameKey (Option.some_inj.mp ((there'.mp other).symm.trans stored'))
  · simpa [sameKey,sameValue] using there'

/-- A new pair keeps two maps inverse exactly if neither side is already paired with something else. -/
theorem Mutual.insert_iff (inverse : Mutual there back) (k : K) (v : V) :
    Mutual (there.insert k v) (back.insert v k) ↔
      (∀ v', there.lookup k = some v' → v' = v) ∧ ∀ k', back.lookup v = some k' → k' = k := by
  constructor
  · intro after
    refine ⟨fun v' stored => ?_,fun k' stored => ?_⟩
    · by_contra other
      have kept := (after k v').mpr (by rw [lookup_insert_ite,if_neg other]; exact (inverse k v').mp stored)
      rw [lookup_insert_ite,if_pos rfl] at kept
      exact other (Option.some_inj.mp kept).symm
    · by_contra other
      have kept := (after k' v).mp (by rw [lookup_insert_ite,if_neg other]; exact (inverse k' v).mpr stored)
      rw [lookup_insert_ite,if_pos rfl] at kept
      exact other (Option.some_inj.mp kept).symm
  · rintro ⟨sameValue,sameKey⟩ k' v'
    rw [lookup_insert_ite,lookup_insert_ite]
    by_cases isKey : k' = k <;> by_cases isValue : v' = v
    · simp [isKey,isValue]
    · subst isKey
      simp only [if_true,if_neg isValue,Option.some_inj]
      exact ⟨fun same => absurd same.symm isValue,
        fun stored => absurd (sameValue v' ((inverse k' v').mpr stored)) isValue⟩
    · subst isValue
      simp only [if_true,if_neg isKey,Option.some_inj]
      exact ⟨fun stored => absurd (sameKey k' ((inverse k' v').mp stored)) isKey,fun same => absurd same.symm isKey⟩
    · simpa [isKey,isValue] using inverse k' v'
end Mutual

/-- Overwrites the value of a key in place. -/
private def overwrite (k : K) (v : V) (entry : Sigma fun _ : K => V) : Sigma fun _ : K => V :=
  if entry.1 = k then ⟨k,v⟩ else entry

private theorem overwrite_key (k : K) (v : V) (entry : Sigma fun _ : K => V) : (overwrite k v entry).1 = entry.1 := by
  unfold overwrite
  split
  · next same => exact same.symm
  · rfl

omit [DecidableEq K] in
private theorem not_mem_entries {m : Map K V} {k : K} (absent : k ∉ m) {entry : Sigma fun _ : K => V}
    (member : entry ∈ m.entries) : entry.1 ≠ k := by
  intro same
  exact absent (AList.mem_keys.mpr (same ▸ List.mem_keys_of_mem member))

/-- `IndexMap::insert`: an old key keeps its place, a new one goes behind all others. -/
def insertBack (m : Map K V) (k : K) (v : V) : Map K V :=
  if absent : k ∉ m then
    ⟨m.entries ++ [⟨k,v⟩],by
      have keys := m.nodupKeys
      simp only [List.NodupKeys,List.keys,List.map_append,List.map_cons,List.map_nil] at *
      refine List.nodup_append.mpr ⟨keys,by simp,?_⟩
      intro key member other isNew
      obtain ⟨entry,inside,rfl⟩ := List.mem_map.mp member
      simp only [List.mem_singleton] at isNew
      exact isNew ▸ not_mem_entries absent inside⟩
  else
    ⟨m.entries.map (overwrite k v),by
      have same : (m.entries.map (overwrite k v)).keys = m.entries.keys := by
        simp [List.keys,Function.comp_def,overwrite_key]
      rw [List.NodupKeys,same]
      exact m.nodupKeys⟩

theorem lookup_insertBack (m : Map K V) (k other : K) (v : V) :
    (insertBack m k v).lookup other = if other = k then some v else m.lookup other := by
  ext w
  by_cases absent : k ∉ m
  · have entries : (insertBack m k v).entries = m.entries ++ [⟨k,v⟩] := by simp [insertBack,absent]
    rw [lookup_eq_some_iff,entries]
    by_cases same : other = k
    · subst same
      have other : ∀ w, ⟨other,w⟩ ∉ m.entries := fun w member => not_mem_entries absent member rfl
      simp [other,eq_comm]
    · simp [same,lookup_eq_some_iff]
  · have entries : (insertBack m k v).entries = m.entries.map (overwrite k v) := by simp [insertBack,absent]
    rw [lookup_eq_some_iff,entries,List.mem_map]
    obtain ⟨old,stored⟩ := (mem_iff_lookup m k).mp (not_not.mp absent)
    rw [lookup_eq_some_iff] at stored
    by_cases same : other = k
    · subst same
      simp only [↓reduceIte,Option.some.injEq]
      constructor
      · rintro ⟨entry,member,equal⟩
        have key : entry.1 = other := by rw [← overwrite_key other v entry,equal]
        simp only [overwrite,key,↓reduceIte,Sigma.mk.injEq,heq_eq_eq,true_and] at equal
        exact equal
      · rintro rfl
        exact ⟨⟨other,old⟩,stored,by simp [overwrite]⟩
    · simp only [same,↓reduceIte,lookup_eq_some_iff]
      constructor
      · rintro ⟨entry,member,equal⟩
        have key : entry.1 = other := by rw [← overwrite_key k v entry,equal]
        have kept : overwrite k v entry = entry := by simp [overwrite,key,same]
        rwa [kept.symm.trans equal] at member
      · intro member
        exact ⟨⟨other,w⟩,member,by simp [overwrite,same]⟩

/-- Removes a stored key and moves the last entry to its place. -/
private def swapOut (k : K) (entries : List (Sigma fun _ : K => V)) : List (Sigma fun _ : K => V) :=
  match entries.reverse with
  | [] => []
  | last :: front =>
    if last.1 = k then front.reverse
    else front.reverse.map (fun entry => if entry.1 = k then last else entry)

private theorem swapOut_perm (k : K) {entries : List (Sigma fun _ : K => V)} (distinct : entries.NodupKeys)
    (present : k ∈ entries.keys) : (swapOut k entries).Perm (entries.kerase k) := by
  rcases List.eq_nil_or_concat entries with rfl | ⟨front,last,rfl⟩
  · simp at present
  rw [List.concat_eq_append] at *
  have keys : front.keys.Nodup ∧ last.1 ∉ front.keys := by
    have nodup := distinct
    simp only [List.NodupKeys,List.keys,List.map_append,List.map_cons,List.map_nil,List.nodup_append] at nodup
    exact ⟨nodup.1,fun member => nodup.2.2 _ member last.1 (by simp) rfl⟩
  simp only [swapOut,List.reverse_append,List.reverse_cons,List.reverse_nil,List.nil_append,List.singleton_append,
    List.reverse_reverse]
  by_cases atEnd : last.1 = k
  · rw [if_pos atEnd,List.kerase_append_right (atEnd ▸ keys.2),List.kerase_cons_eq atEnd.symm]
    simp
  · rw [if_neg atEnd]
    have inFront : k ∈ front.keys := by
      simp only [List.keys,List.map_append,List.map_cons,List.map_nil,List.mem_append,List.mem_singleton] at present
      exact present.resolve_right (Ne.symm atEnd)
    obtain ⟨b,before,after,notBefore,split,erased⟩ := List.exists_of_kerase inFront
    have notAfter : k ∉ after.keys := by
      have nodup := keys.1
      rw [split] at nodup
      simp only [List.keys,List.map_append,List.map_cons,List.nodup_append,List.nodup_cons] at nodup
      exact nodup.2.1.1
    have fixed : ∀ part : List (Sigma fun _ : K => V), k ∉ part.keys →
        part.map (fun entry => if entry.1 = k then last else entry) = part := by
      intro part absent
      conv_rhs => rw [← List.map_id part]
      apply List.map_congr_left
      intro entry member
      have other : entry.1 ≠ k := fun same => absent (same ▸ List.mem_keys_of_mem member)
      simp [other]
    rw [List.kerase_append_left inFront,erased,split,List.map_append,List.map_cons,fixed _ notBefore,fixed _ notAfter]
    simp only [↓reduceIte,List.append_assoc]
    exact List.Perm.append_left _ (List.perm_append_singleton _ _).symm

/-- `IndexMap::swap_remove` -/
def swapRemove (m : Map K V) (k : K) : Map K V :=
  if present : k ∈ m then
    ⟨swapOut k m.entries,by
      have erased := (m.erase k).nodupKeys
      have same := swapOut_perm k m.nodupKeys present
      exact (List.perm_nodupKeys same).mpr erased⟩
  else m

theorem lookup_swapRemove (m : Map K V) (k other : K) :
    (swapRemove m k).lookup other = if other = k then none else m.lookup other := by
  by_cases present : k ∈ m
  · have same := swapOut_perm k m.nodupKeys present
    have erased : (swapRemove m k).lookup other = (m.erase k).lookup other := by
      rw [swapRemove,dif_pos present]
      exact AList.perm_lookup same
    rw [erased,lookup_erase_ite]
  · by_cases equal : other = k
    · subst equal
      simp [swapRemove,present,AList.lookup_eq_none.mpr present]
    · simp [swapRemove,present,equal]

end Maps
