import Mathlib.Tactic

/-!
Lists that grow at their end.
-/
namespace Snoc

variable {α : Type} {entries front back : List α} {last entry : α} {i : Nat}

theorem getElem?_snoc :
    (entries ++ [last])[i]? = some entry ↔ entries[i]? = some entry ∨ i = entries.length ∧ entry = last := by
  rcases lt_trichotomy i entries.length with inside | rfl | beyond
  · simp [List.getElem?_append_left inside,inside.ne]
  · simp [eq_comm]
  · have none : (entries ++ [last])[i]? = none := List.getElem?_eq_none (by simp; omega)
    simp [none,List.getElem?_eq_none beyond.le,beyond.ne']

theorem getElem?_snoc_old (stored : entries[i]? = some entry) : (entries ++ [last])[i]? = some entry :=
  getElem?_snoc.mpr (.inl stored)

theorem nodup_snoc (distinct : entries.Nodup) (isNew : last ∉ entries) : (entries ++ [last]).Nodup :=
  List.nodup_append.mpr ⟨distinct,List.nodup_singleton last,fun _ member _ isLast same =>
    isNew (List.mem_singleton.mp isLast ▸ same ▸ member)⟩

/-- A place in a list that has grown is one of the list before, or the new one. -/
theorem split_snoc : entries ++ [last] = front ++ entry :: back ↔
    (∃ rest, back = rest ++ [last] ∧ entries = front ++ entry :: rest) ∨ back = [] ∧ front = entries ∧
      entry = last := by
  constructor
  · intro split
    rcases List.eq_nil_or_concat back with rfl | ⟨rest,other,rfl⟩
    · obtain ⟨rfl,same⟩ := List.append_inj' split rfl
      exact .inr ⟨rfl,rfl,(List.singleton_inj.mp same).symm⟩
    · rw [List.concat_eq_append,← List.cons_append,← List.append_assoc] at split
      obtain ⟨rfl,same⟩ := List.append_inj' split rfl
      exact .inl ⟨rest,by rw [List.concat_eq_append,List.singleton_inj.mp same],rfl⟩
  · rintro (⟨rest,rfl,rfl⟩ | ⟨rfl,rfl,rfl⟩)
    · simp
    · rfl

end Snoc
