import Mathlib.Tactic

/-!
A greedy choice: the items of a list are visited in their order, and one is kept
unless it conflicts with an item that was kept before it.
-/
namespace Greedy

variable {α : Type} (conflicts : α → α → Bool)

def keep (kept : List α) (item : α) : List α := if kept.any (conflicts · item) then kept else kept ++ [item]

/-- The items that are kept. -/
def kept (items : List α) : List α := items.foldl (keep conflicts) []

theorem kept_snoc (items : List α) (item : α) :
    kept conflicts (items ++ [item]) = keep conflicts (kept conflicts items) item := by
  rw [kept,List.foldl_append]
  rfl

theorem kept_sublist (items : List α) : (kept conflicts items).Sublist items := by
  induction items using List.reverseRecOn with
  | nil => exact List.Sublist.refl []
  | append_singleton items item ih =>
    rw [kept_snoc,keep]
    split
    · exact ih.trans (List.sublist_append_left items [item])
    · exact ih.append_right [item]

/-- No two kept items conflict. -/
theorem kept_pairwise (items : List α) : (kept conflicts items).Pairwise fun a b => conflicts a b = false := by
  induction items using List.reverseRecOn with
  | nil => exact List.Pairwise.nil
  | append_singleton items item ih =>
    rw [kept_snoc,keep]
    split
    · exact ih
    next free =>
      refine List.pairwise_append.mpr ⟨ih,List.pairwise_singleton _ _,fun a member b isLast => ?_⟩
      rw [List.mem_singleton.mp isLast]
      exact Bool.eq_false_iff.mpr fun conflict => free (List.any_eq_true.mpr ⟨a,member,conflict⟩)

/-- An item is left out exactly if it conflicts with a kept item that goes before it. -/
theorem not_mem_kept {precedes : α → α → Prop} (asymm : ∀ a b,precedes a b → ¬ precedes b a) {items : List α}
    (ordered : items.Pairwise precedes) {item : α} (member : item ∈ items) :
    item ∉ kept conflicts items ↔ ∃ other ∈ kept conflicts items,precedes other item ∧ conflicts other item = true := by
  induction items using List.reverseRecOn with
  | nil => exact absurd member List.not_mem_nil
  | append_singleton items last ih =>
    obtain ⟨earlier,-,before⟩ := List.pairwise_append.mp ordered
    have beforeLast : ∀ other ∈ items,precedes other last :=
      fun other stored => before other stored last (List.mem_singleton_self last)
    have fresh : last ∉ items := fun stored => asymm last last (beforeLast last stored) (beforeLast last stored)
    have known : ∀ other ∈ kept conflicts items,other ∈ items :=
      fun other stored => (kept_sublist conflicts items).subset stored
    rw [kept_snoc,keep]
    rcases List.mem_append.mp member with old | isLast
    · have other : item ≠ last := fun same => fresh (same ▸ old)
      have never : ¬ precedes last item := asymm item last (beforeLast item old)
      split
      · exact ih earlier old
      · simpa [other,never] using ih earlier old
    · cases List.mem_singleton.mp isLast
      split
      next conflict =>
        obtain ⟨other,stored,conflict⟩ := List.any_eq_true.mp conflict
        exact iff_of_true (fun stored => fresh (known _ stored)) ⟨other,stored,beforeLast other (known other stored),
          conflict⟩
      next free =>
        refine iff_of_false (not_not_intro (by simp)) ?_
        rintro ⟨other,stored,precedes,conflict⟩
        rcases List.mem_append.mp stored with old | isLast
        · exact free (List.any_eq_true.mpr ⟨other,old,conflict⟩)
        · cases List.mem_singleton.mp isLast
          exact asymm _ _ precedes precedes

end Greedy
