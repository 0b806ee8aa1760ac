import Mathlib.Logic.Relation
import Mathlib.Tactic

/-!
A walk down a forest with an explicit stack: from the nodes on the stack to their children
that are accepted, and on from those.
-/
namespace Forest

variable {E : Type}

/-- The nodes that a walk accepts, in the order in which they are met. None if the fuel runs out. -/
def descend (children : E → List E) (accept : E → Bool) : Nat → List E → Option (List E)
  | _, [] => some []
  | 0, _ :: _ => none
  | fuel + 1, parent :: stack =>
    let accepted := (children parent).filter accept
    (descend children accept fuel (accepted.reverse ++ stack)).map (accepted ++ ·)

/-- An accepted child. -/
def Down (children : E → List E) (accept : E → Bool) (parent child : E) :
    Prop := child ∈ children parent ∧ accept child = true

variable {children : E → List E} {accept : E → Bool}

/-- A walk meets just what is below the stack by accepted children. -/
theorem mem_descend {fuel : Nat} {stack out : List E} (walked : descend children accept fuel stack = some out) (x : E) :
    x ∈ out ↔ ∃ start ∈ stack, Relation.TransGen (Down children accept) start x := by
  induction fuel generalizing stack out with
  | zero =>
    cases stack with
    | nil =>
      cases walked
      simp
    | cons parent stack => cases walked
  | succ fuel ih =>
    cases stack with
    | nil =>
      cases walked
      simp
    | cons parent stack =>
      obtain ⟨rest,tail,rfl⟩ := Option.map_eq_some_iff.mp walked
      have isChild (child : E) : child ∈ (children parent).filter accept ↔ Down children accept parent child := by
        rw [List.mem_filter,Down]
      rw [List.mem_append,ih tail,isChild]
      simp only [List.mem_append,List.mem_reverse,isChild,List.mem_cons]
      constructor
      · rintro (below | ⟨start,below | mem,path⟩)
        · exact ⟨parent,.inl rfl,.single below⟩
        · exact ⟨parent,.inl rfl,.head below path⟩
        · exact ⟨start,.inr mem,path⟩
      · rintro ⟨start,rfl | mem,path⟩
        · rcases Relation.TransGen.head'_iff.mp path with ⟨child,below,path⟩
          rcases Relation.reflTransGen_iff_eq_or_transGen.mp path with rfl | path
          · exact .inl below
          · exact .inr ⟨child,.inl below,path⟩
        · exact .inr ⟨start,.inr mem,path⟩

/-- More fuel changes nothing. -/
theorem descend_mono {fuel : Nat} {stack out : List E} (walked : descend children accept fuel stack = some out)
    {more : Nat}
    (enough : fuel ≤ more) : descend children accept more stack = some out := by
  induction fuel generalizing stack out more with
  | zero =>
    cases stack with
    | nil =>
      cases walked
      cases more <;> rfl
    | cons parent stack => cases walked
  | succ fuel ih =>
    obtain ⟨more,rfl⟩ := Nat.exists_eq_add_of_lt (Nat.lt_of_succ_le enough)
    cases stack with
    | nil =>
      cases walked
      rfl
    | cons parent stack =>
      obtain ⟨rest,tail,rfl⟩ := Option.map_eq_some_iff.mp walked
      exact Option.map_eq_some_iff.mpr ⟨rest,ih tail (Nat.le_add_right fuel more),rfl⟩

private theorem exists_descend_cons (wellFounded : WellFounded fun child parent => child ∈ children parent) (node : E) :
    ∀ stack, (∃ fuel out, descend children accept fuel stack = some out) →
      ∃ fuel out, descend children accept fuel (node :: stack) = some out := by
  induction node using wellFounded.induction with
  | _ node ih =>
    rintro stack ⟨fuel,out,walked⟩
    have pushed (nodes : List E) (isChild : ∀ child ∈ nodes, child ∈ children node) :
        ∃ fuel out, descend children accept fuel (nodes ++ stack) = some out := by
      induction nodes with
      | nil => exact ⟨fuel,out,walked⟩
      | cons child rest push =>
        exact ih child (isChild child List.mem_cons_self) (rest ++ stack)
          (push fun other mem => isChild other (List.mem_cons_of_mem _ mem))
    obtain ⟨enough,below,found⟩ := pushed ((children node).filter accept).reverse
      (fun child mem => List.mem_of_mem_filter (List.mem_reverse.mp mem))
    exact ⟨enough + 1,_,Option.map_eq_some_iff.mpr ⟨below,found,rfl⟩⟩

/-- A walk down a forest ends: with enough fuel it meets the same nodes, however much there is. -/
theorem exists_descend (accept : E → Bool) (wellFounded : WellFounded fun child parent => child ∈ children parent)
    (stack : List E) :
    ∃ enough out, ∀ fuel, enough ≤ fuel → descend children accept fuel stack = some out := by
  have walked : ∃ fuel out, descend children accept fuel stack = some out := by
    induction stack with
    | nil => exact ⟨0,[],rfl⟩
    | cons node stack ih => exact exists_descend_cons wellFounded node stack ih
  obtain ⟨enough,out,walked⟩ := walked
  exact ⟨enough,out,fun fuel more => descend_mono walked more⟩

end Forest
