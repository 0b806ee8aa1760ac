import Mathlib.Data.List.Basic
import Mathlib.Tactic

/-!
The targets of `network_target.rs`: which clients a message or an entity is for, as a list
of clients that are in or a list of clients that are out.
-/
namespace Lightyear.Connection

/-- The lists up to this length are compared element by element. -/
def INLINE_TARGET_CAPACITY : Nat := 4

inductive Target (T : Type) where
  | None
  | AllExceptSingle (client_id : T)
  | AllExcept (client_ids : List T)
  | All
  | Only (client_ids : List T)
  | Single (client_id : T)
deriving DecidableEq, Repr

namespace Target
variable {T : Type} [DecidableEq T]

def targets (self : Target T) (client_id : T) : Bool :=
  match self with
  | .All => true
  | .AllExceptSingle single => client_id != single
  | .AllExcept client_ids => !client_ids.contains client_id
  | .Only client_ids => client_ids.contains client_id
  | .Single single => client_id == single
  | .None => false

def is_empty : Target T → Bool
  | .None => true
  | .Only ids => ids.isEmpty
  | _ => false

/-- `retain(|id| seen.insert(id))` with the set `seen`. -/
def retain_insert (seen : List T) : List T → List T
  | [] => []
  | client_id :: rest =>
    if client_id ∈ seen then retain_insert seen rest
    else client_id :: retain_insert (client_id :: seen) rest

/-- `retain(|id| remaining.remove(id))` with the set `remaining`. -/
def retain_remove (remaining : List T) : List T → List T
  | [] => []
  | client_id :: rest =>
    if client_id ∈ remaining then client_id :: retain_remove (remaining.filter (· ≠ client_id)) rest
    else retain_remove remaining rest

/-- The loop over the positions from 1: what is before the position, and what is from there on. -/
def deduplicate_inline (before : List T) : List T → List T
  | [] => before
  | client_id :: rest =>
    if client_id ∈ before then deduplicate_inline before rest
    else deduplicate_inline (before ++ [client_id]) rest

def deduplicate (client_ids : List T) : List T :=
  if INLINE_TARGET_CAPACITY < client_ids.length then retain_insert [] client_ids
  else deduplicate_inline (client_ids.take 1) (client_ids.drop 1)

/-- `Target::from` of a list. -/
def from_list : List T → Target T
  | [] => .None
  | [client_id] => .Single client_id
  | client_ids => .Only client_ids

def all_except_from_list : List T → Target T
  | [] => .All
  | [client_id] => .AllExceptSingle client_id
  | client_ids => .AllExcept client_ids

def only_unique : List T → Target T
  | [] => .None
  | [first] => .Single first
  | client_ids => from_list (deduplicate client_ids)

/-- The exclusive target of the clients of an inclusive one. The others are `unreachable!`. -/
def all_except_inclusive : Target T → Option (Target T)
  | .None => some .All
  | .Single client_id => some (.AllExceptSingle client_id)
  | .Only client_ids => some (.AllExcept client_ids)
  | _ => none

def all_except_unique (client_ids : List T) : Option (Target T) := all_except_inclusive (only_unique client_ids)

/-- The zero, one or many form, without a look for duplicates. -/
def compact : Target T → Target T
  | .Only client_ids => from_list client_ids
  | .AllExcept client_ids => all_except_from_list client_ids
  | target => target

def normalize : Target T → Target T
  | .Only client_ids => from_list (deduplicate client_ids)
  | .AllExcept client_ids => all_except_from_list (deduplicate client_ids)
  | target => target

/-- `if !client_ids.contains(&client_id) { client_ids.push(client_id) }` -/
def push_absent (client_ids : List T) (client_id : T) : List T :=
  if client_id ∈ client_ids then client_ids else client_ids ++ [client_id]

def insert (self : Target T) (client_id : T) : Target T :=
  match self with
  | .All => .All
  | .AllExceptSingle excluded => if excluded = client_id then .All else .AllExceptSingle excluded
  | .AllExcept excluded => .AllExcept (excluded.filter (· ≠ client_id))
  | .Only included => .Only (push_absent included client_id)
  | .Single existing => if existing ≠ client_id then .Only [existing,client_id] else .Single existing
  | .None => .Single client_id

def extend (self : Target T) (ids : List T) : Target T := (ids.foldl insert self.normalize).normalize

/-- With long lists the set of those seen has the elements of `client_ids`, once they are retained. -/
def append_unique (client_ids extra : List T) : List T :=
  if client_ids.length ≤ INLINE_TARGET_CAPACITY ∨ extra.length ≤ INLINE_TARGET_CAPACITY then
    extra.foldl push_absent client_ids
  else retain_insert [] client_ids ++ retain_insert client_ids extra

def retain_membership (client_ids other : List T) (keep_present : Bool) : List T :=
  if client_ids.length ≤ INLINE_TARGET_CAPACITY ∨ other.length ≤ INLINE_TARGET_CAPACITY then
    client_ids.filter fun client_id => other.contains client_id == keep_present
  else if keep_present then retain_remove other client_ids
  else retain_insert other client_ids

def only_difference (left right : List T) : Target T :=
  if left.length ≤ INLINE_TARGET_CAPACITY ∨ right.length ≤ INLINE_TARGET_CAPACITY then
    only_unique (left.filter fun id => !right.contains id)
  else from_list (retain_insert right left)

def all_except_difference (left right : List T) : Option (Target T) := all_except_inclusive (only_difference left right)

def intersection (self target : Target T) : Option (Target T) :=
  match self,target with
  | .None,_ => some .None
  | self,.All => some self
  | _,.None => some .None
  | .All,target => some target
  | .AllExceptSingle existing,target => compact <$> match target with
    | .AllExceptSingle client_id => all_except_unique [existing,client_id]
    | .AllExcept client_ids => all_except_unique (existing :: client_ids)
    | .Only client_ids => some (only_unique (client_ids.filter (· ≠ existing)))
    | .Single client_id => some (if existing = client_id then .None else .Single client_id)
    | .None => some .None
    | .All => some (.AllExceptSingle existing)
  | .AllExcept existing,target => some (compact (match target with
    | .AllExceptSingle client_id => .AllExcept (push_absent existing client_id)
    | .AllExcept client_ids => .AllExcept (append_unique existing client_ids)
    | .Only client_ids => only_difference client_ids existing
    | .Single client_id => if client_id ∈ existing then .None else .Single client_id
    | .None => .None
    | .All => .AllExcept existing))
  | .Only existing,target => some (compact (match target with
    | .AllExceptSingle client_id => .Only (existing.filter (· ≠ client_id))
    | .AllExcept client_ids => .Only (retain_membership existing client_ids false)
    | .Single client_id => .Only (existing.filter (· = client_id))
    | .Only client_ids => .Only (retain_membership existing client_ids true)
    | .None => .None
    | .All => .Only existing))
  | .Single existing,target => some (if target.targets existing then .Single existing else .None)

def union (self target : Target T) : Option (Target T) :=
  match self,target with
  | .All,_ => some .All
  | self,.None => some self
  | _,.All => some .All
  | .None,target => some target
  | .AllExceptSingle existing,target => some (if target.targets existing then .All else .AllExceptSingle existing)
  | .AllExcept existing,target => some (compact (match target with
    | .AllExceptSingle client_id => if client_id ∈ existing then .AllExceptSingle client_id else .All
    | .AllExcept client_ids => .AllExcept (retain_membership existing client_ids true)
    | .Only client_ids => .AllExcept (retain_membership existing client_ids false)
    | .Single client_id => .AllExcept (existing.filter (· ≠ client_id))
    | .None => .AllExcept existing
    | .All => .All))
  | .Only existing,target => compact <$> match target with
    | .AllExceptSingle client_id => some (if client_id ∈ existing then .All else .AllExceptSingle client_id)
    | .AllExcept client_ids => all_except_difference client_ids existing
    | .Single client_id => some (.Only (push_absent existing client_id))
    | .Only client_ids => some (.Only (append_unique existing client_ids))
    | .None => some (.Only existing)
    | .All => some .All
  | .Single existing,target => compact <$> match target with
    | .AllExceptSingle client_id => some (if existing = client_id then .All else .AllExceptSingle client_id)
    | .AllExcept client_ids => all_except_unique (client_ids.filter (· ≠ existing))
    | .Only client_ids => some (only_unique (existing :: client_ids))
    | .Single client_id => some (if existing ≠ client_id then .Only [existing,client_id] else .Single existing)
    | .None => some (.Single existing)
    | .All => some .All

def inverse : Target T → Target T
  | .All => .None
  | .AllExceptSingle client_id => .Single client_id
  | .AllExcept client_ids => .Only client_ids
  | .Only client_ids => .AllExcept client_ids
  | .Single client_id => .AllExceptSingle client_id
  | .None => .All

def from_exclude (client_ids : List T) : Target T := (extend .None client_ids).inverse

def exclude (self target : Target T) : Option (Target T) :=
  match self,target with
  | .None,_ => some .None
  | self,.None => some self
  | _,.All => some .None
  | .All,target => some (compact (match target with
    | .AllExceptSingle client_id => .Single client_id
    | .AllExcept client_ids => from_list client_ids
    | .Only client_ids => all_except_from_list client_ids
    | .Single client_id => .AllExceptSingle client_id
    | .None => .All
    | .All => .None))
  | .AllExceptSingle existing,target => compact <$> match target with
    | .AllExceptSingle client_id => some (if existing = client_id then .None else .Single client_id)
    | .AllExcept client_ids => some (only_unique (client_ids.filter (· ≠ existing)))
    | .Only client_ids => all_except_unique (existing :: client_ids)
    | .Single client_id => all_except_unique [existing,client_id]
    | .None => some (.AllExceptSingle existing)
    | .All => some .None
  | .AllExcept existing,target => some (compact (match target with
    | .AllExceptSingle client_id => if client_id ∈ existing then .None else .Single client_id
    | .AllExcept client_ids => only_difference client_ids existing
    | .Only client_ids => .AllExcept (append_unique existing client_ids)
    | .Single client_id => .AllExcept (push_absent existing client_id)
    | .None => .AllExcept existing
    | .All => .None))
  | .Only existing,target => some (compact (match target with
    | .AllExceptSingle client_id => .Only (existing.filter (· = client_id))
    | .AllExcept client_ids => .Only (retain_membership existing client_ids true)
    | .Only client_ids => .Only (retain_membership existing client_ids false)
    | .Single client_id => .Only (existing.filter (· ≠ client_id))
    | .None => .Only existing
    | .All => .None))
  | .Single existing,target => some (if target.targets existing then .None else .Single existing)

/-! The lists: the short path and the one over a hash set have the same elements. -/

@[simp,grind =] theorem mem_retain_insert {seen client_ids : List T} {x : T} :
    x ∈ retain_insert seen client_ids ↔ x ∈ client_ids ∧ x ∉ seen := by
  induction client_ids generalizing seen with
  | nil => simp [retain_insert]
  | cons client_id rest ih =>
    rw [retain_insert]
    split_ifs with mem
    · rw [ih,List.mem_cons]
      constructor
      · exact fun ⟨isRest,fresh⟩ => ⟨.inr isRest,fresh⟩
      · rintro ⟨rfl | isRest,fresh⟩
        · exact absurd mem fresh
        · exact ⟨isRest,fresh⟩
    · rw [List.mem_cons,ih,List.mem_cons,List.mem_cons]
      by_cases same : x = client_id
      · simp [same,mem]
      · simp [same]

@[simp,grind =] theorem mem_retain_remove {remaining client_ids : List T} {x : T} :
    x ∈ retain_remove remaining client_ids ↔ x ∈ client_ids ∧ x ∈ remaining := by
  induction client_ids generalizing remaining with
  | nil => simp [retain_remove]
  | cons client_id rest ih =>
    rw [retain_remove]
    split_ifs with mem
    · rw [List.mem_cons,ih,List.mem_cons,List.mem_filter]
      by_cases same : x = client_id
      · simp [same,mem]
      · simp [same]
    · rw [ih,List.mem_cons]
      constructor
      · exact fun ⟨isRest,left⟩ => ⟨.inr isRest,left⟩
      · rintro ⟨rfl | isRest,left⟩
        · exact absurd left mem
        · exact ⟨isRest,left⟩

private theorem mem_deduplicate_inline {before client_ids : List T} {x : T} :
    x ∈ deduplicate_inline before client_ids ↔ x ∈ before ∨ x ∈ client_ids := by
  induction client_ids generalizing before with
  | nil => simp [deduplicate_inline]
  | cons client_id rest ih =>
    rw [deduplicate_inline]
    split_ifs with mem
    · rw [ih,List.mem_cons]
      by_cases same : x = client_id
      · simp [same,mem]
      · simp [same]
    · rw [ih,List.mem_append,List.mem_singleton,List.mem_cons,or_assoc]

@[simp,grind =]
theorem mem_deduplicate {client_ids : List T} {x : T} : x ∈ deduplicate client_ids ↔ x ∈ client_ids := by
  rw [deduplicate]
  split_ifs
  · simp
  · rw [mem_deduplicate_inline,← List.mem_append,List.take_append_drop]

@[simp,grind =] theorem mem_push_absent {client_ids : List T} {client_id x : T} :
    x ∈ push_absent client_ids client_id ↔ x ∈ client_ids ∨ x = client_id := by
  rw [push_absent]
  split_ifs with mem
  · by_cases same : x = client_id
    · simp [same,mem]
    · simp [same]
  · rw [List.mem_append,List.mem_singleton]

private theorem mem_foldl_push_absent {client_ids extra : List T} {x : T} :
    x ∈ extra.foldl push_absent client_ids ↔ x ∈ client_ids ∨ x ∈ extra := by
  induction extra generalizing client_ids with
  | nil => simp
  | cons client_id rest ih => rw [List.foldl_cons,ih,mem_push_absent,List.mem_cons,or_assoc]

@[simp,grind =] theorem mem_append_unique {client_ids extra : List T} {x : T} :
    x ∈ append_unique client_ids extra ↔ x ∈ client_ids ∨ x ∈ extra := by
  rw [append_unique]
  split_ifs
  · exact mem_foldl_push_absent
  · rw [List.mem_append,mem_retain_insert,mem_retain_insert]
    by_cases mem : x ∈ client_ids <;> simp [mem]

@[simp,grind =] theorem mem_retain_membership {client_ids other : List T} {keep_present : Bool} {x : T} :
    x ∈ retain_membership client_ids other keep_present ↔ x ∈ client_ids ∧ (x ∈ other ↔ keep_present = true) := by
  rw [retain_membership]
  cases keep_present
  all_goals
    simp only [Bool.false_eq_true,if_false,if_true]
    split_ifs <;> simp

/-! The forms of a target: which of them is built does not change the clients it is for. -/

@[simp,grind =] theorem targets_None (x : T) : (None : Target T).targets x = false := rfl
@[simp,grind =] theorem targets_All (x : T) : (All : Target T).targets x = true := rfl
@[simp,grind =] theorem targets_Single (client_id x : T) : (Single client_id).targets x = decide (x = client_id) := rfl
@[simp,grind =] theorem targets_AllExceptSingle (client_id x : T) :
    (AllExceptSingle client_id).targets x = !decide (x = client_id) := rfl

@[simp,grind =]
theorem targets_Only (client_ids : List T) (x : T) : (Only client_ids).targets x = decide (x ∈ client_ids) := by
  simp [targets]

@[simp,grind =] theorem targets_AllExcept (client_ids : List T) (x : T) :
    (AllExcept client_ids).targets x = !decide (x ∈ client_ids) := by
  simp [targets]

@[simp,grind =] theorem targets_from_list (client_ids : List T) (x : T) :
    (from_list client_ids).targets x = decide (x ∈ client_ids) := by
  unfold from_list
  split <;> simp

@[simp,grind =] theorem targets_all_except_from_list (client_ids : List T) (x : T) :
    (all_except_from_list client_ids).targets x = !decide (x ∈ client_ids) := by
  unfold all_except_from_list
  split <;> simp

@[simp,grind =] theorem targets_only_unique (client_ids : List T) (x : T) :
    (only_unique client_ids).targets x = decide (x ∈ client_ids) := by
  unfold only_unique
  split <;> simp

@[simp,grind =] theorem targets_only_difference (left right : List T) (x : T) :
    (only_difference left right).targets x = decide (x ∈ left ∧ x ∉ right) := by
  rw [only_difference]
  split_ifs <;> simp

@[simp,grind =] theorem targets_compact (self : Target T) (x : T) : self.compact.targets x = self.targets x := by
  cases self <;> simp [compact]

@[simp,grind =] theorem targets_normalize (self : Target T) (x : T) : self.normalize.targets x = self.targets x := by
  cases self <;> simp [normalize]

@[simp,grind =] theorem targets_insert (self : Target T) (client_id x : T) :
    (self.insert client_id).targets x = (self.targets x || decide (x = client_id)) := by
  cases self with
  | None => simp [insert]
  | All => simp [insert]
  | AllExcept excluded => by_cases isId : x = client_id <;> simp [insert,isId]
  | AllExceptSingle excluded =>
    rw [insert]
    split_ifs with same
    · simp [same]
    · by_cases isId : x = client_id
      · simp [isId,Ne.symm same]
      · simp [isId]
  | Only included => simp [insert]
  | Single existing =>
    rw [insert]
    split_ifs with same
    · simp
    · simp [not_not.mp same]

/-- Adds just the given ids. -/
theorem targets_extend (self : Target T) (ids : List T) (x : T) :
    (self.extend ids).targets x = (self.targets x || decide (x ∈ ids)) := by
  have added (target : Target T) : (ids.foldl insert target).targets x = (target.targets x || decide (x ∈ ids)) := by
    induction ids generalizing target with
    | nil => simp
    | cons id rest ih =>
      rw [List.foldl_cons,ih,targets_insert,Bool.or_assoc,← Bool.decide_or]
      simp only [List.mem_cons]
  rw [extend,targets_normalize,added,targets_normalize]

@[simp,grind =] theorem targets_inverse (self : Target T) (x : T) : self.inverse.targets x = !self.targets x := by
  cases self <;> simp [inverse]

theorem targets_from_exclude (client_ids : List T) (x : T) :
    (from_exclude client_ids).targets x = !decide (x ∈ client_ids) := by
  rw [from_exclude,targets_inverse,targets_extend,targets_None,Bool.false_or]

/-! The operations of two targets. -/

/-- The result is a target for just the clients with `p`. -/
def Selects (result : Option (Target T)) (p : T → Bool) :
    Prop := ∃ target, result = some target ∧ ∀ x, target.targets x = p x

private theorem selects_some {target : Target T} {p : T → Bool} (selects : ∀ x, target.targets x = p x) :
    Selects (some target) p :=
  ⟨target,rfl,selects⟩

private theorem Selects.compact {result : Option (Target T)} {p : T → Bool} (selects : Selects result p) :
    Selects (Target.compact <$> result) p := by
  obtain ⟨target,rfl,selects⟩ := selects
  exact selects_some fun x => (targets_compact target x).trans (selects x)

private theorem Selects.congr {result : Option (Target T)} {p q : T → Bool} (selects : Selects result p)
    (same : ∀ x, p x = q x) :
    Selects result q := by
  obtain ⟨target,rfl,selects⟩ := selects
  exact selects_some fun x => (selects x).trans (same x)

/-- A target that lists the clients that are in. -/
private def Inclusive : Target T → Prop
  | .None | .Single _ | .Only _ => True
  | _ => False

omit [DecidableEq T] in
private theorem inclusive_from_list (client_ids : List T) : (from_list client_ids).Inclusive := by
  unfold from_list
  split <;> trivial

private theorem inclusive_only_unique (client_ids : List T) : (only_unique client_ids).Inclusive := by
  unfold only_unique
  split
  · trivial
  · trivial
  · exact inclusive_from_list _

private theorem inclusive_only_difference (left right : List T) : (only_difference left right).Inclusive := by
  rw [only_difference]
  split_ifs
  · exact inclusive_only_unique _
  · exact inclusive_from_list _

/-- The arms that are `unreachable!` are not reached. -/
private theorem Inclusive.selects {self : Target T} (inclusive : self.Inclusive) :
    Selects (all_except_inclusive self) fun x => !self.targets x := by
  cases self with
  | None => exact selects_some (by simp)
  | Single client_id => exact selects_some (by simp)
  | Only client_ids => exact selects_some (by simp)
  | _ => exact inclusive.elim

private theorem selects_all_except_unique (client_ids : List T) :
    Selects (all_except_unique client_ids) fun x => !decide (x ∈ client_ids) :=
  (inclusive_only_unique client_ids).selects.congr fun x => by rw [targets_only_unique]

private theorem selects_all_except_difference (left right : List T) :
    Selects (all_except_difference left right) fun x => !decide (x ∈ left ∧ x ∉ right) :=
  (inclusive_only_difference left right).selects.congr fun x => by rw [targets_only_difference]

theorem selects_intersection (self target : Target T) :
    Selects (self.intersection target) fun x => self.targets x && target.targets x := by
  cases self with
  | None => exact selects_some (by simp)
  | All => cases target <;> exact selects_some (by simp)
  | Single existing => cases target <;> exact selects_some (by grind)
  | AllExceptSingle existing =>
    cases target with
    | AllExceptSingle client_id => exact (selects_all_except_unique _).compact.congr (by grind)
    | AllExcept client_ids => exact (selects_all_except_unique _).compact.congr (by grind)
    | _ => exact selects_some (by grind)
  | AllExcept existing => cases target <;> exact selects_some (by grind)
  | Only existing => cases target <;> exact selects_some (by grind)

theorem selects_union (self target : Target T) :
    Selects (self.union target) fun x => self.targets x || target.targets x := by
  cases self with
  | All => exact selects_some (by simp)
  | None => cases target <;> exact selects_some (by simp)
  | AllExceptSingle existing => cases target <;> exact selects_some (by grind)
  | AllExcept existing => cases target <;> exact selects_some (by grind)
  | Only existing =>
    cases target with
    | AllExcept client_ids => exact (selects_all_except_difference _ _).compact.congr (by grind)
    | _ => exact selects_some (by grind)
  | Single existing =>
    cases target with
    | AllExcept client_ids => exact (selects_all_except_unique _).compact.congr (by grind)
    | _ => exact selects_some (by grind)

theorem selects_exclude (self target : Target T) :
    Selects (self.exclude target) fun x => self.targets x && !target.targets x := by
  cases self with
  | None => exact selects_some (by simp)
  | All => cases target <;> exact selects_some (by grind)
  | AllExceptSingle existing =>
    cases target with
    | Only client_ids => exact (selects_all_except_unique _).compact.congr (by grind)
    | Single client_id => exact (selects_all_except_unique _).compact.congr (by grind)
    | _ => exact selects_some (by grind)
  | AllExcept existing => cases target <;> exact selects_some (by grind)
  | Only existing => cases target <;> exact selects_some (by grind)
  | Single existing => cases target <;> exact selects_some (by grind)

/-- The operations are those of the sets of clients that the targets are for, and none of them panics. -/
theorem set_operations_match_membership (left right : Target T) (client_ids : List T) :
    Selects (left.intersection right) (fun x => left.targets x && right.targets x) ∧
      Selects (left.union right) (fun x => left.targets x || right.targets x) ∧
      Selects (left.exclude right) (fun x => left.targets x && !right.targets x) ∧
      (∀ x, left.inverse.targets x = !left.targets x) ∧
      (∀ x, (left.extend client_ids).targets x = (left.targets x || decide (x ∈ client_ids))) ∧
      ∀ x, (from_exclude client_ids).targets x = !decide (x ∈ client_ids) :=
  ⟨selects_intersection left right,selects_union left right,selects_exclude left right,targets_inverse left,
    targets_extend left client_ids,targets_from_exclude client_ids⟩

example : (intersection (.Only [3,3,1]) (.AllExceptSingle 1) : Option (Target Nat)) = some (.Only [3,3]) := by decide

/-- The clients that the function is applied to: an id without a connection stands for
`Entity::PLACEHOLDER`. -/
def apply_targets {E : Type} [DecidableEq E] (self : Target T) (clients : List E) (mapping : T → Option E)
    (PLACEHOLDER : E) : List E :=
  let entity (client_id : T) := (mapping client_id).getD PLACEHOLDER
  match self with
  | .All => clients
  | .AllExceptSingle client_id => clients.filter fun e => e != entity client_id
  | .AllExcept client_ids => clients.filter fun e => !(client_ids.map entity).contains e
  | .Single client_id => (clients.find? fun e => e == entity client_id).toList
  | .Only client_ids => clients.filter fun e => (client_ids.map entity).contains e
  | .None => []

theorem mem_apply_targets {E : Type} [DecidableEq E] {self : Target T} {clients : List E} {mapping : T → Option E}
    {PLACEHOLDER e : E}
    {x : T} (connected : ∀ y, (mapping y).getD PLACEHOLDER = e ↔ y = x) :
    e ∈ self.apply_targets clients mapping PLACEHOLDER ↔ e ∈ clients ∧ self.targets x = true := by
  have listed (client_ids : List T) : (∃ a ∈ client_ids, (mapping a).getD PLACEHOLDER = e) ↔ x ∈ client_ids := by
    simp only [connected,exists_eq_right]
  have single (client_id : T) : e = (mapping client_id).getD PLACEHOLDER ↔ x = client_id := by
    rw [eq_comm,connected,eq_comm]
  cases self with
  | None => simp [apply_targets]
  | All => simp [apply_targets]
  | AllExceptSingle client_id => simp [apply_targets,single]
  | AllExcept client_ids => simp [apply_targets,listed]
  | Only client_ids => simp [apply_targets,listed]
  | Single client_id =>
    rw [apply_targets,Option.mem_toList,targets_Single,decide_eq_true_eq]
    constructor
    · intro found
      have isEntity := List.find?_some found
      exact ⟨List.mem_of_find?_eq_some found,(single client_id).mp (beq_iff_eq.mp isEntity)⟩
    · rintro ⟨mem,rfl⟩
      simp only [(connected x).mpr rfl]
      cases found : clients.find? fun a => a == e with
      | none => exact absurd (beq_self_eq_true e) (List.find?_eq_none.mp found e mem)
      | some a => exact congrArg some (beq_iff_eq.mp (List.find?_some (p := fun a => a == e) found))

omit [DecidableEq T] in
theorem apply_targets_sublist {E : Type} [DecidableEq E] (self : Target T) (clients : List E) (mapping : T → Option E)
    (PLACEHOLDER : E) : (self.apply_targets clients mapping PLACEHOLDER).Sublist clients := by
  cases self with
  | None => exact List.nil_sublist clients
  | All => exact List.Sublist.refl clients
  | Single client_id =>
    rw [apply_targets]
    cases found : clients.find? fun e => e == (mapping client_id).getD PLACEHOLDER with
    | none => exact List.nil_sublist clients
    | some e => exact List.singleton_sublist.mpr (List.mem_of_find?_eq_some found)
  | _ => exact List.filter_sublist

end Target

/-! ### Resolution -/

section Resolver
variable {T E : Type} [DecidableEq T] [DecidableEq E]

/-- The sets of a resolver, with what the resolution before has left in them. -/
structure NetworkTargetResolver (E : Type) where
  targets : Finset E
  requested : Finset E

/-- `targets.remove(entity)` for the entity of a peer, if it has one. -/
def remove_mapped (mapping : T → Option E) (targets : Finset E) (peer_id : T) : Finset E :=
  match mapping peer_id with
  | some entity => targets.erase entity
  | none => targets

def NetworkTargetResolver.resolve (_self : NetworkTargetResolver E) (target : Target T) (clients : List E)
    (mapping : T → Option E) : NetworkTargetResolver E :=
  let cleared : NetworkTargetResolver E := ⟨∅,∅⟩
  match target with
  | .All => {cleared with targets := cleared.targets ∪ clients.toFinset}
  | .AllExceptSingle peer_id =>
    {cleared with targets := remove_mapped mapping (cleared.targets ∪ clients.toFinset) peer_id}
  | .AllExcept peer_ids =>
    {cleared with targets := peer_ids.foldl (remove_mapped mapping) (cleared.targets ∪ clients.toFinset)}
  | .Single peer_id =>
    match mapping peer_id with
    | some entity =>
      if clients.contains entity then {cleared with targets := insert entity cleared.targets} else cleared
    | none => cleared
  | .Only peer_ids =>
    if clients.length ≤ INLINE_TARGET_CAPACITY ∧ peer_ids.length ≤ INLINE_TARGET_CAPACITY then
      let requested := peer_ids.filterMap mapping
      {cleared with targets := cleared.targets ∪ (clients.filter fun entity => requested.contains entity).toFinset}
    else
      let requested := cleared.requested ∪ (peer_ids.filterMap mapping).toFinset
      ⟨cleared.targets ∪ (clients.filter fun entity => entity ∈ requested).toFinset,requested⟩
  | .None => cleared

omit [DecidableEq T] in
private theorem mem_remove_mapped {mapping : T → Option E} {targets : Finset E} {peer_id : T} {e : E} :
    e ∈ remove_mapped mapping targets peer_id ↔ e ∈ targets ∧ mapping peer_id ≠ some e := by
  unfold remove_mapped
  cases mapping peer_id with
  | none => simp
  | some entity => rw [Finset.mem_erase,and_comm,ne_eq,ne_eq,Option.some_inj,eq_comm]

omit [DecidableEq T] in
private theorem mem_foldl_remove {mapping : T → Option E} {peer_ids : List T} {targets : Finset E} {e : E} :
    e ∈ peer_ids.foldl (remove_mapped mapping) targets ↔
      e ∈ targets ∧ ∀ peer_id ∈ peer_ids, mapping peer_id ≠ some e := by
  induction peer_ids generalizing targets with
  | nil => simp
  | cons peer_id rest ih => rw [List.foldl_cons,ih,mem_remove_mapped,List.forall_mem_cons,and_assoc]

/-- Whatever the resolver held before, it then holds the clients whose peer is targeted. -/
theorem mem_resolve (self : NetworkTargetResolver E) (target : Target T) {clients : List E} {mapping : T → Option E}
    {e : E} {x : T}
    (connected : ∀ y, mapping y = some e ↔ y = x) :
    e ∈ (self.resolve target clients mapping).targets ↔ e ∈ clients ∧ target.targets x = true := by
  cases target with
  | None => simp [NetworkTargetResolver.resolve]
  | All => simp [NetworkTargetResolver.resolve]
  | AllExceptSingle peer_id =>
    simp only [NetworkTargetResolver.resolve,mem_remove_mapped,Finset.empty_union,List.mem_toFinset,ne_eq,connected,
      Target.targets_AllExceptSingle,Bool.not_eq_true',decide_eq_false_iff_not]
    rw [@eq_comm _ peer_id]
  | AllExcept peer_ids =>
    have listed : (∀ peer_id ∈ peer_ids, mapping peer_id ≠ some e) ↔ x ∉ peer_ids := by
      simp only [ne_eq,connected]
      exact ⟨fun apart mem => apart x mem rfl,fun absent peer_id mem same => absent (same ▸ mem)⟩
    simp [NetworkTargetResolver.resolve,mem_foldl_remove,listed]
  | Single peer_id =>
    have single := connected peer_id
    rw [NetworkTargetResolver.resolve,Target.targets_Single,decide_eq_true_eq,eq_comm,← single]
    cases mapping peer_id with
    | none => simp
    | some entity =>
      by_cases mem : entity ∈ clients
      · simp only [List.contains_iff_mem,mem,↓reduceIte,Finset.mem_insert,Finset.notMem_empty,or_false,Option.some_inj]
        exact ⟨fun same => ⟨same ▸ mem,same.symm⟩,fun both => both.2.symm⟩
      · simp only [List.contains_iff_mem,mem,↓reduceIte,Finset.notMem_empty,Option.some_inj,false_iff]
        exact fun both => mem (both.2 ▸ both.1)
  | Only peer_ids =>
    rw [NetworkTargetResolver.resolve]
    split_ifs <;> simp [connected]

omit [DecidableEq T] in
theorem resolve_clients (self : NetworkTargetResolver E) (target : Target T) {clients : List E}
    {mapping : T → Option E} {e : E}
    (member : e ∈ (self.resolve target clients mapping).targets) : e ∈ clients := by
  cases target with
  | None => simp [NetworkTargetResolver.resolve] at member
  | All => simpa [NetworkTargetResolver.resolve] using member
  | AllExceptSingle peer_id =>
    simp only [NetworkTargetResolver.resolve,mem_remove_mapped] at member
    simpa using member.1
  | AllExcept peer_ids =>
    simp only [NetworkTargetResolver.resolve,mem_foldl_remove] at member
    simpa using member.1
  | Single peer_id =>
    rw [NetworkTargetResolver.resolve] at member
    cases isEntity : mapping peer_id with
    | none => simp [isEntity] at member
    | some entity =>
      simp only [isEntity,List.contains_iff_mem] at member
      split at member
      next isClient =>
        obtain rfl : e = entity := by simpa using member
        exact isClient
      · simp at member
  | Only peer_ids =>
    rw [NetworkTargetResolver.resolve] at member
    split_ifs at member
    · simp only [Finset.empty_union,List.mem_toFinset] at member
      exact (List.mem_filter.mp member).1
    · simp only [Finset.empty_union,List.mem_toFinset] at member
      exact (List.mem_filter.mp member).1

/-- The two ways to resolve a target agree: each has the clients whose peer is targeted, once each.
`Entity::PLACEHOLDER` is not the entity of a client. -/
theorem resolve_apply_targets {clients : List E} (distinct : clients.Nodup) {mapping : T → Option E}
    (injective : ∀ x y e, mapping x = some e → mapping y = some e → x = y)
    (covers : ∀ e ∈ clients, ∃ x, mapping x = some e)
    {PLACEHOLDER : E} (absent : PLACEHOLDER ∉ clients) (self : NetworkTargetResolver E) (target : Target T) :
    (∀ e, e ∈ (self.resolve target clients mapping).targets ↔
      e ∈ clients ∧ ∃ x, mapping x = some e ∧ target.targets x = true) ∧
      (target.apply_targets clients mapping PLACEHOLDER).Nodup ∧
      ∀ e, e ∈ target.apply_targets clients mapping PLACEHOLDER ↔
        e ∈ (self.resolve target clients mapping).targets := by
  have sublist := target.apply_targets_sublist clients mapping PLACEHOLDER
  have resolves (e : E) (isClient : e ∈ clients) : ∃ x, mapping x = some e ∧
      (e ∈ (self.resolve target clients mapping).targets ↔ target.targets x = true) ∧
      (e ∈ target.apply_targets clients mapping PLACEHOLDER ↔ target.targets x = true) := by
    obtain ⟨x,isPeer⟩ := covers e isClient
    have connected (y : T) : mapping y = some e ↔ y = x :=
      ⟨fun isOther => injective y x e isOther isPeer,fun same => same ▸ isPeer⟩
    have stands (y : T) : (mapping y).getD PLACEHOLDER = e ↔ y = x := by
      rw [← connected]
      cases mapping y with
      | none => exact iff_of_false (fun same : PLACEHOLDER = e => absent (same ▸ isClient)) (nomatch ·)
      | some other => exact Option.some_inj.symm
    exact ⟨x,isPeer,(mem_resolve self target connected).trans (and_iff_right isClient),
      (Target.mem_apply_targets stands).trans (and_iff_right isClient)⟩
  refine ⟨fun e => ?_,distinct.sublist sublist,fun e => ?_⟩
  · constructor
    · intro member
      have isClient := resolve_clients self target member
      obtain ⟨x,isPeer,resolved,-⟩ := resolves e isClient
      exact ⟨isClient,x,isPeer,resolved.mp member⟩
    · rintro ⟨isClient,y,isOther,targeted⟩
      obtain ⟨x,isPeer,resolved,-⟩ := resolves e isClient
      exact resolved.mpr (injective y x e isOther isPeer ▸ targeted)
  · constructor
    · intro member
      obtain ⟨x,-,resolved,applied⟩ := resolves e (sublist.subset member)
      exact resolved.mpr (applied.mp member)
    · intro member
      obtain ⟨x,-,resolved,applied⟩ := resolves e (resolve_clients self target member)
      exact applied.mpr (resolved.mp member)

/-- Peer 3 is unknown, and the resolver holds what an earlier target has left. -/
theorem resolve_apply_targets_unknown :
    let mapping (x : Nat) : Option Nat := if x ≤ 2 then some (x + 10) else none
    let target : Target Nat := .Only [1,3,2]
    let self : NetworkTargetResolver Nat := ⟨{10},{12}⟩
    ∀ e, e ∈ target.apply_targets [10,11,12] mapping 0 ↔ e ∈ (self.resolve target [10,11,12] mapping).targets := by
  intro mapping target self
  refine (resolve_apply_targets (by decide) ?_ ?_ (by decide) self target).2.2
  · simp only [mapping]
    grind
  · intro e isClient
    exact ⟨e - 10,by simp only [mapping]; grind⟩

end Resolver
end Lightyear.Connection
