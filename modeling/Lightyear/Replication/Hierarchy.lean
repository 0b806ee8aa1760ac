import Lightyear.Forest
import Lightyear.Runs

/-!
The propagation of `Replicate` down a hierarchy, `hierarchy.rs`, with both of its plugins: the
pass that inserts `ReplicateLike` on the descendants of a root, the observer that copies the root's
`Replicate` to them, and the observer that cleans up when the root's `Replicate` is removed.
-/
namespace Lightyear.Replication

/-- Whether a `Replicate` was set by the user or copied from a root. -/
inductive Origin (E : Type) where
  | User
  | Copied (root : E)
deriving DecidableEq

/-- The components of each entity, and what has changed since the last pass. -/
structure Hierarchy (E : Type) where
  disable_replicate_hierarchy : E → Bool
  child_of : E → Option E
  children : E → List E
  replicate : E → Option (Origin E)
  replicate_like : E → Option E
  children_changed : E → Bool
  replicate_added : E → Bool

inductive HierarchyEvent (E : Type) where
  | Attach (child parent : E)
  | Detach (child : E)
  | InsertReplicate (entity : E)
  | RemoveReplicate (entity : E) (fuel : Nat)
  | Propagate (order : List E) (fuel : Nat)

namespace Hierarchy
variable {E : Type} [DecidableEq E]

def start (disabled : E → Bool) : Hierarchy E :=
  ⟨disabled,fun _ => none,fun _ => [],fun _ => none,fun _ => none,fun _ => false,fun _ => false⟩

def detach (self : Hierarchy E) (child : E) : Hierarchy E :=
  match self.child_of child with
  | none => self
  | some parent =>
    {self with
      child_of := fun e => if e = child then none else self.child_of e
      children := fun e => if e = parent then (self.children e).erase child else self.children e
      children_changed := fun e => if e = parent then true else self.children_changed e}

def attach (self : Hierarchy E) (child parent : E) : Hierarchy E :=
  let self := self.detach child
  {self with
    child_of := fun e => if e = child then some parent else self.child_of e
    children := fun e => if e = parent then self.children e ++ [child] else self.children e
    children_changed := fun e => if e = parent then true else self.children_changed e}

/-- The user inserts `Replicate`. -/
def insert_replicate (self : Hierarchy E) (entity : E) : Hierarchy E :=
  {self with
    replicate := fun e => if e = entity then some .User else self.replicate e
    replicate_added := fun e => if e = entity ∧ self.replicate e = none then true else self.replicate_added e}

/-- The entities that lose their `ReplicateLike` when the `Replicate` of the root is removed. -/
def propagate_replicate_like_replication_marker_removed (self : Hierarchy E) (root : E) (fuel : Nat) :
    Option (List E) :=
  if self.children root ≠ [] ∧ self.disable_replicate_hierarchy root = false then
    Forest.descend self.children (fun child => self.replicate child = none ∧ self.replicate_like child ≠
      none) fuel [root]
  else some []

/-- The user removes the `Replicate` that it has set. -/
def remove_replicate (self : Hierarchy E) (root : E) (fuel : Nat) : Option (Hierarchy E) :=
  if self.replicate root = some .User then
    (self.propagate_replicate_like_replication_marker_removed root fuel).map fun removed =>
      {self with
        replicate := fun e => if e = root then none else self.replicate e
        replicate_added := fun e => if e = root then false else self.replicate_added e
        replicate_like := fun e => if e ∈ removed then none else self.replicate_like e}
  else some self

/-- The query of the pass. -/
def in_query (self : Hierarchy E) (entity : E) : Bool :=
  (self.replicate entity ≠ none ∨ self.replicate_like entity ≠ none) ∧ self.disable_replicate_hierarchy entity = false ∧
    self.children entity ≠ [] ∧ (self.children_changed entity = true ∨ self.replicate_added entity = true)

/-- The filter on the children that the pass reaches. -/
def child_filter (self : Hierarchy E) (child : E) :
    Bool := self.disable_replicate_hierarchy child = false ∧ self.replicate child = none

/-- `ReplicateLike { root }` is inserted, and `propagate_when_replicate_like_added` copies the root's `Replicate`. -/
def insert_replicate_like (self : Hierarchy E) (child root : E) : Hierarchy E :=
  let copies : Bool := self.replicate child = none ∧ (self.replicate root).isSome = true
  {self with
    replicate_like := fun e => if e = child then some root else self.replicate_like e
    replicate := fun e => if e = child ∧ copies = true then some (.Copied root) else self.replicate e
    replicate_added := fun e => if e = child ∧ copies = true then true else self.replicate_added e}

/-- An entity that is `ReplicateLike` another one starts from that one. -/
def root_of (self : Hierarchy E) (entity : E) : E := (self.replicate_like entity).getD entity

/-- What the pass inserts, for the entities of the query in the order of its iteration. -/
def propagate_commands (self : Hierarchy E) (fuel : Nat) : List E → Option (List (E × E))
  | [] => some []
  | entity :: rest => do
    let below ← Forest.descend self.children self.child_filter fuel [self.root_of entity]
    let commands ← self.propagate_commands fuel rest
    some (below.map (fun child => (child,self.root_of entity)) ++ commands)

def apply_commands (self : Hierarchy E) (commands : List (E × E)) : Hierarchy E :=
  commands.foldl (fun self command => self.insert_replicate_like command.1 command.2) self

/-- The pass. Its commands are applied when it has gone through the query. -/
def propagate_through_hierarchy (self : Hierarchy E) (order : List E) (fuel : Nat) : Option (Hierarchy E) :=
  (self.propagate_commands fuel (order.filter self.in_query)).map
    {self with children_changed := fun _ => false,replicate_added := fun _ => false}.apply_commands

def step (self : Hierarchy E) : HierarchyEvent E → Option (Hierarchy E)
  | .Attach child parent => some (self.attach child parent)
  | .Detach child => some (self.detach child)
  | .InsertReplicate entity => some (self.insert_replicate entity)
  | .RemoveReplicate entity fuel => self.remove_replicate entity fuel
  | .Propagate order fuel => self.propagate_through_hierarchy order fuel

/-- No entity is below itself. -/
def IsForest (self : Hierarchy E) : Prop := WellFounded fun child parent => child ∈ self.children parent

/-- `r` is the nearest ancestor with a `Replicate` of the user, and nothing on the way is disabled. -/
def NearestRoot (self : Hierarchy E) (r x : E) : Prop :=
  self.replicate r = some .User ∧ self.disable_replicate_hierarchy r = false ∧
    Relation.TransGen (Forest.Down self.children fun child =>
      self.disable_replicate_hierarchy child = false ∧ self.replicate child ≠ some .User) r x

/-- Every entity below a root is like its nearest root. -/
def Propagated (self : Hierarchy E) : Prop := ∀ r x, self.NearestRoot r x → self.replicate_like x = some r

/-- Nothing below the entity is like it any more. -/
def CleanedUp (self : Hierarchy E) (r : E) : Prop :=
  ∀ x, Relation.TransGen (fun parent child => child ∈ self.children parent) r x →
    self.replicate_like x ≠ some r ∧ self.replicate x ≠ some (.Copied r)

/-- A pass that starts at the root reaches the entity: there is no `Replicate` on the way. -/
def Reached (self : Hierarchy E) (root x : E) : Prop :=
  (∃ entity, self.in_query entity = true ∧ self.root_of entity = root) ∧
    Relation.TransGen (Forest.Down self.children self.child_filter) root x

/-- Every entity that is not yet like its nearest root is reached from there, and no entity is reached
from elsewhere. -/
def PassReaches (self : Hierarchy E) : Prop :=
  ∀ r x, self.NearestRoot r x → (self.replicate_like x = some r ∨ self.Reached r x) ∧ ∀ root, self.Reached root x →
    root = r

/-- No entity below the root has a copy of its `Replicate`, and those that are like the root have no
`Replicate` on the way. -/
def RemovalReaches (self : Hierarchy E) (r : E) : Prop :=
  ∀ x, Relation.TransGen (fun parent child => child ∈ self.children parent) r x →
    self.replicate x ≠ some (.Copied r) ∧ (self.replicate_like x = some r → self.disable_replicate_hierarchy r = false ∧
      Relation.TransGen (Forest.Down self.children fun child => self.replicate child = none ∧
        self.replicate_like child ≠ none) r x)

/-! ### The pass -/

omit [DecidableEq E] in
private theorem mem_commands {self : Hierarchy E} {fuel : Nat} {entities : List E} {commands : List (E × E)}
    (executed : self.propagate_commands fuel entities = some commands) (x root : E) :
    (x,root) ∈ commands ↔ (∃ entity ∈ entities, self.root_of entity = root) ∧
      Relation.TransGen (Forest.Down self.children self.child_filter) root x := by
  induction entities generalizing commands with
  | nil =>
    cases executed
    simp
  | cons entity rest ih =>
    simp only [propagate_commands,Option.bind_eq_bind,Option.bind_eq_some_iff] at executed
    obtain ⟨below,walked,later,executed,same⟩ := executed
    cases same
    have isBelow := Forest.mem_descend walked x
    simp only [List.mem_singleton,exists_eq_left] at isBelow
    rw [List.mem_append,ih executed,List.mem_map]
    constructor
    · rintro (⟨child,mem,same⟩ | ⟨⟨other,mem,isRoot⟩,path⟩)
      · cases same
        exact ⟨⟨entity,List.mem_cons_self,rfl⟩,isBelow.mp mem⟩
      · exact ⟨⟨other,List.mem_cons_of_mem _ mem,isRoot⟩,path⟩
    · rintro ⟨⟨other,mem,rfl⟩,path⟩
      rcases List.mem_cons.mp mem with rfl | mem
      · exact .inl ⟨x,isBelow.mpr path,rfl⟩
      · exact .inr ⟨⟨other,mem,rfl⟩,path⟩

omit [DecidableEq E] in
private theorem propagate_commands_append {self : Hierarchy E} {fuel : Nat} {entities others : List E}
    {commands : List (E × E)}
    (executed : self.propagate_commands fuel (entities ++ others) = some commands) :
    ∃ earlier later, self.propagate_commands fuel entities = some earlier ∧ self.propagate_commands fuel others =
      some later ∧
      commands = earlier ++ later := by
  induction entities generalizing commands with
  | nil => exact ⟨[],commands,rfl,executed,rfl⟩
  | cons entity rest ih =>
    simp only [List.cons_append,propagate_commands,Option.bind_eq_bind,Option.bind_eq_some_iff] at executed
    obtain ⟨below,walked,tail,executed,same⟩ := executed
    cases same
    obtain ⟨earlier,later,first,second,rfl⟩ := ih executed
    refine ⟨_,later,?_,second,(List.append_assoc _ _ _).symm⟩
    simp only [propagate_commands,walked,first]
    rfl

omit [DecidableEq E] in
private theorem exists_commands {self : Hierarchy E} (forest : self.IsForest) (entities : List E) :
    ∃ enough, ∀ fuel, enough ≤ fuel → (self.propagate_commands fuel entities).isSome = true := by
  induction entities with
  | nil => exact ⟨0,fun _ _ => rfl⟩
  | cons entity rest ih =>
    obtain ⟨enough,later⟩ := ih
    obtain ⟨first,below,walked⟩ := Forest.exists_descend self.child_filter forest [self.root_of entity]
    refine ⟨max enough first,fun fuel more => ?_⟩
    obtain ⟨commands,executed⟩ := Option.isSome_iff_exists.mp (later fuel ((le_max_left _ _).trans more))
    simp only [propagate_commands,walked fuel ((le_max_right _ _).trans more),executed]
    rfl

/-- A command for an entity: it is like the root, and the `Replicate` of the user stays where it is. -/
private theorem insert_replicate_like_user (self : Hierarchy E) (child root x : E) :
    (self.insert_replicate_like child root).replicate x = some .User ↔ self.replicate x = some .User := by
  by_cases copies : x = child ∧ self.replicate child = none ∧ (self.replicate root).isSome = true
  · obtain ⟨rfl,isNone,isSome⟩ := copies
    simp [insert_replicate_like,isNone,isSome]
  · have same : (self.insert_replicate_like child root).replicate x = self.replicate x := by
      simp only [insert_replicate_like,decide_eq_true_eq]
      exact if_neg copies
    rw [same]

private theorem apply_commands_frame (self : Hierarchy E) (commands : List (E × E)) :
    (self.apply_commands commands).children = self.children ∧
      (self.apply_commands commands).disable_replicate_hierarchy = self.disable_replicate_hierarchy ∧
      ∀ x, (self.apply_commands commands).replicate x = some .User ↔ self.replicate x = some .User := by
  induction commands generalizing self with
  | nil => exact ⟨rfl,rfl,fun _ => Iff.rfl⟩
  | cons command rest ih =>
    obtain ⟨children,disabled,user⟩ := ih (self.insert_replicate_like command.1 command.2)
    exact ⟨children,disabled,fun x => (user x).trans (insert_replicate_like_user self command.1 command.2 x)⟩

private theorem apply_commands_other {self : Hierarchy E} {commands : List (E × E)} {x : E}
    (absent : ∀ root, (x,root) ∉ commands) :
    (self.apply_commands commands).replicate_like x = self.replicate_like x := by
  induction commands generalizing self with
  | nil => rfl
  | cons command rest ih =>
    refine (ih fun root mem => absent root (List.mem_cons_of_mem _ mem)).trans (if_neg fun same => ?_)
    exact absent command.2 (List.mem_cons.mpr (.inl (by rw [same])))

/-- The last command for an entity decides. -/
private theorem apply_commands_last (self : Hierarchy E) {commands : List (E × E)} {x : E}
    (commanded : ∃ root, (x,root) ∈ commands) :
    ∃ root, (x,root) ∈ commands ∧ (self.apply_commands commands).replicate_like x = some root := by
  induction commands generalizing self with
  | nil => exact (nomatch commanded.choose_spec)
  | cons command rest ih =>
    by_cases later : ∃ root, (x,root) ∈ rest
    · obtain ⟨root,mem,isLike⟩ := ih (self.insert_replicate_like command.1 command.2) later
      exact ⟨root,List.mem_cons_of_mem _ mem,isLike⟩
    · obtain ⟨root,mem⟩ := commanded
      have isFirst : command = (x,root) := ((List.mem_cons.mp mem).resolve_right fun isRest => later ⟨root,isRest⟩).symm
      refine ⟨root,mem,(apply_commands_other fun other isRest => later ⟨other,isRest⟩).trans ?_⟩
      rw [isFirst]
      exact if_pos rfl

/-- What the commands of a pass are, and what is left as it was. -/
theorem propagate_ok {self after : Hierarchy E} {order : List E} {fuel : Nat}
    (executed : self.propagate_through_hierarchy order fuel = some after) :
    ∃ commands, self.propagate_commands fuel (order.filter self.in_query) = some commands ∧
      (∀ x, (∀ root, (x,root) ∉ commands) → after.replicate_like x = self.replicate_like x) ∧
      (∀ x, (∃ root, (x,root) ∈ commands) → ∃ root, (x,root) ∈ commands ∧ after.replicate_like x = some root) ∧
      ∀ r x, after.NearestRoot r x ↔ self.NearestRoot r x := by
  obtain ⟨commands,collected,rfl⟩ := Option.map_eq_some_iff.mp executed
  refine ⟨commands,collected,fun x absent => apply_commands_other absent,fun x => apply_commands_last _,fun r x => ?_⟩
  obtain ⟨children,disabled,user⟩ :=
    apply_commands_frame {self with children_changed := fun _ => false,replicate_added := fun _ => false} commands
  simp only [NearestRoot,children,disabled,user,ne_eq]

omit [DecidableEq E] in
private theorem reached_iff {self : Hierarchy E} {order : List E} {fuel : Nat} {commands : List (E × E)}
    (lists : ∀ e, self.in_query e = true → e ∈ order)
    (collected : self.propagate_commands fuel (order.filter self.in_query) = some commands)
    (root x : E) : (x,root) ∈ commands ↔ self.Reached root x := by
  rw [mem_commands collected,Reached]
  simp only [List.mem_filter]
  constructor
  · exact fun ⟨⟨e,mem,isRoot⟩,path⟩ => ⟨⟨e,mem.2,isRoot⟩,path⟩
  · exact fun ⟨⟨e,inQuery,isRoot⟩,path⟩ => ⟨⟨e,⟨lists e inQuery,inQuery⟩,isRoot⟩,path⟩

/-- A pass that meets the condition leaves every entity below a root like its nearest root. -/
theorem propagated_of_reaches {self after : Hierarchy E} {order : List E} {fuel : Nat}
    (lists : ∀ e, self.in_query e = true → e ∈ order)
    (executed : self.propagate_through_hierarchy order fuel = some after) (reaches : self.PassReaches) :
    after.Propagated := by
  obtain ⟨commands,collected,others,commanded,nearest⟩ := propagate_ok executed
  intro r x isNearest
  obtain ⟨likeOrReached,only⟩ := reaches r x ((nearest r x).mp isNearest)
  by_cases isCommanded : ∃ root, (x,root) ∈ commands
  · obtain ⟨root,mem,isLike⟩ := commanded x isCommanded
    rw [isLike,only root ((reached_iff lists collected root x).mp mem)]
  · rw [others x fun root mem => isCommanded ⟨root,mem⟩]
    exact likeOrReached.resolve_right fun reached => isCommanded ⟨r,(reached_iff lists collected r x).mpr reached⟩

/-- A pass over a forest ends. -/
theorem exists_propagated {self : Hierarchy E} (forest : self.IsForest) (order : List E) :
    ∃ enough, ∀ fuel, enough ≤ fuel → (self.propagate_through_hierarchy order fuel).isSome = true := by
  obtain ⟨enough,collected⟩ := exists_commands forest (order.filter self.in_query)
  exact ⟨enough,fun fuel more => by rw [propagate_through_hierarchy,Option.isSome_map]; exact collected fuel more⟩

/-- With an entity of the query at the end the pass decides by its commands. -/
private theorem propagate_last {self after : Hierarchy E} {before : List E} {entity : E} {fuel : Nat}
    (inQuery : self.in_query entity = true)
    (executed : self.propagate_through_hierarchy (before ++ [entity]) fuel = some after) {x : E}
    (path : Relation.TransGen (Forest.Down self.children self.child_filter) (self.root_of entity) x) :
    after.replicate_like x = some (self.root_of entity) := by
  obtain ⟨commands,collected,rfl⟩ := Option.map_eq_some_iff.mp executed
  rw [List.filter_append,List.filter_cons_of_pos inQuery,List.filter_nil] at collected
  obtain ⟨earlier,later,-,ofLast,rfl⟩ := propagate_commands_append collected
  have isLast (root : E) : (x,root) ∈ later ↔ self.root_of entity = root ∧
      Relation.TransGen (Forest.Down self.children self.child_filter) root x := by
    rw [mem_commands ofLast]
    simp only [List.mem_singleton,exists_eq_left]
  rw [apply_commands,List.foldl_append]
  obtain ⟨root,mem,isLike⟩ := apply_commands_last
    ({self with children_changed := fun _ => false,replicate_added := fun _ => false}.apply_commands earlier)
    ⟨self.root_of entity,(isLast _).mpr ⟨rfl,path⟩⟩
  rw [((isLast root).mp mem).1]
  exact isLike

/-- A condition that does not hold shows in some order of the query. -/
theorem reaches_of_propagated {self : Hierarchy E} (forest : self.IsForest) (entities : List E)
    (finite : ∀ e, self.in_query e = true → e ∈ entities)
    (propagated : ∀ order fuel after, order.Nodup → (∀ e, e ∈ order ↔ self.in_query e = true) →
      self.propagate_through_hierarchy order fuel = some after → after.Propagated) : self.PassReaches := by
  obtain ⟨query,nodup,isQuery⟩ : ∃ query : List E, query.Nodup ∧ ∀ e, e ∈ query ↔ self.in_query e = true := by
    refine ⟨(entities.filter self.in_query).dedup,List.nodup_dedup _,fun e => ?_⟩
    rw [List.mem_dedup,List.mem_filter]
    exact ⟨And.right,fun inQuery => ⟨finite e inQuery,inQuery⟩⟩
  have pass (order : List E) : ∃ fuel after, self.propagate_through_hierarchy order fuel = some after := by
    obtain ⟨enough,executed⟩ := exists_propagated forest order
    exact ⟨enough,Option.isSome_iff_exists.mp (executed enough le_rfl)⟩
  intro r x isNearest
  constructor
  · obtain ⟨fuel,after,executed⟩ := pass query
    obtain ⟨commands,collected,others,commanded,nearest⟩ := propagate_ok executed
    have isLike := propagated query fuel after nodup isQuery executed r x ((nearest r x).mpr isNearest)
    by_cases isCommanded : ∃ root, (x,root) ∈ commands
    · obtain ⟨root,mem,isRoot⟩ := commanded x isCommanded
      rw [isLike,Option.some.injEq] at isRoot
      exact .inr ((reached_iff (fun e => (isQuery e).mpr) collected r x).mp (isRoot ▸ mem))
    · rw [others x fun root mem => isCommanded ⟨root,mem⟩] at isLike
      exact .inl isLike
  · rintro root ⟨⟨e,inQuery,rfl⟩,path⟩
    obtain ⟨fuel,after,executed⟩ := pass (query.erase e ++ [e])
    have atEnd : (query.erase e ++ [e]).Perm query :=
      (List.perm_append_singleton e _).trans (List.perm_cons_erase ((isQuery e).mpr inQuery)).symm
    obtain ⟨-,-,-,-,nearest⟩ := propagate_ok executed
    have isLike := propagated _ fuel after (atEnd.nodup_iff.mpr nodup)
      (fun other => atEnd.mem_iff.trans (isQuery other)) executed r x
      ((nearest r x).mpr isNearest)
    rw [propagate_last inQuery executed path,Option.some.injEq] at isLike
    exact isLike

omit [DecidableEq E] in
private theorem mem_removed {self : Hierarchy E} {root : E} {fuel : Nat} {removed : List E}
    (walked : self.propagate_replicate_like_replication_marker_removed root fuel = some removed) (x : E) :
    x ∈ removed ↔ self.disable_replicate_hierarchy root = false ∧
      Relation.TransGen (Forest.Down self.children fun child => self.replicate child = none ∧
        self.replicate_like child ≠ none) root x := by
  rw [propagate_replicate_like_replication_marker_removed] at walked
  split_ifs at walked with isRoot
  · rw [Forest.mem_descend walked]
    simp [isRoot.2]
  · cases walked
    simp only [List.not_mem_nil,false_iff,not_and]
    intro enabled path
    obtain ⟨child,below,-⟩ := Relation.TransGen.head'_iff.mp path
    exact isRoot ⟨List.ne_nil_of_mem below.1,enabled⟩

/-- After the removal nothing below the root is like it just if the condition holds. -/
theorem remove_replicate_cleans {self after : Hierarchy E} {root : E} {fuel : Nat}
    (isUser : self.replicate root = some .User)
    (executed : self.remove_replicate root fuel = some after) : after.CleanedUp root ↔ self.RemovalReaches root := by
  rw [remove_replicate,if_pos isUser] at executed
  obtain ⟨removed,walked,rfl⟩ := Option.map_eq_some_iff.mp executed
  rw [CleanedUp,RemovalReaches]
  refine forall₂_congr fun x below => ?_
  have copied : (if x = root then none else self.replicate x) ≠ some (.Copied root) ↔
      self.replicate x ≠ some (.Copied root) := by
    by_cases same : x = root
    · simp [same,isUser]
    · simp [same]
  have isLike : (if x ∈ removed then none else self.replicate_like x) ≠ some root ↔
      (self.replicate_like x = some root → x ∈ removed) := by
    by_cases mem : x ∈ removed <;> simp [mem]
  simp only [copied,isLike,mem_removed walked]
  exact and_comm

/-- The removal from a forest ends. -/
theorem exists_removed {self : Hierarchy E} (forest : self.IsForest) (root : E) :
    ∃ enough, ∀ fuel, enough ≤ fuel → (self.remove_replicate root fuel).isSome = true := by
  obtain ⟨enough,out,walked⟩ := Forest.exists_descend
    (fun child => self.replicate child = none ∧ self.replicate_like child ≠ none) forest [root]
  refine ⟨enough,fun fuel more => ?_⟩
  rw [remove_replicate,propagate_replicate_like_replication_marker_removed,walked fuel more]
  split_ifs <;> rfl

/-! ### Runs -/

/-- Only finitely many entities have children. -/
def FewParents (self : Hierarchy E) : Prop := ∃ parents : List E, ∀ e, self.children e ≠ [] → e ∈ parents

omit [DecidableEq E] in
private theorem FewParents.of_subset {self after : Hierarchy E} (few : self.FewParents) (parents : List E)
    (subset : ∀ e, after.children e ≠ [] → self.children e ≠ [] ∨ e ∈ parents) : after.FewParents := by
  obtain ⟨known,all⟩ := few
  refine ⟨known ++ parents,fun e isParent => List.mem_append.mpr ?_⟩
  exact (subset e isParent).imp_left (all e)

private theorem detach_children {self : Hierarchy E} {child e : E} (isParent : (self.detach child).children e ≠ []) :
    self.children e ≠ [] := by
  rw [detach] at isParent
  cases isChild : self.child_of child with
  | none =>
    rw [isChild] at isParent
    exact isParent
  | some parent =>
    simp only [isChild] at isParent
    split_ifs at isParent with same
    · exact fun empty => isParent (by rw [empty]; rfl)
    · exact isParent

theorem step_few {self after : Hierarchy E} {event : HierarchyEvent E} (few : self.FewParents)
    (stepped : self.step event = some after) :
    after.FewParents := by
  cases event with
  | Attach child parent =>
    cases stepped
    refine few.of_subset [parent] fun e isParent => ?_
    by_cases same : e = parent
    · exact .inr (List.mem_singleton.mpr same)
    · exact .inl (detach_children (by simpa [attach,same] using isParent))
  | Detach child =>
    cases stepped
    exact few.of_subset [] fun e isParent => .inl (detach_children isParent)
  | InsertReplicate entity =>
    cases stepped
    exact few
  | RemoveReplicate entity fuel =>
    rw [step,remove_replicate] at stepped
    split_ifs at stepped
    · obtain ⟨removed,-,rfl⟩ := Option.map_eq_some_iff.mp stepped
      exact few
    · cases stepped
      exact few
  | Propagate order fuel =>
    obtain ⟨commands,-,rfl⟩ := Option.map_eq_some_iff.mp stepped
    refine few.of_subset [] fun e isParent => .inl ?_
    rwa [(apply_commands_frame _ commands).1] at isParent

end Hierarchy

/-- In every state that a run over forests reaches a pass ends, and leaves every entity below a root
like its nearest root, in whatever order the query is gone through, just if the condition on passes
holds. The removal of a root ends, and leaves nothing below that is like it, just if the condition on
removals holds. -/
theorem hierarchy_propagated {E : Type} [DecidableEq E] (disabled : E → Bool) (self : Hierarchy E)
    (reached : Runs.Reaches Hierarchy.step (fun _ _ after => after.IsForest) (Hierarchy.start disabled) self) :
    ((∀ order fuel after, order.Nodup → (∀ e, e ∈ order ↔ self.in_query e = true) →
        self.step (.Propagate order fuel) = some after → after.Propagated) ↔ self.PassReaches) ∧
      (∀ order, ∃ enough, ∀ fuel, enough ≤ fuel → (self.step (.Propagate order fuel)).isSome = true) ∧
      (∀ root fuel after, self.replicate root = some .User → self.step (.RemoveReplicate root fuel) = some after →
        (after.CleanedUp root ↔ self.RemovalReaches root)) ∧
      ∀ root, ∃ enough, ∀ fuel, enough ≤ fuel → (self.step (.RemoveReplicate root fuel)).isSome = true := by
  have holds : self.IsForest ∧ self.FewParents := by
    have initially : (Hierarchy.start disabled).IsForest ∧ (Hierarchy.start disabled).FewParents :=
      ⟨⟨fun _ => ⟨_,fun _ mem => (nomatch mem)⟩⟩,[],fun _ isParent => absurd rfl isParent⟩
    refine reached.invariant (fun self => self.IsForest ∧ self.FewParents) initially ?_
    intro before event after inv stepped forest
    exact ⟨forest,Hierarchy.step_few inv.2 stepped⟩
  obtain ⟨forest,parents,few⟩ := holds
  refine ⟨⟨Hierarchy.reaches_of_propagated forest parents fun e inQuery => ?_,?_⟩,Hierarchy.exists_propagated forest,
    fun root fuel after isUser executed => Hierarchy.remove_replicate_cleans isUser executed,
      Hierarchy.exists_removed forest⟩
  · simp only [Hierarchy.in_query,decide_eq_true_eq] at inQuery
    exact few e inQuery.2.2.1
  · exact fun reaches order fuel after _ lists executed => Hierarchy.propagated_of_reaches
      (fun e => (lists e).mpr) executed reaches

/-- A root with a child, a case for the conditions. -/
def one_child : Hierarchy Nat := ((Hierarchy.start fun _ => false).insert_replicate 1).attach 2 1

/-- Children with larger numbers than their parents, up to a bound. -/
private theorem isForest_of_lt {self : Hierarchy Nat} (bound : Nat)
    (grows : ∀ parent, ∀ child ∈ self.children parent, parent < child ∧ child ≤ bound) :
    self.IsForest := by
  refine Subrelation.wf (fun {child parent} mem => ?_) (measure fun e => bound - e).wf
  have := grows parent child mem
  exact show bound - child < bound - parent by omega

private theorem one_child_children {parent child : Nat} (mem : child ∈ one_child.children parent) :
    parent = 1 ∧ child = 2 := by
  by_cases same : parent = 1
  · simpa [one_child,Hierarchy.attach,Hierarchy.detach,Hierarchy.insert_replicate,Hierarchy.start,same] using mem
  · simp [one_child,Hierarchy.attach,Hierarchy.detach,Hierarchy.insert_replicate,Hierarchy.start,same] at mem

private theorem one_child_reached :
    Runs.Reaches Hierarchy.step (fun _ _ after => after.IsForest) (Hierarchy.start fun _ => false) one_child := by
  refine .step (.Attach 2 1) (.step (.InsertReplicate 1) .start rfl ?_) rfl ?_
  · exact isForest_of_lt 0 fun _ _ mem => (nomatch mem)
  · refine isForest_of_lt 2 fun parent child mem => ?_
    have := one_child_children mem
    omega

theorem hierarchy_propagated_child :
    ∃ fuel after, one_child.step (.Propagate [1] fuel) = some after ∧ after.Propagated := by
  have passes := hierarchy_propagated (fun _ => false) one_child one_child_reached
  have below {accept : Nat → Bool} {r x : Nat} (path : Relation.TransGen (Forest.Down one_child.children accept) r x) :
      r = 1 ∧ x = 2 := by
    induction path with
    | single down => exact one_child_children down.1
    | tail path down ih =>
      have := one_child_children down.1
      omega
  have inQuery (e : Nat) : e ∈ [1] ↔ one_child.in_query e = true := by
    rw [List.mem_singleton]
    constructor
    · rintro rfl
      decide
    · intro isQuery
      simp only [Hierarchy.in_query,decide_eq_true_eq] at isQuery
      obtain ⟨child,mem⟩ := List.exists_mem_of_ne_nil _ isQuery.2.2.1
      exact (one_child_children mem).1
  have reaches : one_child.PassReaches := by
    rintro r x ⟨-,-,path⟩
    obtain ⟨rfl,rfl⟩ := below path
    exact ⟨.inr ⟨⟨1,(inQuery 1).mp (List.mem_singleton_self 1),rfl⟩,.single ⟨by decide,by decide⟩⟩,
      fun root isReached => (below isReached.2).1⟩
  obtain ⟨fuel,enough⟩ := passes.2.1 [1]
  obtain ⟨after,executed⟩ := Option.isSome_iff_exists.mp (enough fuel le_rfl)
  exact ⟨fuel,after,executed,passes.1.mpr reaches [1] fuel after (List.nodup_singleton 1) inQuery executed⟩

/-- After a pass, with a child of the child. -/
private def grandchild : Hierarchy Nat :=
  ({one_child with children_changed := fun _ => false,replicate_added := fun _ => false}.apply_commands [(2,1)]).attach
    3 2

private theorem grandchild_children {parent child : Nat} (mem : child ∈ grandchild.children parent) :
    parent = 1 ∧ child = 2 ∨ parent = 2 ∧ child = 3 := by
  by_cases isRoot : parent = 1
  · subst isRoot
    exact .inl (one_child_children mem)
  · by_cases isChild : parent = 2
    · subst isChild
      exact .inr ⟨rfl,List.mem_singleton.mp mem⟩
    · have same : grandchild.children parent = one_child.children parent := if_neg isChild
      exact .inl (one_child_children (same ▸ mem))

private theorem passed_reached :
    Runs.Reaches Hierarchy.step (fun _ _ after => after.IsForest) (Hierarchy.start fun _ => false)
    ({one_child with children_changed := fun _ => false,replicate_added := fun _ => false}.apply_commands [(2,1)]) := by
  refine .step (.Propagate [1] 9) one_child_reached rfl (isForest_of_lt 2 fun parent child mem => ?_)
  have := one_child_children mem
  omega

/-- A grandchild that comes after the first pass is never reached, since the child has a copy of the
`Replicate` by then; and nothing is cleaned up below a root that a pass has gone through. -/
theorem hierarchy_not_propagated :
    (∃ before after : Hierarchy Nat, Runs.Reaches Hierarchy.step (fun _ _ after => after.IsForest)
      (Hierarchy.start fun _ => false) before ∧
      (∀ e, e ∈ [2] ↔ before.in_query e = true) ∧ before.step (.Propagate [2] 9) = some after ∧ after.NearestRoot 1 3 ∧
      after.replicate_like 3 = none) ∧
    ∃ before after : Hierarchy Nat, Runs.Reaches Hierarchy.step (fun _ _ after => after.IsForest)
      (Hierarchy.start fun _ => false) before ∧
      before.replicate 1 = some .User ∧ before.step (.RemoveReplicate 1 9) = some after ∧ 2 ∈ after.children 1 ∧
      after.replicate_like 2 = some 1 ∧ after.replicate 2 = some (.Copied 1) := by
  constructor
  · refine ⟨grandchild,_,.step (.Attach 3 2) passed_reached rfl (isForest_of_lt 3 fun parent child mem => ?_),
      fun e => ?_,rfl,
      ⟨rfl,rfl,.tail (.single (show Forest.Down _ _ 1 2 from ⟨by decide,by decide⟩)) ⟨by decide,by decide⟩⟩,rfl⟩
    · have := grandchild_children mem
      omega
    · rw [List.mem_singleton]
      constructor
      · rintro rfl
        decide
      · intro isQuery
        simp only [Hierarchy.in_query,decide_eq_true_eq] at isQuery
        obtain ⟨child,mem⟩ := List.exists_mem_of_ne_nil _ isQuery.2.2.1
        rcases grandchild_children mem with ⟨rfl,-⟩ | ⟨rfl,-⟩
        · exact absurd isQuery (by decide)
        · rfl
  · exact ⟨_,_,passed_reached,rfl,rfl,List.mem_singleton_self 2,rfl,rfl⟩

end Lightyear.Replication
