import Lightyear.Greedy
import Lightyear.Maps
import Lightyear.Runs
import Lightyear.Sorted
import Lightyear.Snoc

/-!
The interpolation rules of `registry.rs` and their selection in `archetypes.rs`. For
every archetype each kind selects one of its rules, and of the selected rules those of
higher precedence claim their components first.
-/
namespace Lightyear.Interpolation
open Maps Runs Sorted

abbrev ComponentId := Nat

inductive StorageType where
  | Table | SparseSet
deriving DecidableEq

structure Archetype where
  components : List (ComponentId × StorageType)

def Archetype.contains (archetype : Archetype) (component_id : ComponentId) : Bool :=
  archetype.components.any (·.1 = component_id)

def Archetype.get_storage_type (archetype : Archetype) (component_id : ComponentId) : Option StorageType :=
  (archetype.components.find? (·.1 = component_id)).map Prod.snd

structure ErasedInterpolationFns (Fn : Type) where
  update_history : Option Fn
  apply_interpolation : Option Fn
  history_component_id : Option ComponentId
  live_component_id : Option ComponentId

/-- The components of a rule's filter are registered before the rule, so that the filter depends on the
archetype only. -/
structure InterpolationRule (Kind Component Fn : Type) where
  kind : Kind
  members : List Component
  priority : Nat
  fns : ErasedInterpolationFns Fn
  matches_archetype : Archetype → Bool

variable {Kind Component Fn : Type}

def InterpolationRule.owns_history (rule : InterpolationRule Kind Component Fn) : Bool :=
  rule.fns.update_history.isSome && rule.fns.history_component_id.isSome

def InterpolationRule.applies_component (rule : InterpolationRule Kind Component Fn) : Bool :=
  rule.fns.apply_interpolation.isSome

/-- A rule goes before another one: its priority is higher, or they are equal and it was registered earlier. -/
def Precedes (rules : List (InterpolationRule Kind Component Fn)) (a b : Nat) : Prop :=
  ∃ first second,rules[a]? = some first ∧ rules[b]? = some second ∧
    (second.priority < first.priority ∨ first.priority = second.priority ∧ a < b)

theorem Precedes.asymm (rules : List (InterpolationRule Kind Component Fn)) (a b : Nat) (before : Precedes rules a b) :
    ¬ Precedes rules b a := by
  obtain ⟨first,second,isFirst,isSecond,order⟩ := before
  rintro ⟨_,_,isSecond',isFirst',order'⟩
  cases isFirst.symm.trans isFirst'
  cases isSecond.symm.trans isSecond'
  omega

/-- Where a rule of a priority is inserted among others. -/
def insertion_point (rules : List (InterpolationRule Kind Component Fn)) (priority : Nat) (ids : List Nat) : Nat :=
  let higher_priority_count := partition_point (fun existing => (rules[existing]?).any (priority < ·.priority)) ids
  let equal_priority_count :=
    partition_point (fun existing => (rules[existing]?).any (·.priority = priority)) (ids.drop higher_priority_count)
  higher_priority_count + equal_priority_count

section
variable [DecidableEq Kind]

/-- `insert_rule_id_for_kind`, for a rule that is already in the list. -/
def insert_rule_id_for_kind (rules : List (InterpolationRule Kind Component Fn)) (rules_by_kind : Map Kind (List Nat))
    (rule : InterpolationRule Kind Component Fn) (rule_id : Nat) : Map Kind (List Nat) :=
  let ids := (rules_by_kind.lookup rule.kind).getD []
  insertBack rules_by_kind rule.kind (ids.insertIdx (insertion_point rules rule.priority ids) rule_id)

/-- Every kind lists its rules by precedence. -/
structure Indexed (rules : List (InterpolationRule Kind Component Fn)) (rules_by_kind : Map Kind (List Nat)) :
    Prop where
  ordered : ∀ kind ids,rules_by_kind.lookup kind = some ids → ids.Pairwise (Precedes rules)
  listed : ∀ kind id,(∃ ids,rules_by_kind.lookup kind = some ids ∧ id ∈ ids) ↔
    ∃ rule,rules[id]? = some rule ∧ rule.kind = kind

omit [DecidableEq Kind] in
/-- A new rule goes behind those of its priority and before those of a lower one. -/
private theorem insertion_split {rules : List (InterpolationRule Kind Component Fn)} {ids : List Nat} (priority : Nat)
    (id : Nat) (ordered : ids.Pairwise (Precedes rules)) :
    ∃ low high,ids = low ++ high ∧ ids.insertIdx (insertion_point rules priority ids) id = low ++ id :: high ∧
      (∀ existing ∈ low,∀ rule,rules[existing]? = some rule → priority ≤ rule.priority) ∧
      ∀ existing ∈ high,∀ rule,rules[existing]? = some rule → rule.priority < priority := by
  let higher (existing : Nat) : Bool := (rules[existing]?).any (priority < ·.priority)
  let equal (existing : Nat) : Bool := (rules[existing]?).any (·.priority = priority)
  have higher_closed (a b : Nat) (before : Precedes rules a b) (holds : higher b = true) : higher a = true := by
    obtain ⟨first,second,isFirst,isSecond,order⟩ := before
    simp only [higher,isFirst,isSecond,Option.any_some,decide_eq_true_eq] at holds ⊢
    omega
  obtain ⟨front,rest⟩ :=
    And.intro (take_partition_point ordered higher_closed) (drop_partition_point ordered higher_closed)
  have equal_closed (a b : Nat) (before : higher a = false ∧ Precedes rules a b) (holds : equal b = true) :
      equal a = true := by
    obtain ⟨notHigher,first,second,isFirst,isSecond,order⟩ := before
    simp only [higher,equal,isFirst,isSecond,Option.any_some,decide_eq_true_eq,
      decide_eq_false_iff_not] at notHigher holds ⊢
    omega
  have later : (ids.filter (!higher ·)).Pairwise fun a b => higher a = false ∧ Precedes rules a b :=
    (ordered.filter (!higher ·)).imp_of_mem fun member _ before => ⟨by simpa using (List.mem_filter.mp member).2,before⟩
  have middle := take_partition_point later equal_closed
  have back := drop_partition_point later equal_closed
  let low := ids.filter higher ++ (ids.filter (!higher ·)).filter equal
  let high := (ids.filter (!higher ·)).filter (!equal ·)
  have parts : ids = low ++ high := by
    rw [List.append_assoc,← middle,show high = _ from back.symm,List.take_append_drop,← front,← rest,
      List.take_append_drop]
  have count : insertion_point rules priority ids = low.length := by
    rw [List.length_append,← middle,← front,List.length_take_of_le (partition_point_le _ _),
      List.length_take_of_le (partition_point_le _ _),← rest]
    rfl
  refine ⟨low,high,parts,?_,?_,?_⟩
  · calc ids.insertIdx (insertion_point rules priority ids) id
      _ = (low ++ high).insertIdx low.length id := by rw [count,← parts]
      _ = low ++ id :: high := Sorted.insertIdx_append low high id
  · intro existing member rule isRule
    rcases List.mem_append.mp member with first | second
    · have holds := (List.mem_filter.mp first).2
      simp only [higher,isRule,Option.any_some,decide_eq_true_eq] at holds
      exact holds.le
    · have holds := (List.mem_filter.mp second).2
      simp only [equal,isRule,Option.any_some,decide_eq_true_eq] at holds
      exact holds.ge
  · intro existing member rule isRule
    obtain ⟨inner,notEqual⟩ := List.mem_filter.mp member
    have notHigher := (List.mem_filter.mp inner).2
    simp only [higher,equal,isRule,Option.any_some,Bool.not_eq_true',decide_eq_false_iff_not] at notHigher notEqual
    omega

omit [DecidableEq Kind] in
/-- Rules that are registered later do not change the order of the others. -/
theorem Precedes.append {rules : List (InterpolationRule Kind Component Fn)} {a b : Nat} (before : Precedes rules a b)
    (rule : InterpolationRule Kind Component Fn) : Precedes (rules ++ [rule]) a b := by
  obtain ⟨first,second,isFirst,isSecond,order⟩ := before
  exact ⟨first,second,Snoc.getElem?_snoc_old isFirst,Snoc.getElem?_snoc_old isSecond,order⟩

theorem Indexed.insert {rules : List (InterpolationRule Kind Component Fn)} {rules_by_kind : Map Kind (List Nat)}
    (indexed : Indexed rules rules_by_kind) (rule : InterpolationRule Kind Component Fn) :
    Indexed (rules ++ [rule]) (insert_rule_id_for_kind (rules ++ [rule]) rules_by_kind rule rules.length) := by
  have last : (rules ++ [rule])[rules.length]? = some rule := by simp
  have known (id : Nat) : id ∈ (rules_by_kind.lookup rule.kind).getD [] ↔
      ∃ stored,rules[id]? = some stored ∧ stored.kind = rule.kind := by
    rw [← indexed.listed]
    cases rules_by_kind.lookup rule.kind <;> simp
  have ordered : ((rules_by_kind.lookup rule.kind).getD []).Pairwise (Precedes (rules ++ [rule])) := by
    cases found : rules_by_kind.lookup rule.kind with
    | none => exact List.Pairwise.nil
    | some ids => exact (indexed.ordered _ ids found).imp (·.append rule)
  obtain ⟨low,high,parts,inserted,above,below⟩ := insertion_split rule.priority rules.length ordered
  have grown (id : Nat) (member : id ∈ low ++ high) :
      id < rules.length ∧ ∃ stored,(rules ++ [rule])[id]? = some stored := by
    obtain ⟨stored,isStored,-⟩ := (known id).mp (parts ▸ member)
    exact ⟨(List.getElem?_eq_some_iff.mp isStored).1,stored,Snoc.getElem?_snoc_old isStored⟩
  have lookup (kind : Kind) : (insert_rule_id_for_kind (rules ++ [rule]) rules_by_kind rule rules.length).lookup kind =
      if kind = rule.kind then some (low ++ rules.length :: high) else rules_by_kind.lookup kind := by
    rw [insert_rule_id_for_kind,lookup_insertBack,inserted]
  constructor
  · intro kind ids isIds
    rw [lookup] at isIds
    split at isIds
    · cases isIds
      rw [parts] at ordered
      obtain ⟨front,back,across⟩ := List.pairwise_append.mp ordered
      refine List.pairwise_append.mpr ⟨front,List.pairwise_cons.mpr ⟨fun id member => ?_,back⟩,
        fun id member other isOther => ?_⟩
      · obtain ⟨-,stored,isStored⟩ := grown id (List.mem_append_right low member)
        exact ⟨rule,stored,last,isStored,.inl (below id member stored isStored)⟩
      · rcases List.mem_cons.mp isOther with rfl | beyond
        · obtain ⟨inside,stored,isStored⟩ := grown id (List.mem_append_left high member)
          have least := above id member stored isStored
          exact ⟨stored,rule,isStored,last,by omega⟩
        · exact across id member other beyond
    · exact (indexed.ordered kind ids isIds).imp (·.append rule)
  · intro kind id
    simp only [lookup,Snoc.getElem?_snoc]
    split
    next same =>
      subst same
      have members : id ∈ low ++ rules.length :: high ↔ id = rules.length ∨ ∃ stored,rules[id]? = some stored ∧
          stored.kind = rule.kind := by
        rw [← known,parts]
        simp only [List.mem_append,List.mem_cons]
        tauto
      simp only [Option.some.injEq,exists_eq_left',members]
      constructor
      · rintro (isLast | ⟨stored,isStored,sameKind⟩)
        · exact ⟨rule,.inr ⟨isLast,rfl⟩,rfl⟩
        · exact ⟨stored,.inl isStored,sameKind⟩
      · rintro ⟨stored,isStored | ⟨isLast,-⟩,sameKind⟩
        · exact .inr ⟨stored,isStored,sameKind⟩
        · exact .inl isLast
    next other =>
      rw [indexed.listed]
      refine exists_congr fun stored => and_congr_left fun sameKind => (or_iff_left fun isLast => other ?_).symm
      rw [← sameKind,isLast.2]

variable (Kind Component Fn) in
structure InterpolationRegistry where
  rules : List (InterpolationRule Kind Component Fn)
  rules_by_kind : Map Kind (List Nat)
  finalized : Bool
  indexed : Indexed rules rules_by_kind

namespace InterpolationRegistry

def default : InterpolationRegistry Kind Component Fn where
  rules := []
  rules_by_kind := ∅
  finalized := false
  indexed := ⟨fun _ _ none => by simp at none,fun _ _ => by simp⟩

/-- What the registrations of component and bundle rules share. A finalized registry panics. -/
def push_rule (self : InterpolationRegistry Kind Component Fn) (rule : InterpolationRule Kind Component Fn) :
    Option (InterpolationRegistry Kind Component Fn) :=
  if self.finalized then none
  else some {
    rules := self.rules ++ [rule]
    rules_by_kind := insert_rule_id_for_kind (self.rules ++ [rule]) self.rules_by_kind rule self.rules.length
    finalized := false
    indexed := self.indexed.insert rule }

def insert_rule (self : InterpolationRegistry Kind Component Fn) (kind : Kind) (member : Component) (priority : Nat)
    (fns : ErasedInterpolationFns Fn) (filter : Archetype → Bool) : Option (InterpolationRegistry Kind Component Fn) :=
  self.push_rule ⟨kind,[member],priority,fns,filter⟩

def insert_bundle_rule (self : InterpolationRegistry Kind Component Fn) (kind : Kind) (members : List Component)
    (priority : Nat) (apply_interpolation : Option Fn) (filter : Archetype → Bool) :
    Option (InterpolationRegistry Kind Component Fn) :=
  self.push_rule ⟨kind,members,priority,⟨none,apply_interpolation,none,none⟩,filter⟩

def finalize (self : InterpolationRegistry Kind Component Fn) : InterpolationRegistry Kind Component Fn :=
  { self with finalized := true }

def rule_kinds (self : InterpolationRegistry Kind Component Fn) : List Kind := self.rules_by_kind.keys

def rule (self : InterpolationRegistry Kind Component Fn) (rule_id : Nat) :
    Option (InterpolationRule Kind Component Fn) :=
  self.rules[rule_id]?

def rule_count (self : InterpolationRegistry Kind Component Fn) : Nat := self.rules.length

def cmp_rule_precedence (self : InterpolationRegistry Kind Component Fn) : Nat → Nat → Ordering :=
  compareLex (fun lhs rhs => compare ((self.rule rhs).map (·.priority)) ((self.rule lhs).map (·.priority))) compare

def select_rule_for_archetype (self : InterpolationRegistry Kind Component Fn) (archetype : Archetype) (kind : Kind) :
    Option Nat := do
  let ids ← self.rules_by_kind.lookup kind
  ids.find? fun rule_id => (self.rules[rule_id]?).any (·.matches_archetype archetype)

end InterpolationRegistry

variable (Component Fn) in
structure CachedInterpolationComponent where
  kind : Component
  history_component_id : ComponentId
  history_storage : StorageType
  live_component_present : Bool
  rule_id : Nat
  update_history : Fn

variable (Fn) in
structure CachedInterpolationApply where
  rule_id : Nat
  apply_interpolation : Fn

def InterpolationRegistry.cached_history_update_component (self : InterpolationRegistry Kind Component Fn)
    (archetype : Archetype) (rule_id : Nat) : Option (CachedInterpolationComponent Component Fn) := do
  let rule ← self.rule rule_id
  if !rule.owns_history then none
  else
    let kind ← rule.members.head?
    let history_component_id ← rule.fns.history_component_id
    if !archetype.contains history_component_id then none
    else
      let history_storage ← archetype.get_storage_type history_component_id
      let live_component_present := rule.fns.live_component_id.any archetype.contains
      let update_history ← rule.fns.update_history
      some ⟨kind,history_component_id,history_storage,live_component_present,rule_id,update_history⟩

def InterpolationRegistry.cached_apply_component (self : InterpolationRegistry Kind Component Fn) (rule_id : Nat) :
    Option (CachedInterpolationApply Fn) := do
  let rule ← self.rule rule_id
  if !rule.applies_component then none
  else
    let apply_interpolation ← rule.fns.apply_interpolation
    some ⟨rule_id,apply_interpolation⟩

/-! ### The cache of an archetype -/

variable (Kind Component Fn) in
structure CachedInterpolatedArchetype where
  id : Nat
  selected_rules : Map Kind Nat
  history_update_components : List (CachedInterpolationComponent Component Fn)
  apply_rules : List (CachedInterpolationApply Fn)

namespace CachedInterpolatedArchetype

def new (id : Nat) : CachedInterpolatedArchetype Kind Component Fn := ⟨id,∅,[],[]⟩

/-- The body of the loop over the kinds of the rules. -/
def select_kind (registry : InterpolationRegistry Kind Component Fn) (archetype : Archetype)
    (self : CachedInterpolatedArchetype Kind Component Fn) (kind : Kind) :
    CachedInterpolatedArchetype Kind Component Fn :=
  match registry.select_rule_for_archetype archetype kind with
  | none => self
  | some rule_id =>
    { self with
      selected_rules := self.selected_rules.insert kind rule_id
      history_update_components :=
        self.history_update_components ++ (registry.cached_history_update_component archetype rule_id).toList }

variable [DecidableEq Component]

/-- The body of the loop over the candidates, on the claimed members and the rules that apply. -/
def claim (registry : InterpolationRegistry Kind Component Fn)
    (state : List Component × List (CachedInterpolationApply Fn))
    (rule_id : Nat) : List Component × List (CachedInterpolationApply Fn) :=
  match registry.rule rule_id with
  | none => state
  | some rule =>
    if rule.members.any (state.1.contains ·) then state
    else (state.1 ++ rule.members,state.2 ++ (registry.cached_apply_component rule_id).toList)

end CachedInterpolatedArchetype

variable (Kind) in
/-- An order in which the entries of a hash map are visited. -/
structure HashOrder where
  iter : Map Kind Nat → List (Kind × Nat)
  perm : ∀ map,(iter map).Perm (map.entries.map fun entry => (entry.1,entry.2))

/-- The rule ids of the candidates, by precedence. -/
def candidates (registry : InterpolationRegistry Kind Component Fn) (selected_rules : List (Kind × Nat)) : List Nat :=
  ((selected_rules.filterMap fun entry => (registry.rule entry.2).map fun _ => entry).mergeSort
    fun lhs rhs => (registry.cmp_rule_precedence lhs.2 rhs.2).isLE).map Prod.snd

section
variable [DecidableEq Component]

def CachedInterpolatedArchetype.resolve_apply_rules (self : CachedInterpolatedArchetype Kind Component Fn)
    (registry : InterpolationRegistry Kind Component Fn) (order : HashOrder Kind) :
    CachedInterpolatedArchetype Kind Component Fn :=
  { self with
    apply_rules := ((candidates registry (order.iter self.selected_rules)).foldl
      (CachedInterpolatedArchetype.claim registry) ([],[])).2 }

/-- One round of `update`. -/
def CachedInterpolatedArchetype.build (registry : InterpolationRegistry Kind Component Fn) (order : HashOrder Kind)
    (archetype : Archetype) (id : Nat) : CachedInterpolatedArchetype Kind Component Fn :=
  (registry.rule_kinds.foldl (select_kind registry archetype) (.new id)).resolve_apply_rules registry order

variable (Kind Component Fn) in
structure InterpolatedArchetypes where
  generation : Nat
  rule_count : Nat
  interpolated_component_id : ComponentId
  archetypes : List (CachedInterpolatedArchetype Kind Component Fn)

namespace InterpolatedArchetypes

def new (interpolated_component_id : ComponentId) : InterpolatedArchetypes Kind Component Fn :=
  ⟨0,0,interpolated_component_id,[]⟩

def clear (self : InterpolatedArchetypes Kind Component Fn) : InterpolatedArchetypes Kind Component Fn :=
  { self with generation := 0, archetypes := [] }

/-- The generation of archetypes is their number. -/
def update (self : InterpolatedArchetypes Kind Component Fn) (archetypes : List Archetype)
    (registry : InterpolationRegistry Kind Component Fn) (order : HashOrder Kind) :
    InterpolatedArchetypes Kind Component Fn :=
  let rule_count := registry.rule_count
  let self := if self.rule_count ≠ rule_count then { self.clear with rule_count := rule_count } else self
  let created := ((archetypes.zipIdx).drop self.generation).filter fun entry =>
    entry.1.contains self.interpolated_component_id
  { self with
    generation := archetypes.length
    archetypes := self.archetypes ++ created.map fun entry => .build registry order entry.1 entry.2 }

end InterpolatedArchetypes

variable (Kind Component Fn) in
structure World where
  registry : InterpolationRegistry Kind Component Fn
  archetypes : List Archetype
  cache : InterpolatedArchetypes Kind Component Fn

variable (Kind Component Fn) in
inductive RuleEvent where
  | insert_rule (kind : Kind) (member : Component) (priority : Nat) (fns : ErasedInterpolationFns Fn)
      (filter : Archetype → Bool)
  | insert_bundle_rule (kind : Kind) (members : List Component) (priority : Nat) (apply_interpolation : Option Fn)
      (filter : Archetype → Bool)
  | finalize
  | archetype (archetype : Archetype)
  | update (order : HashOrder Kind)

def World.step (world : World Kind Component Fn) : RuleEvent Kind Component Fn → Option (World Kind Component Fn)
  | .insert_rule kind member priority fns filter =>
    (world.registry.insert_rule kind member priority fns filter).map fun registry => { world with registry := registry }
  | .insert_bundle_rule kind members priority apply_interpolation filter =>
    (world.registry.insert_bundle_rule kind members priority apply_interpolation filter).map fun registry =>
      { world with registry := registry }
  | .finalize => some { world with registry := world.registry.finalize }
  | .archetype archetype => some { world with archetypes := world.archetypes ++ [archetype] }
  | .update order => some { world with cache := world.cache.update world.archetypes world.registry order }

end

/-- A rule of a kind whose filter matches an archetype. -/
def Matching (registry : InterpolationRegistry Kind Component Fn) (archetype : Archetype) (kind : Kind)
    (id : Nat) : Prop :=
  ∃ rule,registry.rule id = some rule ∧ rule.kind = kind ∧ rule.matches_archetype archetype = true

/-- Of the matching rules of a kind that of the highest priority, the earliest one among equals. -/
def Winner (registry : InterpolationRegistry Kind Component Fn) (archetype : Archetype) (kind : Kind)
    (id : Nat) : Prop :=
  Matching registry archetype kind id ∧
    ∀ other,Matching registry archetype kind other → other ≠ id → Precedes registry.rules id other

section
variable {registry : InterpolationRegistry Kind Component Fn} {archetype : Archetype} {kind : Kind} {id : Nat}

private theorem matching_iff :
    Matching registry archetype kind id ↔ ∃ ids,registry.rules_by_kind.lookup kind = some ids ∧
    id ∈ ids ∧ (registry.rules[id]?).any (·.matches_archetype archetype) = true := by
  have listed := registry.indexed.listed kind id
  constructor
  · rintro ⟨rule,isRule,sameKind,holds⟩
    obtain ⟨ids,isIds,member⟩ := listed.mpr ⟨rule,isRule,sameKind⟩
    exact ⟨ids,isIds,member,by simpa [show registry.rules[id]? = some rule from isRule] using holds⟩
  · rintro ⟨ids,isIds,member,holds⟩
    obtain ⟨rule,isRule,sameKind⟩ := listed.mp ⟨ids,isIds,member⟩
    exact ⟨rule,isRule,sameKind,by simpa [isRule] using holds⟩

private theorem winner_of_select (selected : registry.select_rule_for_archetype archetype kind = some id) :
    Winner registry archetype kind id := by
  obtain ⟨ids,isIds,found⟩ := Option.bind_eq_some_iff.mp selected
  obtain ⟨holds,front,back,parts,fails⟩ := List.find?_eq_some_iff_append.mp found
  refine ⟨matching_iff.mpr ⟨ids,isIds,by simp [parts],holds⟩,fun other matching distinct => ?_⟩
  obtain ⟨ids',isIds',member,passes⟩ := matching_iff.mp matching
  cases isIds.symm.trans isIds'
  rw [parts] at member
  have ordered := parts ▸ registry.indexed.ordered kind ids isIds
  rcases List.mem_append.mp member with before | after
  · simpa [passes] using fails other before
  · rcases List.mem_cons.mp after with same | beyond
    · exact absurd same distinct
    · exact (List.pairwise_cons.mp (List.pairwise_append.mp ordered).2.1).1 other beyond

theorem select_eq_none : registry.select_rule_for_archetype archetype kind = none ↔
    ∀ id,¬ Matching registry archetype kind id := by
  rw [InterpolationRegistry.select_rule_for_archetype]
  cases isIds : registry.rules_by_kind.lookup kind with
  | none => simp [matching_iff,isIds]
  | some ids => simp [matching_iff,isIds]

theorem select_eq_some :
    registry.select_rule_for_archetype archetype kind = some id ↔ Winner registry archetype kind id := by
  refine ⟨winner_of_select,fun winner => ?_⟩
  cases selected : registry.select_rule_for_archetype archetype kind with
  | none => exact absurd winner.1 (select_eq_none.mp selected id)
  | some other =>
    have beats := winner_of_select selected
    by_contra distinct
    have distinct : other ≠ id := fun same => distinct (congrArg some same)
    exact Precedes.asymm _ _ _ (winner.2 other beats.1 distinct) (beats.2 id winner.1 distinct.symm)

end

private theorem select_kind_lookup (registry : InterpolationRegistry Kind Component Fn) (archetype : Archetype)
    (cached : CachedInterpolatedArchetype Kind Component Fn) (kind other : Kind) :
    (cached.select_kind registry archetype kind).selected_rules.lookup other =
      if other = kind then (registry.select_rule_for_archetype archetype kind).or (cached.selected_rules.lookup other)
      else cached.selected_rules.lookup other := by
  unfold CachedInterpolatedArchetype.select_kind
  cases registry.select_rule_for_archetype archetype kind with
  | none => simp
  | some id =>
    rw [lookup_insert_ite]
    split <;> simp

private theorem select_kinds_lookup (registry : InterpolationRegistry Kind Component Fn) (archetype : Archetype)
    (kinds : List Kind) (cached : CachedInterpolatedArchetype Kind Component Fn) (kind : Kind) :
    (kinds.foldl (CachedInterpolatedArchetype.select_kind registry archetype) cached).selected_rules.lookup kind =
      if kind ∈ kinds then (registry.select_rule_for_archetype archetype kind).or (cached.selected_rules.lookup kind)
      else cached.selected_rules.lookup kind := by
  induction kinds generalizing cached with
  | nil => simp
  | cons first kinds ih =>
    rw [List.foldl_cons,ih,select_kind_lookup]
    by_cases isFirst : kind = first
    · subst isFirst
      cases registry.select_rule_for_archetype archetype kind <;> simp
    · simp [isFirst]

/-- The selected rules are those that the registry selects for its kinds. -/
theorem selected_lookup (registry : InterpolationRegistry Kind Component Fn) (archetype : Archetype) (id : Nat)
    (kind : Kind) :
    (registry.rule_kinds.foldl (CachedInterpolatedArchetype.select_kind registry archetype)
      (.new id)).selected_rules.lookup kind =
      registry.select_rule_for_archetype archetype kind := by
  rw [select_kinds_lookup]
  have empty :
      (CachedInterpolatedArchetype.new id : CachedInterpolatedArchetype Kind Component Fn).selected_rules.lookup kind =
        none :=
    AList.lookup_empty kind
  rw [empty,Option.or_none]
  split
  · rfl
  next absent =>
    have unlisted : registry.rules_by_kind.lookup kind = none := AList.lookup_eq_none.mpr absent
    rw [InterpolationRegistry.select_rule_for_archetype,unlisted]
    rfl

/-! ### Precedence -/

section
variable (registry : InterpolationRegistry Kind Component Fn)

private theorem cmp_trans : Std.TransCmp registry.cmp_rule_precedence := by
  have ascending : Std.TransCmp (compareOn fun id => (registry.rule id).map (·.priority)) := inferInstance
  have descending : Std.TransCmp fun lhs rhs =>
      compare ((registry.rule rhs).map (·.priority)) ((registry.rule lhs).map (·.priority)) :=
    @Std.TransCmp.opposite _ _ ascending
  exact @Std.instTransCmpCompareLex _ _ _ descending inferInstance

private theorem cmp_antisymm {a b : Nat} (le : (registry.cmp_rule_precedence a b).isLE)
    (ge : (registry.cmp_rule_precedence b a).isLE) : a = b := by
  have := cmp_trans registry
  have same : registry.cmp_rule_precedence a b = .eq := Std.OrientedCmp.isLE_antisymm le ge
  rw [InterpolationRegistry.cmp_rule_precedence,compareLex_eq_eq] at same
  exact Nat.compare_eq_eq.mp same.2

/-- Of two rules that exist one goes before the other by their comparison. -/
private theorem precedes_of_cmp {a b : Nat} {first second : InterpolationRule Kind Component Fn}
    (isFirst : registry.rule a = some first) (isSecond : registry.rule b = some second)
    (le : (registry.cmp_rule_precedence a b).isLE) (distinct : a ≠ b) : Precedes registry.rules a b := by
  refine ⟨first,second,isFirst,isSecond,?_⟩
  rw [InterpolationRegistry.cmp_rule_precedence,compareLex,isFirst,isSecond] at le
  have options : compare (some second.priority) (some first.priority) = compare second.priority first.priority := rfl
  simp only [Option.map_some,options] at le
  rcases lt_trichotomy second.priority first.priority with less | same | more
  · exact .inl less
  · rw [Nat.compare_eq_eq.mpr same,Ordering.eq_then,Nat.isLE_compare] at le
    exact .inr ⟨same.symm,lt_of_le_of_ne le distinct⟩
  · rw [Nat.compare_eq_gt.mpr more,Ordering.gt_then] at le
    cases le

theorem mem_candidates (selected_rules : List (Kind × Nat)) (id : Nat) :
    id ∈ candidates registry selected_rules ↔
      (∃ kind,(kind,id) ∈ selected_rules) ∧ ∃ rule,registry.rule id = some rule := by
  simp only [candidates,List.mem_map,List.mem_mergeSort,List.mem_filterMap,Prod.exists]
  constructor
  · rintro ⟨kind,_,⟨kind',id',selected,isEntry⟩,rfl⟩
    obtain ⟨rule,isRule,same⟩ := Option.map_eq_some_iff.mp isEntry
    cases same
    exact ⟨⟨kind,selected⟩,rule,isRule⟩
  · rintro ⟨⟨kind,selected⟩,rule,isRule⟩
    exact ⟨kind,id,⟨kind,id,selected,by rw [isRule]; rfl⟩,rfl⟩

private theorem candidates_sorted (selected_rules : List (Kind × Nat)) :
    (candidates registry selected_rules).Pairwise fun a b => (registry.cmp_rule_precedence a b).isLE := by
  have := cmp_trans registry
  refine List.pairwise_map.mpr (List.pairwise_mergeSort (fun a b c => Std.TransCmp.isLE_trans) (fun a b => ?_) _)
  rw [@Std.OrientedCmp.eq_swap _ registry.cmp_rule_precedence _ b.2 a.2]
  cases registry.cmp_rule_precedence a.2 b.2 <;> rfl

/-- The candidates do not depend on the order in which the selected rules are visited. -/
theorem candidates_perm {selected other : List (Kind × Nat)} (perm : selected.Perm other) :
    candidates registry selected = candidates registry other := by
  refine List.Perm.eq_of_pairwise (fun _ _ _ _ => cmp_antisymm registry) (candidates_sorted registry selected)
    (candidates_sorted registry other) ?_
  exact (((List.mergeSort_perm _ _).trans (perm.filterMap _)).trans (List.mergeSort_perm _ _).symm).map Prod.snd

/-- Rules that are selected for different kinds are different rules. -/
theorem candidates_precedes {selected_rules : List (Kind × Nat)} (keys : (selected_rules.map Prod.fst).Nodup)
    (kinds : ∀ kind id,(kind,id) ∈ selected_rules → ∃ rule,registry.rule id = some rule ∧ rule.kind = kind) :
    (candidates registry selected_rules).Pairwise (Precedes registry.rules) := by
  have whole : selected_rules.filterMap (fun entry => (registry.rule entry.2).map fun _ => entry) = selected_rules := by
    refine (List.filterMap_congr fun entry member => ?_).trans List.filterMap_some
    obtain ⟨rule,isRule,-⟩ := kinds entry.1 entry.2 member
    rw [isRule]
    rfl
  have ids : (selected_rules.map Prod.snd).Nodup := by
    refine List.pairwise_map.mpr ((List.pairwise_map.mp keys).imp_of_mem fun {a b} isA isB distinct same => distinct ?_)
    obtain ⟨rule,isRule,kind⟩ := kinds a.1 a.2 isA
    obtain ⟨rule',isRule',kind'⟩ := kinds b.1 b.2 isB
    cases isRule.symm.trans (same ▸ isRule')
    exact kind.symm.trans kind'
  have nodup : (candidates registry selected_rules).Nodup := by
    rw [candidates,whole]
    exact ((List.mergeSort_perm _ _).map Prod.snd).nodup_iff.mpr ids
  refine ((candidates_sorted registry selected_rules).and nodup).imp_of_mem fun {a b} isA isB ⟨le,distinct⟩ => ?_
  obtain ⟨-,first,isFirst⟩ := (mem_candidates registry selected_rules a).mp isA
  obtain ⟨-,second,isSecond⟩ := (mem_candidates registry selected_rules b).mp isB
  exact precedes_of_cmp registry isFirst isSecond le distinct

end

def InterpolationRegistry.members_of (self : InterpolationRegistry Kind Component Fn) (rule_id : Nat) :
    List Component :=
  ((self.rule rule_id).map (·.members)).getD []

section
variable [DecidableEq Component] (registry : InterpolationRegistry Kind Component Fn)

def overlaps (a b : Nat) : Bool := (registry.members_of b).any ((registry.members_of a).contains ·)

private theorem overlaps_iff (a b : Nat) : overlaps registry a b = true ↔
    ∃ member ∈ registry.members_of a,member ∈ registry.members_of b := by
  simp only [overlaps,List.any_eq_true,List.contains_iff_mem]
  exact exists_congr fun _ => and_comm

/-- The rules that claim their members are those that a greedy choice by precedence keeps. -/
theorem claims_eq {ids : List Nat} (stored : ∀ id ∈ ids,∃ rule,registry.rule id = some rule) :
    ids.foldl (CachedInterpolatedArchetype.claim registry) ([],[]) =
      ((Greedy.kept (overlaps registry) ids).flatMap registry.members_of,
        (Greedy.kept (overlaps registry) ids).filterMap registry.cached_apply_component) := by
  induction ids using List.reverseRecOn with
  | nil => rfl
  | append_singleton ids id ih =>
    obtain ⟨rule,isRule⟩ := stored id (by simp)
    have members : registry.members_of id = rule.members := by rw [InterpolationRegistry.members_of,isRule]; rfl
    have conflict : (rule.members.any fun member =>
        ((Greedy.kept (overlaps registry) ids).flatMap registry.members_of).contains member) =
          (Greedy.kept (overlaps registry) ids).any (overlaps registry · id) := by
      rw [Bool.eq_iff_iff,List.any_eq_true,List.any_eq_true]
      simp only [overlaps_iff,members,List.contains_iff_mem,List.mem_flatMap]
      tauto
    rw [List.foldl_append,ih fun other member => stored other (List.mem_append_left _ member),Greedy.kept_snoc,
      Greedy.keep]
    simp only [List.foldl_cons,List.foldl_nil,CachedInterpolatedArchetype.claim,isRule,conflict]
    split
    · rfl
    · simp only [List.flatMap_append,List.filterMap_append,List.flatMap_singleton,members]
      cases applies : registry.cached_apply_component id <;> simp [applies]

end

/-- What the cache of an archetype holds. -/
structure Resolved [DecidableEq Component] (registry : InterpolationRegistry Kind Component Fn) (archetype : Archetype)
    (cached : CachedInterpolatedArchetype Kind Component Fn) : Prop where
  selected : ∀ kind id,cached.selected_rules.lookup kind = some id ↔ Winner registry archetype kind id
  unselected : ∀ kind,cached.selected_rules.lookup kind = none ↔ ∀ id,¬ Matching registry archetype kind id
  /-- The rules that claim their members, and those that fail to. -/
  claims : ∃ claimants : List Nat,(∀ id ∈ claimants,∃ kind,cached.selected_rules.lookup kind = some id) ∧
    (∀ order : HashOrder Kind,((candidates registry (order.iter cached.selected_rules)).foldl
      (CachedInterpolatedArchetype.claim registry) ([],[])).1 = claimants.flatMap registry.members_of) ∧
    cached.apply_rules = claimants.filterMap registry.cached_apply_component ∧
    ∀ kind id,cached.selected_rules.lookup kind = some id →
      (id ∉ claimants ↔ ∃ other ∈ claimants,Precedes registry.rules other id ∧
        ∃ member ∈ registry.members_of other,member ∈ registry.members_of id)
  /-- No component is a member of two rules that apply. -/
  once : cached.apply_rules.Pairwise fun a b =>
    ∀ member ∈ registry.members_of a.rule_id,member ∉ registry.members_of b.rule_id

section
variable [DecidableEq Component] (registry : InterpolationRegistry Kind Component Fn) (archetype : Archetype)

omit [DecidableEq Component] in
private theorem cached_apply_id {registry : InterpolationRegistry Kind Component Fn} {rule_id : Nat}
    {apply : CachedInterpolationApply Fn} (isApply : registry.cached_apply_component rule_id = some apply) :
    apply.rule_id = rule_id := by
  obtain ⟨rule,-,isApply⟩ := Option.bind_eq_some_iff.mp isApply
  split at isApply
  · cases isApply
  · obtain ⟨apply_interpolation,-,isApply⟩ := Option.bind_eq_some_iff.mp isApply
    cases isApply
    rfl

omit [DecidableEq Component] in
/-- The entries that are visited are the selected rules, each of its own kind. -/
private theorem visited {registry : InterpolationRegistry Kind Component Fn} {archetype : Archetype}
    {selected_rules : Map Kind Nat}
    (selected : ∀ kind id,selected_rules.lookup kind = some id ↔ Winner registry archetype kind id)
    (order : HashOrder Kind) :
    (∀ id,id ∈ candidates registry (order.iter selected_rules) ↔ ∃ kind,selected_rules.lookup kind = some id) ∧
      (candidates registry (order.iter selected_rules)).Pairwise (Precedes registry.rules) := by
  have entry (kind : Kind) (id : Nat) :
      (kind,id) ∈ order.iter selected_rules ↔ selected_rules.lookup kind = some id := by
    rw [(order.perm selected_rules).mem_iff,lookup_eq_some_iff,List.mem_map]
    constructor
    · rintro ⟨⟨kind',id'⟩,member,same⟩
      cases same
      exact member
    · exact fun member => ⟨_,member,rfl⟩
  have kinds (kind : Kind) (id : Nat) (member : (kind,id) ∈ order.iter selected_rules) :
      ∃ rule,registry.rule id = some rule ∧ rule.kind = kind := by
    obtain ⟨rule,isRule,sameKind,-⟩ := ((selected kind id).mp ((entry kind id).mp member)).1
    exact ⟨rule,isRule,sameKind⟩
  have keys : ((order.iter selected_rules).map Prod.fst).Nodup := by
    refine ((order.perm selected_rules).map Prod.fst).nodup_iff.mpr ?_
    rw [List.map_map]
    exact selected_rules.nodupKeys
  refine ⟨fun id => ?_,candidates_precedes registry keys kinds⟩
  simp only [mem_candidates,entry]
  refine ⟨And.left,fun ⟨kind,isSelected⟩ => ⟨⟨kind,isSelected⟩,?_⟩⟩
  obtain ⟨rule,isRule,-⟩ := kinds kind id ((entry kind id).mpr isSelected)
  exact ⟨rule,isRule⟩

theorem build_resolved (order : HashOrder Kind) (id : Nat) :
    Resolved registry archetype (.build registry order archetype id) := by
  let selected_rules : Map Kind Nat :=
    (registry.rule_kinds.foldl (CachedInterpolatedArchetype.select_kind registry archetype) (.new id)).selected_rules
  have isSelected (kind : Kind) : selected_rules.lookup kind = registry.select_rule_for_archetype archetype kind :=
    selected_lookup registry archetype id kind
  have selected (kind : Kind) (rule_id : Nat) :
      selected_rules.lookup kind = some rule_id ↔ Winner registry archetype kind rule_id := by
    rw [isSelected,select_eq_some]
  obtain ⟨members,ordered⟩ := visited selected order
  have stored : ∀ rule_id ∈ candidates registry (order.iter selected_rules),∃ rule,registry.rule rule_id = some rule :=
    fun rule_id member => ((mem_candidates registry _ rule_id).mp member).2
  have claimed := claims_eq registry stored
  have applied : (CachedInterpolatedArchetype.build registry order archetype id).apply_rules =
      (Greedy.kept (overlaps registry) (candidates registry (order.iter selected_rules))).filterMap
        registry.cached_apply_component := congrArg Prod.snd claimed
  constructor
  · exact selected
  · intro kind
    exact (isSelected kind ▸ select_eq_none : selected_rules.lookup kind = none ↔ _)
  · refine ⟨Greedy.kept (overlaps registry) (candidates registry (order.iter selected_rules)),?_,?_,applied,?_⟩
    · exact fun rule_id member => (members rule_id).mp ((Greedy.kept_sublist _ _).subset member)
    · intro other
      have same := candidates_perm registry ((order.perm selected_rules).trans (other.perm selected_rules).symm)
      exact (congrArg (fun ids => (ids.foldl (CachedInterpolatedArchetype.claim registry) ([],[])).1) same.symm).trans
        (congrArg Prod.fst claimed)
    · intro kind rule_id isSelected
      rw [Greedy.not_mem_kept (overlaps registry) (Precedes.asymm registry.rules) ordered
        ((members rule_id).mpr ⟨kind,isSelected⟩)]
      simp only [overlaps_iff]
  · rw [applied]
    refine (Greedy.kept_pairwise (overlaps registry) _).filterMap
      _ fun a b free apply isApply other isOther member isMember shared => ?_
    rw [cached_apply_id isApply] at isMember
    rw [cached_apply_id isOther] at shared
    exact Bool.eq_false_iff.mp free ((overlaps_iff registry a b).mpr ⟨member,isMember,shared⟩)

omit [DecidableEq Component] in
private theorem select_kinds_id (kinds : List Kind) (cached : CachedInterpolatedArchetype Kind Component Fn) :
    (kinds.foldl (CachedInterpolatedArchetype.select_kind registry archetype) cached).id = cached.id := by
  induction kinds generalizing cached with
  | nil => rfl
  | cons first kinds ih =>
    rw [List.foldl_cons,ih,CachedInterpolatedArchetype.select_kind]
    split <;> rfl

theorem build_id (order : HashOrder Kind) (id : Nat) :
    (CachedInterpolatedArchetype.build registry order archetype id).id = id :=
  select_kinds_id registry archetype registry.rule_kinds (.new id)

theorem build_order (order other : HashOrder Kind) (id : Nat) :
    CachedInterpolatedArchetype.build registry order archetype id =
      CachedInterpolatedArchetype.build registry other archetype id := by
  unfold CachedInterpolatedArchetype.build CachedInterpolatedArchetype.resolve_apply_rules
  rw [candidates_perm registry ((order.perm _).trans (other.perm _).symm)]

end

/-! ### Runs -/

section
variable [DecidableEq Component]

/-- The cache that is built for some archetypes, one round for each that is interpolated. -/
def built (registry : InterpolationRegistry Kind Component Fn) (order : HashOrder Kind) (component_id : ComponentId)
    (archetypes : List (Archetype × Nat)) : List (CachedInterpolatedArchetype Kind Component Fn) :=
  (archetypes.filter fun entry => entry.1.contains component_id).map fun entry => .build registry order entry.1 entry.2

/-- The cache is behind the registry, or it holds what is built for the archetypes up to its generation. -/
structure World.Cached (world : World Kind Component Fn) (component_id : ComponentId) : Prop where
  interpolated : world.cache.interpolated_component_id = component_id
  generation : world.cache.generation ≤ world.archetypes.length
  rule_count : world.cache.rule_count ≤ world.registry.rule_count
  holds : world.cache.rule_count = world.registry.rule_count → ∀ order,
    world.cache.archetypes =
      built world.registry order component_id (world.archetypes.zipIdx.take world.cache.generation)

theorem World.Cached.update {world : World Kind Component Fn} {component_id : ComponentId}
    (cached : world.Cached component_id)
    (order other : HashOrder Kind) : world.cache.update world.archetypes world.registry order =
      ⟨world.archetypes.length,world.registry.rule_count,component_id,
        built world.registry other component_id world.archetypes.zipIdx⟩ := by
  have rounds (archetypes : List (Archetype × Nat)) :
      built world.registry order component_id archetypes = built world.registry other component_id archetypes :=
    List.map_congr_left fun entry _ => build_order world.registry entry.1 order other entry.2
  unfold InterpolatedArchetypes.update
  by_cases current : world.cache.rule_count = world.registry.rule_count
  · simp only [current,ne_eq,not_true_eq_false,↓reduceIte,cached.interpolated,InterpolatedArchetypes.mk.injEq,true_and]
    calc world.cache.archetypes ++
          built world.registry order component_id (world.archetypes.zipIdx.drop world.cache.generation)
        = built world.registry other component_id (world.archetypes.zipIdx.take world.cache.generation) ++
            built world.registry other component_id (world.archetypes.zipIdx.drop world.cache.generation) := by
          rw [cached.holds current other,rounds]
      _ = built world.registry other component_id world.archetypes.zipIdx := by
          rw [built,built,← List.map_append,← List.filter_append,List.take_append_drop,built]
  · simp only [current,ne_eq,not_false_eq_true,↓reduceIte,InterpolatedArchetypes.clear,cached.interpolated,
      InterpolatedArchetypes.mk.injEq,true_and,List.drop_zero,List.nil_append]
    exact rounds _

theorem World.Cached.push_rule {world : World Kind Component Fn} {component_id : ComponentId}
    (cached : world.Cached component_id)
    {rule : InterpolationRule Kind Component Fn} {registry : InterpolationRegistry Kind Component Fn}
    (pushed : world.registry.push_rule rule = some registry) :
    World.Cached { world with registry := registry } component_id := by
  have longer : registry.rule_count = world.registry.rule_count + 1 := by
    unfold InterpolationRegistry.push_rule at pushed
    split at pushed
    · cases pushed
    · cases pushed
      exact List.length_append
  have behind : world.cache.rule_count < registry.rule_count := by
    rw [longer]
    exact Nat.lt_succ_of_le cached.rule_count
  exact ⟨cached.interpolated,cached.generation,behind.le,fun current => absurd current behind.ne⟩

theorem World.Cached.step {world after : World Kind Component Fn} {component_id : ComponentId}
    {event : RuleEvent Kind Component Fn}
    (cached : world.Cached component_id) (executed : world.step event = some after) : after.Cached component_id := by
  cases event with
  | insert_rule kind member priority fns filter =>
    obtain ⟨registry,pushed,rfl⟩ := Option.map_eq_some_iff.mp executed
    exact cached.push_rule pushed
  | insert_bundle_rule kind members priority apply_interpolation filter =>
    obtain ⟨registry,pushed,rfl⟩ := Option.map_eq_some_iff.mp executed
    exact cached.push_rule pushed
  | finalize =>
    cases executed
    exact ⟨cached.interpolated,cached.generation,cached.rule_count,cached.holds⟩
  | archetype archetype =>
    cases executed
    refine ⟨cached.interpolated,cached.generation.trans (by simp),cached.rule_count,fun current order => ?_⟩
    rw [cached.holds current order,List.zipIdx_append,List.take_append_of_le_length (by simpa using cached.generation)]
  | update order =>
    cases executed
    have updated := cached.update order
    refine ⟨?_,?_,?_,fun _ other => ?_⟩
    · exact congrArg InterpolatedArchetypes.interpolated_component_id (updated order)
    · exact (congrArg InterpolatedArchetypes.generation (updated order)).le
    · exact (congrArg InterpolatedArchetypes.rule_count (updated order)).le
    · have whole : world.archetypes.zipIdx.take (world.cache.update world.archetypes world.registry order).generation =
          world.archetypes.zipIdx := by
        rw [updated order]
        exact List.take_of_length_le (by simp)
      exact (congrArg InterpolatedArchetypes.archetypes (updated other)).trans
        (congrArg (built world.registry other component_id) whole.symm)

/-- Nothing is registered and nothing is cached. -/
def World.new (component_id : ComponentId) : World Kind Component Fn := ⟨.default,[],.new component_id⟩

/-- After an update there is one cache entry for each interpolated archetype, it is resolved, and nothing of it depends
on the orders in which hash maps were visited. -/
theorem rules_resolved {component_id : ComponentId} {world : World Kind Component Fn}
    (reached : Reaches World.step (fun _ _ _ => True) (World.new component_id) world) (order : HashOrder Kind) :
    let after := (world.cache.update world.archetypes world.registry order).archetypes
    after.map (·.id) = (world.archetypes.zipIdx.filter fun entry => entry.1.contains component_id).map Prod.snd ∧
      (∀ cached ∈ after,∃ archetype,world.archetypes[cached.id]? = some archetype ∧
        Resolved world.registry archetype cached) ∧
      ∀ other,after = ((InterpolatedArchetypes.new component_id).update world.archetypes world.registry
        other).archetypes := by
  have cached : world.Cached component_id := by
    refine reached.invariant (·.Cached component_id) ⟨rfl,Nat.zero_le _,le_rfl,fun _ _ => rfl⟩ ?_
    exact fun _ _ _ cached executed _ => cached.step executed
  have start : (World.mk world.registry world.archetypes (.new component_id)).Cached component_id :=
    ⟨rfl,Nat.zero_le _,Nat.zero_le _,fun _ _ => rfl⟩
  intro after
  have isAfter (other : HashOrder Kind) : after = built world.registry other component_id world.archetypes.zipIdx :=
    congrArg InterpolatedArchetypes.archetypes (cached.update order other)
  refine ⟨?_,fun entry member => ?_,fun other => ?_⟩
  · rw [isAfter order,built,List.map_map]
    exact List.map_congr_left fun entry _ => build_id world.registry entry.1 order entry.2
  · rw [isAfter order] at member
    obtain ⟨⟨archetype,id⟩,stored,rfl⟩ := List.mem_map.mp member
    have isArchetype := List.mem_zipIdx_iff_getElem?.mp (List.mem_filter.mp stored).1
    exact ⟨archetype,by rw [build_id]; exact isArchetype,build_resolved world.registry archetype order id⟩
  · exact (isAfter other).trans (congrArg InterpolatedArchetypes.archetypes (start.update other other)).symm

end

end

/-- Two component rules and a bundle rule of higher priority, and two interpolated archetypes among three. -/
theorem rules_resolved_bundle :
    let order : HashOrder Nat := ⟨fun map => map.entries.map fun entry => (entry.1,entry.2),fun _ => List.Perm.refl _⟩
    ∃ world : World Nat Nat Unit,world.registry.rule_kinds = [0,1,2] ∧
      let after := (world.cache.update world.archetypes world.registry order).archetypes
      after.map (·.id) = [0,2] ∧
        ∀ cached ∈ after,∃ archetype,world.archetypes[cached.id]? = some archetype ∧
          Resolved world.registry archetype cached := by
  intro order
  let applies : ErasedInterpolationFns Unit := ⟨none,some (),none,none⟩
  obtain ⟨world,reached,holds⟩ := reaches_of_check World.step (fun _ _ _ => True) (World.new 9 : World Nat Nat Unit)
    (fun world => world.registry.rule_kinds = [0,1,2] ∧
      (world.archetypes.zipIdx.filter fun entry => entry.1.contains 9).map Prod.snd = [0,2])
    [.insert_rule 0 10 1 applies (·.contains 0),.insert_rule 1 11 1 applies (·.contains 1),
      .archetype ⟨[(9,.Table),(0,.Table),(1,.Table)]⟩,.update order,
      .insert_bundle_rule 2 [10,11] 2 (some ()) (fun archetype => archetype.contains 0 && archetype.contains 1),
      .archetype ⟨[(0,.Table)]⟩,.archetype ⟨[(9,.Table),(0,.Table)]⟩] (by decide +kernel)
  simp only [decide_eq_true_eq] at holds
  obtain ⟨ids,resolved,-⟩ := rules_resolved reached order
  exact ⟨world,holds.1,ids.trans holds.2,resolved⟩

end Lightyear.Interpolation
