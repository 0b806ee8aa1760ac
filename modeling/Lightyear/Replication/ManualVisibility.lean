import Lightyear.Replication.Visibility
import Mathlib.Logic.Relation

/-!
The visibility that the user sets, `visibility/immediate.rs`: three bits for one state, which is
set for an entity and for everything that is `ReplicateLike` it at the time of the call.
-/
namespace Lightyear.Replication

/-- The calls of `VisibilityExt`. -/
inductive VisibilityCall where
  | gain_visibility
  | lose_visibility
  | lose_visibility_retained
  | lose_visibility_always_present
deriving DecidableEq, Repr

def VisibilityCall.hidden_bit : VisibilityCall → Option FilterBit
  | .gain_visibility => none
  | .lose_visibility => some .WhileVisible
  | .lose_visibility_retained => some .AfterFirstVisibility
  | .lose_visibility_always_present => some .AlwaysPresent

/-- `VisibilityBits` -/
def VISIBILITY_BITS : List FilterBit := [.WhileVisible,.AfterFirstVisibility,.AlwaysPresent]

/-- The clients, the `ReplicateLike` relation in both directions and the bits; and the last call for each
root and client. -/
structure ManualWorld (E : Type) where
  has_client_visibility : E → Bool
  replicate_like : E → Option E
  replicate_like_children : E → List E
  visibility : Visibilities E
  last_call : E → E → VisibilityCall

inductive ManualEvent (E : Type) where
  | Set (call : VisibilityCall) (entity sender : E) (fuel : Nat)
  | Join (child root : E)

namespace ManualWorld
variable {E : Type} [DecidableEq E]

def start (clients : E → Bool) :
    ManualWorld E := ⟨clients,fun _ => none,fun _ => [],fun _ _ _ => true,fun _ _ => .gain_visibility⟩

/-- The bits of one entity. -/
def set_bits (visibility : Visibilities E) (entity sender : E) (hidden_bit : Option FilterBit) : Visibilities E :=
  let cleared := VISIBILITY_BITS.foldl (fun visibility bit => visibility.set sender entity bit true) visibility
  match hidden_bit with
  | some bit => cleared.set sender entity bit false
  | none => cleared

/-- None if the fuel runs out. -/
def set_visibility (self : ManualWorld E) : Nat → E → E → Option FilterBit → Visibilities E → Option (Visibilities E)
  | 0, _, _, _, _ => none
  | fuel + 1, entity, sender, hidden_bit, visibility =>
    let visibility := if self.has_client_visibility sender then set_bits visibility entity sender hidden_bit
      else visibility
    (self.replicate_like_children entity).foldlM
      (fun visibility child => self.set_visibility fuel child sender hidden_bit visibility) visibility

/-- A call on a replication root. -/
def call (self : ManualWorld E) (call : VisibilityCall) (entity sender : E) (fuel : Nat) : Option (ManualWorld E) :=
  if self.replicate_like entity = none then
    (self.set_visibility fuel entity sender call.hidden_bit self.visibility).map fun visibility =>
      {self with
        visibility := visibility
        last_call := fun e client => if e = entity ∧ client = sender then call else self.last_call e client}
  else none

/-- The entities that are like another one, when one of them leaves. -/
def leave (self : ManualWorld E) (child entity : E) : List E :=
  if self.replicate_like child = some entity then (self.replicate_like_children entity).erase child
    else self.replicate_like_children entity

/-- An entity that `propagate_through_hierarchy` makes like a root. -/
def join (self : ManualWorld E) (child root : E) : Option (ManualWorld E) :=
  if self.replicate_like root = none ∧ child ≠ root then
    some {self with
      replicate_like := fun e => if e = child then some root else self.replicate_like e
      replicate_like_children := fun e => if e = root then self.leave child e ++ [child] else self.leave child e}
  else none

def step (self : ManualWorld E) : ManualEvent E → Option (ManualWorld E)
  | .Set call entity sender fuel => self.call call entity sender fuel
  | .Join child root => self.join child root

def Child (self : ManualWorld E) (parent child : E) : Prop := child ∈ self.replicate_like_children parent

/-- The entity has the bits of the call. -/
def Selects (self : ManualWorld E) (call : VisibilityCall) (entity sender : E) : Prop :=
  ∀ bit ∈ VISIBILITY_BITS, self.visibility sender entity bit = false ↔ call.hidden_bit = some bit

def SameBits (self : ManualWorld E) (entity other sender : E) : Prop :=
  ∀ bit ∈ VISIBILITY_BITS, self.visibility sender entity bit = self.visibility sender other bit

/-- Of each entity at most one bit is hidden from a client, of a root the one of the last call, and an
entity that is like another one has the same bits. -/
structure Agrees (world : ManualWorld E) : Prop where
  one : ∀ entity sender, world.has_client_visibility sender = true → ∃ call, world.Selects call entity sender
  last : ∀ root sender, world.replicate_like root = none → world.has_client_visibility sender = true →
    world.Selects (world.last_call root sender) root sender
  same : ∀ root child sender, world.Child root child → world.has_client_visibility sender = true →
    world.SameBits child root sender

/-- An entity that joins a root has the root's bits already. -/
def JoinsAlike (self : ManualWorld E) : ManualEvent E → Prop
  | .Join child root => ∀ sender, self.has_client_visibility sender = true → self.SameBits child root sender
  | .Set _ _ _ _ => True

theorem set_bits_apply (visibility : Visibilities E) (entity sender : E) (call : VisibilityCall) (client e : E)
    (bit : FilterBit) :
    set_bits visibility entity sender call.hidden_bit client e bit =
      if client = sender ∧ e = entity ∧ bit ∈ VISIBILITY_BITS then decide (call.hidden_bit ≠ some bit)
        else visibility client e bit := by
  by_cases here : client = sender ∧ e = entity
  · obtain ⟨rfl,rfl⟩ := here
    cases call <;> cases bit <;> simp [set_bits,VisibilityCall.hidden_bit,VISIBILITY_BITS,Visibilities.set]
  · rw [if_neg fun all => here ⟨all.1,all.2.1⟩]
    have elsewhere (visibility : Visibilities E) (b : FilterBit) (visible : Bool) :
        visibility.set sender entity b visible client e bit = visibility client e bit :=
      if_neg fun all => here ⟨all.1,all.2.1⟩
    cases call <;> simp [set_bits,VisibilityCall.hidden_bit,VISIBILITY_BITS,elsewhere]

/-- The bits that a call sets: those of one client for the entities. -/
private def Touches (self : ManualWorld E) (entities : E → Prop) (sender client e : E) (bit : FilterBit) : Prop :=
  client = sender ∧ self.has_client_visibility sender = true ∧ bit ∈ VISIBILITY_BITS ∧ entities e

/-- The bits that are touched are those of the call, and the others are as they were. -/
private def IsSet (self : ManualWorld E) (entities : E → Prop) (sender : E) (call : VisibilityCall)
    (before after : Visibilities E) : Prop :=
  ∀ client e bit, (self.Touches entities sender client e bit →
    after client e bit = decide (call.hidden_bit ≠ some bit)) ∧
    (¬self.Touches entities sender client e bit → after client e bit = before client e bit)

omit [DecidableEq E] in
private theorem IsSet.trans {self : ManualWorld E} {entities others : E → Prop} {sender : E} {call : VisibilityCall}
    {before between after : Visibilities E} (first : self.IsSet entities sender call before between)
    (second : self.IsSet others sender call between after) :
    self.IsSet (fun e => entities e ∨ others e) sender call before after := by
  intro client e bit
  by_cases later : self.Touches others sender client e bit
  · exact ⟨fun _ => (second client e bit).1 later,
      fun untouched => absurd ⟨later.1,later.2.1,later.2.2.1,.inr later.2.2.2⟩ untouched⟩
  · rw [(second client e bit).2 later]
    refine ⟨fun touched => ?_,fun untouched => ?_⟩
    · refine (first client e bit).1 ⟨touched.1,touched.2.1,touched.2.2.1,?_⟩
      exact touched.2.2.2.resolve_right fun other => later ⟨touched.1,touched.2.1,touched.2.2.1,other⟩
    · exact (first client e bit).2 fun touched => untouched ⟨touched.1,touched.2.1,touched.2.2.1,.inl touched.2.2.2⟩

/-- A call sets the bits of the entity and of everything below it. -/
theorem set_visibility_sets {self : ManualWorld E} {fuel : Nat} {entity sender : E} {call : VisibilityCall}
    {before after : Visibilities E}
    (executed : self.set_visibility fuel entity sender call.hidden_bit before = some after) :
    self.IsSet (Relation.ReflTransGen self.Child entity) sender call before after := by
  induction fuel generalizing entity before after with
  | zero => cases executed
  | succ fuel ih =>
    rw [set_visibility] at executed
    have own : self.IsSet (· = entity) sender call before
        (if self.has_client_visibility sender = true then set_bits before entity sender call.hidden_bit
          else before) := by
      intro client e bit
      split_ifs with isClient
      · rw [set_bits_apply]
        exact ⟨fun touched => if_pos ⟨touched.1,touched.2.2.2,touched.2.2.1⟩,
          fun untouched => if_neg fun all => untouched ⟨all.1,isClient,all.2.2,all.2.1⟩⟩
      · exact ⟨fun touched => absurd touched.2.1 isClient,fun _ => rfl⟩
    have children (nodes : List E) (between : Visibilities E)
        (executed : nodes.foldlM (fun visibility child =>
          self.set_visibility fuel child sender call.hidden_bit visibility) between = some after) :
        self.IsSet (fun e => ∃ child ∈ nodes, Relation.ReflTransGen self.Child child e) sender call between after := by
      induction nodes generalizing between with
      | nil =>
        cases executed
        exact fun client e bit => ⟨fun touched => (nomatch touched.2.2.2.choose_spec.1),fun _ => rfl⟩
      | cons child rest later =>
        rw [List.foldlM_cons,Option.bind_eq_bind,Option.bind_eq_some_iff] at executed
        obtain ⟨next,first,executed⟩ := executed
        simpa only [List.mem_cons,exists_eq_or_imp] using (ih first).trans (later next executed)
    have all := own.trans (children _ _ executed)
    have below (e : E) : (e = entity ∨ ∃ child ∈ self.replicate_like_children entity,
      Relation.ReflTransGen self.Child child e) ↔
        Relation.ReflTransGen self.Child entity e := by
      rw [Relation.ReflTransGen.cases_head_iff,eq_comm]
      rfl
    simpa only [below] using all

/-- The two directions of the relation agree, and nothing is like itself. -/
structure Linked (world : ManualWorld E) : Prop where
  linked : ∀ parent child, world.Child parent child → world.replicate_like child = some parent
  nodup : ∀ parent, (world.replicate_like_children parent).Nodup
  forest : WellFounded fun child parent => world.Child parent child

/-- A call ends. -/
theorem exists_set_visibility {self : ManualWorld E} (linked : self.Linked) (entity sender : E)
    (hidden_bit : Option FilterBit) :
    ∃ enough, ∀ fuel, enough ≤ fuel →
      ∀ visibility, (self.set_visibility fuel entity sender hidden_bit visibility).isSome = true := by
  induction entity using linked.forest.induction with
  | _ entity ih =>
    have children (nodes : List E) (isChild : ∀ child ∈ nodes, self.Child entity child) :
      ∃ enough, ∀ fuel, enough ≤ fuel →
        ∀ visibility,
          (nodes.foldlM (fun visibility child => self.set_visibility fuel child sender hidden_bit visibility)
            visibility).isSome = true := by
      induction nodes with
      | nil => exact ⟨0,fun _ _ _ => rfl⟩
      | cons child rest later =>
        obtain ⟨first,executed⟩ := ih child (isChild child List.mem_cons_self)
        obtain ⟨enough,others⟩ := later fun other mem => isChild other (List.mem_cons_of_mem _ mem)
        refine ⟨max first enough,fun fuel more visibility => ?_⟩
        obtain ⟨next,isNext⟩ := Option.isSome_iff_exists.mp (executed fuel ((le_max_left _ _).trans more) visibility)
        rw [List.foldlM_cons,isNext]
        exact others fuel ((le_max_right _ _).trans more) next
    obtain ⟨enough,executed⟩ := children (self.replicate_like_children entity) fun child mem => mem
    refine ⟨enough + 1,fun fuel more visibility => ?_⟩
    obtain ⟨fuel,rfl⟩ := Nat.exists_eq_add_of_le' (Nat.one_le_iff_ne_zero.mpr (by omega : fuel ≠ 0))
    exact executed fuel (by omega) _

/-- A call on a root keeps the bits in agreement. -/
theorem call_agrees {self after : ManualWorld E} (linked : self.Linked) (agrees : self.Agrees) {call : VisibilityCall}
    {entity sender : E}
    {fuel : Nat} (executed : self.call call entity sender fuel = some after) : after.Agrees := by
  rw [ManualWorld.call] at executed
  split_ifs at executed with isRoot
  obtain ⟨visibility,isSet,rfl⟩ := Option.map_eq_some_iff.mp executed
  have sets := set_visibility_sets isSet
  have touched {e : E} (isClient : self.has_client_visibility sender = true)
    (below : Relation.ReflTransGen self.Child entity e)
      (bit : FilterBit) (isBit : bit ∈ VISIBILITY_BITS) : visibility sender e bit = false ↔
        call.hidden_bit = some bit := by
    rw [(sets sender e bit).1 ⟨rfl,isClient,isBit,below⟩]
    simp
  have untouched {client e : E} (other : ¬(client = sender ∧ Relation.ReflTransGen self.Child entity e))
    (bit : FilterBit) :
      visibility client e bit = self.visibility client e bit :=
    (sets client e bit).2 fun touches => other ⟨touches.1,touches.2.2.2⟩
  -- A root is below no other entity, and what is below an entity comes with all that is below it.
  have no_root {root : E} (isTop : self.replicate_like root = none)
      (below : Relation.ReflTransGen self.Child entity root) : root = entity := by
    rcases Relation.ReflTransGen.cases_tail below with same | ⟨parent,-,isChild⟩
    · exact same
    · cases (linked.linked parent root isChild).symm.trans isTop
  refine ⟨fun e client isClient => ?_,fun root client isTop isClient => ?_,fun root child client isChild isClient => ?_⟩
  · by_cases here : client = sender ∧ Relation.ReflTransGen self.Child entity e
    · obtain ⟨rfl,below⟩ := here
      exact ⟨call,touched isClient below⟩
    · obtain ⟨last,selects⟩ := agrees.one e client isClient
      exact ⟨last,fun bit isBit =>
        by rw [← selects bit isBit]; exact iff_of_eq (congrArg (· = false) (untouched here bit))⟩
  · by_cases here : root = entity ∧ client = sender
    · obtain ⟨rfl,rfl⟩ := here
      simp only [Selects,and_self,if_true]
      exact touched isClient .refl
    · simp only [Selects,if_neg here]
      intro bit isBit
      rw [untouched (fun both => here ⟨no_root isTop both.2,both.1⟩)]
      exact agrees.last root client isTop isClient bit isBit
  · intro bit isBit
    by_cases here : client = sender ∧ Relation.ReflTransGen self.Child entity root
    · obtain ⟨rfl,below⟩ := here
      rw [Bool.eq_iff_iff,← not_iff_not,Bool.not_eq_true,Bool.not_eq_true]
      exact (touched isClient (below.tail isChild) bit isBit).trans (touched isClient below bit isBit).symm
    · have other : ¬(client = sender ∧ Relation.ReflTransGen self.Child entity child) := by
        rintro ⟨rfl,below⟩
        rcases Relation.ReflTransGen.cases_tail below with rfl | ⟨parent,above,isParent⟩
        · cases (linked.linked root child isChild).symm.trans isRoot
        · have same := Option.some.inj
            ((linked.linked root child isChild).symm.trans (linked.linked parent child isParent))
          exact here ⟨rfl,same ▸ above⟩
      simp only
      rw [untouched other,untouched here]
      exact agrees.same root child client isChild isClient bit isBit

private theorem join_ok {self after : ManualWorld E} {child root : E} (joined : self.join child root = some after) :
    self.replicate_like root = none ∧ child ≠ root ∧ after.has_client_visibility = self.has_client_visibility ∧
      after.visibility = self.visibility ∧ after.last_call = self.last_call ∧
      (∀ e, after.replicate_like e = if e = child then some root else self.replicate_like e) ∧
      ∀ parent, after.replicate_like_children parent =
        if parent = root then self.leave child parent ++ [child] else self.leave child parent := by
  rw [join] at joined
  split_ifs at joined with allowed
  cases joined
  exact ⟨allowed.1,allowed.2,rfl,rfl,rfl,fun _ => rfl,fun _ => rfl⟩

private theorem mem_leave {self : ManualWorld E} (linked : self.Linked) (child parent other : E) :
    other ∈ self.leave child parent ↔ other ≠ child ∧ self.Child parent other := by
  rw [leave]
  split_ifs with isParent
  · exact (linked.nodup parent).mem_erase_iff
  · exact ⟨fun mem => ⟨fun same => isParent (same ▸ linked.linked parent other mem),mem⟩,And.right⟩

/-- An entity that joins is a child of the root, and of nothing else. -/
private theorem join_child {self after : ManualWorld E} (linked : self.Linked) {child root : E}
    (joined : self.join child root = some after)
    (parent other : E) : after.Child parent other ↔ parent = root ∧ other = child ∨ other ≠ child ∧
      self.Child parent other := by
  obtain ⟨-,-,-,-,-,-,children⟩ := join_ok joined
  rw [Child,children]
  split_ifs with isRoot
  · rw [List.mem_append,mem_leave linked,List.mem_singleton,or_comm]
    simp [isRoot]
  · rw [mem_leave linked]
    simp [isRoot]

theorem join_linked {self after : ManualWorld E} (linked : self.Linked) {child root : E}
    (joined : self.join child root = some after) :
    after.Linked := by
  obtain ⟨isTop,differ,-,-,-,like,children⟩ := join_ok joined
  have isChild := join_child linked joined
  have above_root (parent : E) : ¬after.Child parent root := by
    intro above
    rcases (isChild parent root).mp above with ⟨-,same⟩ | ⟨-,above⟩
    · exact differ same.symm
    · cases (linked.linked parent root above).symm.trans isTop
  -- Below anything but the root there are only old edges, none of which leads to the root.
  have others (e : E) (notRoot : e ≠ root) : Acc (fun child parent => after.Child parent child) e := by
    induction e using linked.forest.induction with
    | _ e ih =>
      refine .intro e fun other below => ?_
      have isOther : other ≠ root := fun same => above_root e (same ▸ below)
      rcases (isChild e other).mp below with ⟨same,-⟩ | ⟨-,below⟩
      · exact absurd same notRoot
      · exact ih other below isOther
  refine ⟨fun parent other below => ?_,fun parent => ?_,⟨fun e => ?_⟩⟩
  · rw [like]
    rcases (isChild parent other).mp below with ⟨rfl,rfl⟩ | ⟨isOther,below⟩
    · exact if_pos rfl
    · rw [if_neg isOther]
      exact linked.linked parent other below
  · have left : (self.leave child parent).Nodup := by
      rw [leave]
      split_ifs
      · exact (linked.nodup parent).erase child
      · exact linked.nodup parent
    rw [children]
    split_ifs
    · rw [List.nodup_append']
      refine ⟨left,List.nodup_singleton child,?_⟩
      rw [List.disjoint_singleton,mem_leave linked]
      exact fun mem => mem.1 rfl
    · exact left
  · by_cases isRoot : e = root
    · subst isRoot
      exact .intro e fun other below => others other fun same => above_root e (same ▸ below)
    · exact others e isRoot

/-- A join keeps the bits in agreement just if the condition on it holds. -/
theorem join_agrees {self after : ManualWorld E} (linked : self.Linked) (agrees : self.Agrees) {child root : E}
    (joined : self.join child root = some after) : after.Agrees ↔ self.JoinsAlike (.Join child root) := by
  obtain ⟨-,-,clients,visibility,last_call,like,-⟩ := join_ok joined
  have isChild := join_child linked joined
  constructor
  · intro holds sender isClient
    have same := holds.same root child sender ((isChild root child).mpr (.inl ⟨rfl,rfl⟩)) (clients ▸ isClient)
    rwa [SameBits,visibility] at same
  · intro alike
    refine ⟨fun e client isClient => ?_,fun top client isTop isClient => ?_,
      fun parent other client below isClient => ?_⟩
    · rw [clients] at isClient
      simpa only [Selects,visibility] using agrees.one e client isClient
    · rw [clients] at isClient
      rw [like] at isTop
      split_ifs at isTop with same
      simpa only [Selects,visibility,last_call] using agrees.last top client isTop isClient
    · rw [clients] at isClient
      rw [SameBits,visibility]
      rcases (isChild parent other).mp below with ⟨rfl,rfl⟩ | ⟨-,below⟩
      · exact alike client isClient
      · exact agrees.same parent other client below isClient

omit [DecidableEq E] in
/-- What is below an entity has its bits. -/
theorem Agrees.below {self : ManualWorld E} (agrees : self.Agrees) {sender : E}
    (isClient : self.has_client_visibility sender = true)
    {root x : E} (path : Relation.TransGen self.Child root x) : self.SameBits x root sender := by
  induction path with
  | single isChild => exact agrees.same root _ sender isChild isClient
  | tail _ isChild ih => exact fun bit isBit => (agrees.same _ _ sender isChild isClient bit isBit).trans (ih bit isBit)

end ManualWorld

/-- While entities only join a root whose bits they have, the bits of every root are those of its last
call, and everything below it has the same; and the first entity that joins with other bits breaks
this. Every call ends. -/
theorem manual_visibility_agrees {E : Type} [DecidableEq E] (clients : E → Bool) (world : ManualWorld E)
    (reached : Runs.Reaches ManualWorld.step (fun world event _ => world.JoinsAlike event)
      (ManualWorld.start clients) world) :
    world.Agrees ∧
      (∀ root x sender, Relation.TransGen world.Child root x → world.has_client_visibility sender = true →
        world.SameBits x root sender) ∧
      (∀ event after, world.step event = some after → (after.Agrees ↔ world.JoinsAlike event)) ∧
      ∀ call root sender, world.replicate_like root = none →
        ∃ enough, ∀ fuel, enough ≤ fuel → (world.step (.Set call root sender fuel)).isSome = true := by
  have step_linked {before after : ManualWorld E} {event : ManualEvent E} (linked : before.Linked)
    (stepped : before.step event = some after) :
      after.Linked := by
    cases event with
    | Set call entity sender fuel =>
      rw [ManualWorld.step,ManualWorld.call] at stepped
      split_ifs at stepped
      obtain ⟨visibility,-,rfl⟩ := Option.map_eq_some_iff.mp stepped
      exact ⟨linked.linked,linked.nodup,linked.forest⟩
    | Join child root => exact ManualWorld.join_linked linked stepped
  have step_agrees {before after : ManualWorld E} {event : ManualEvent E} (linked : before.Linked)
    (agrees : before.Agrees)
      (stepped : before.step event = some after) : after.Agrees ↔ before.JoinsAlike event := by
    cases event with
    | Set call entity sender fuel => exact iff_of_true (ManualWorld.call_agrees linked agrees stepped) trivial
    | Join child root => exact ManualWorld.join_agrees linked agrees stepped
  have holds : world.Linked ∧ world.Agrees := by
    have initially : (ManualWorld.start clients).Linked ∧ (ManualWorld.start clients).Agrees := by
      refine ⟨⟨fun _ _ mem => (nomatch mem),fun _ => List.nodup_nil,⟨fun e => .intro e fun _ mem => (nomatch mem)⟩⟩,
        ⟨fun _ _ _ => ⟨.gain_visibility,?_⟩,?_,fun _ _ _ mem => (nomatch mem)⟩⟩
      · exact fun bit _ => iff_of_false Bool.true_eq_false.mp nofun
      · exact fun _ _ _ _ bit _ => iff_of_false Bool.true_eq_false.mp nofun
    refine reached.invariant (fun world => world.Linked ∧ world.Agrees) initially ?_
    intro before event after inv stepped alike
    exact ⟨step_linked inv.1 stepped,(step_agrees inv.1 inv.2 stepped).mpr alike⟩
  refine ⟨holds.2,fun root x sender path isClient => holds.2.below isClient path,fun event after stepped =>
    step_agrees holds.1 holds.2 stepped,?_⟩
  intro call root sender isRoot
  obtain ⟨enough,executed⟩ := ManualWorld.exists_set_visibility holds.1 root sender call.hidden_bit
  refine ⟨enough,fun fuel more => ?_⟩
  rw [ManualWorld.step,ManualWorld.call,if_pos isRoot,Option.isSome_map]
  exact executed fuel more world.visibility

/-- A child that joined a visible root is hidden with it. -/
theorem manual_visibility_agrees_child : ∃ world : ManualWorld Nat,
    world.visibility 9 2 .WhileVisible = false ∧ world.Child 1 2 ∧ world.Agrees := by
  refine ⟨_,?_,?_,(manual_visibility_agrees (fun _ => true) _
    (.step (.Set .lose_visibility 1 9 3) (.step (.Join 2 1) .start rfl ?_)
    rfl trivial)).1⟩
  · rfl
  · exact List.mem_singleton_self 2
  · exact fun _ _ _ _ => rfl

/-- An entity that joins a hidden root is visible to the client that the root is hidden from. -/
theorem manual_visibility_leaks : ∃ world : ManualWorld Nat,
    Runs.Reaches ManualWorld.step (fun _ _ _ => True) (ManualWorld.start fun _ => true) world ∧ world.Child 1 2 ∧
      world.visibility 9 1 .WhileVisible = false ∧ ∀ bit ∈ VISIBILITY_BITS, world.visibility 9 2 bit = true := by
  refine ⟨_,.step (.Join 2 1) (.step (.Set .lose_visibility 1 9 3) .start rfl trivial) rfl trivial,?_,rfl,?_⟩
  · exact List.mem_singleton_self 2
  · decide

end Lightyear.Replication
