import Lightyear.Replication.Targets

/-!
The bit of `ControlledSend`: the owner of an entity, and no other client, is told that it
controls the entity, as long as no owner is replaced by a client and no client joins where the
owner has been removed.
-/
namespace Lightyear.Replication
open Connection

variable {E P : Type} [DecidableEq E] [DecidableEq P] {PLACEHOLDER : E}

namespace World

/-- The clients see the bit of an entity with the marker just if they own the entity. -/
def ControlFollowed (self : World E P) : Prop :=
  ∀ entity, self.controlled_send entity = true → ∀ client ∈ self.clients,
    (self.visibility client.entity entity .ControlBit = true ↔ self.controlled_by entity = some client.entity)

/-- An owner is replaced only by a link that is no client, and a client joins while every entity with
the marker has an owner. -/
def KeepsControl (self : World E P) : Event E P → Prop
  | .Join _ _ => ∀ entity, self.controlled_send entity = true → self.controlled_by entity ≠ none
  | .InsertControlledBy entity owner => self.controlled_by entity ≠ none → owner ∉ self.senders
  | _ => True

/-- An entity with an owner has the marker. -/
def OwnersMarked (self : World E P) :
    Prop := ∀ entity, self.controlled_by entity ≠ none → self.controlled_send entity = true

omit [DecidableEq P] in
theorem controlled_by_added_apply (self : World E P) (entity owner client e : E) :
    self.controlled_by_added entity owner client e .ControlBit =
      if client ∈ self.senders ∧ e = entity then decide (client = owner) else self.visibility client e .ControlBit := by
  rw [controlled_by_added]
  generalize self.visibility = visibility
  induction self.senders generalizing visibility with
  | nil => simp
  | cons sender rest ih =>
    rw [List.foldl_cons,ih,Visibilities.set]
    by_cases same : e = entity
    · by_cases isSender : client = sender <;> simp [same,isSender]
    · simp [same]

omit [DecidableEq P] in
theorem controlled_by_discarded_apply (self : World E P) (entity owner : E) {client : Client E P}
    (mem : client ∈ self.clients) (e : E) :
    self.controlled_by_discarded entity owner client.entity e .ControlBit =
      if client.entity = owner ∧ e = entity then false else self.visibility client.entity e .ControlBit := by
  rw [controlled_by_discarded]
  by_cases isOwner : client.entity = owner
  · subst isOwner
    rw [if_pos (mem_senders mem),Visibilities.set]
    simp
  · split_ifs with isLink both both
    · exact absurd both.1 isOwner
    · exact if_neg fun same => isOwner same.1
    · exact absurd both.1 isOwner
    · rfl

omit [DecidableEq P] in
/-- Inserting an owner is followed just if the condition on the step holds. -/
theorem insert_controlled_by_followed {self : World E P} (marked : self.OwnersMarked) (followed : self.ControlFollowed)
    (entity owner : E) : (self.insert_controlled_by entity owner).ControlFollowed ↔
      self.KeepsControl (.InsertControlledBy entity owner) := by
  have others (e : E) (differ : e ≠ entity) (client : Client E P) (mem : client ∈ self.clients) :
      (self.insert_controlled_by entity owner).visibility client.entity e .ControlBit =
        self.visibility client.entity e .ControlBit := by
    rw [insert_controlled_by]
    cases self.controlled_by entity with
    | none =>
      exact (controlled_by_added_apply self entity owner client.entity e).trans (if_neg fun same => differ same.2)
    | some previous =>
      exact (controlled_by_discarded_apply self entity previous mem e).trans (if_neg fun same => differ same.2)
  have reduced : (self.insert_controlled_by entity owner).ControlFollowed ↔ ∀ client ∈ self.clients,
      ((self.insert_controlled_by entity owner).visibility client.entity entity .ControlBit = true ↔
        owner = client.entity) := by
    constructor
    · intro holds client mem
      have here := holds entity (if_pos rfl) client mem
      simpa [insert_controlled_by] using here
    · intro holds e isMarked client mem
      by_cases same : e = entity
      · subst same
        simpa [insert_controlled_by] using holds client mem
      · rw [others e same client mem]
        have isMarked : self.controlled_send e = true := by simpa [insert_controlled_by,same] using isMarked
        simpa [insert_controlled_by,same] using followed e isMarked client mem
  rw [reduced,KeepsControl]
  cases owned : self.controlled_by entity with
  | none =>
    refine iff_of_true (fun client mem => ?_) fun isOwned => absurd rfl isOwned
    simp only [insert_controlled_by,owned]
    rw [controlled_by_added_apply,if_pos ⟨mem_senders mem,rfl⟩,decide_eq_true_eq,eq_comm]
  | some previous =>
    -- Nobody sees the bit afterwards, so the new owner must not be a client.
    have hidden (client : Client E P) (mem : client ∈ self.clients) :
        (self.insert_controlled_by entity owner).visibility client.entity entity .ControlBit = false := by
      simp only [insert_controlled_by,owned]
      rw [controlled_by_discarded_apply self entity previous mem]
      split_ifs with isPrevious
      · rfl
      · have here := followed entity (marked entity (by simp [owned])) client mem
        rw [owned,Option.some.injEq] at here
        simpa using mt here.mp fun same => isPrevious ⟨same.symm,rfl⟩
    simp only [senders,List.mem_map,not_exists,not_and]
    constructor
    · rintro holds - client mem rfl
      have shown := (holds client mem).mpr rfl
      rw [hidden client mem] at shown
      cases shown
    · intro keeps client mem
      rw [hidden client mem]
      exact iff_of_false Bool.false_ne_true fun same => keeps (by simp) client mem same.symm

omit [DecidableEq P] in
theorem remove_controlled_by_followed {self : World E P} (followed : self.ControlFollowed) (entity : E) :
    (self.remove_controlled_by entity).ControlFollowed := by
  rw [remove_controlled_by]
  cases owned : self.controlled_by entity with
  | none => exact followed
  | some owner =>
    intro e isMarked client mem
    have here := followed e isMarked client mem
    simp only
    rw [controlled_by_discarded_apply self entity owner mem]
    by_cases same : e = entity
    · subst same
      rw [owned,Option.some.injEq] at here
      by_cases isOwner : client.entity = owner
      · simp [isOwner]
      · simpa [isOwner] using mt here.mp (Ne.symm isOwner)
    · rw [if_neg fun isHere => same isHere.2,if_neg same]
      exact here

omit [DecidableEq E] [DecidableEq P] in
/-- The events of a target are about other bits. -/
theorem target_control_followed {self : World E P} (followed : self.ControlFollowed) {after : World E P}
    (clients : after.clients = self.clients) (controlled_by : after.controlled_by = self.controlled_by)
    (controlled_send : after.controlled_send = self.controlled_send)
    (others : ∀ client e, after.visibility client e .ControlBit = self.visibility client e .ControlBit) :
    after.ControlFollowed := by
  intro entity isMarked client mem
  rw [others,controlled_by]
  rw [controlled_send] at isMarked
  rw [clients] at mem
  exact followed entity isMarked client mem

omit [DecidableEq E] in
/-- A join is followed just if the condition on the step holds. -/
theorem Joined.keeps_control {self after : World E P} {entity : E} {remote_id : P}
    (joined : self.Joined after entity remote_id)
    (followed : self.ControlFollowed) : after.ControlFollowed ↔ self.KeepsControl (.Join entity remote_id) := by
  have old (client : Client E P) (mem : client ∈ self.clients) (e : E) :
      after.visibility client.entity e .ControlBit = self.visibility client.entity e .ControlBit :=
    joined.others client.entity e .ControlBit (joined.new client mem).1
  rw [ControlFollowed,KeepsControl,joined.clients,joined.controlled_by,joined.controlled_send]
  refine forall₂_congr fun e isMarked => ?_
  simp only [List.mem_append,List.mem_singleton,or_imp,forall_and,forall_eq]
  rw [joined.owners,and_iff_right fun client mem => (by rw [old client mem]; exact followed e isMarked client mem)]
  cases self.controlled_by e <;> simp

theorem step_marked {self after : World E P} {event : Event E P} (marked : self.OwnersMarked)
    (stepped : self.step PLACEHOLDER event = some after) : after.OwnersMarked := by
  cases event with
  | Join entity remote_id =>
    have joined := (join_ok stepped).2
    rw [OwnersMarked,joined.controlled_by,joined.controlled_send]
    exact marked
  | InsertTarget kind entity mode =>
    cases stepped
    exact marked
  | RemoveTarget kind entity =>
    cases stepped
    rw [remove_target]
    split_ifs
    · exact marked
    · exact marked
  | InsertControlledBy entity owner =>
    cases stepped
    intro e isOwned
    by_cases same : e = entity
    · exact if_pos same
    · exact (if_neg same).trans (marked e (by simpa [insert_controlled_by,same] using isOwned))
  | RemoveControlledBy entity =>
    cases stepped
    rw [remove_controlled_by]
    split
    · intro e isOwned
      by_cases same : e = entity
      · simp [same] at isOwned
      · exact marked e (by simpa [same] using isOwned)
    · exact marked

theorem step_control_followed {self after : World E P} {event : Event E P} (marked : self.OwnersMarked)
    (followed : self.ControlFollowed) (stepped : self.step PLACEHOLDER event = some after) :
    after.ControlFollowed ↔ self.KeepsControl event := by
  have control_bit (kind : TargetKind) (entity e : E) : ¬(e = entity ∧ FilterBit.ControlBit = kind.visibility_bit) := by
    rintro ⟨-,same⟩
    cases kind <;> cases same
  cases event with
  | Join entity remote_id => exact (join_ok stepped).2.keeps_control followed
  | InsertTarget kind entity mode =>
    cases stepped
    refine iff_of_true (target_control_followed followed rfl rfl rfl fun client e => ?_) trivial
    refine (on_insert_frame _ mode client (control_bit kind entity e)).trans ?_
    rw [discard_target]
    split_ifs
    · exact on_discard_frame self client (control_bit kind entity e)
    · rfl
  | RemoveTarget kind entity =>
    cases stepped
    refine iff_of_true ?_ trivial
    rw [remove_target]
    split_ifs
    · exact target_control_followed followed rfl rfl rfl fun client e =>
        on_discard_frame self client (control_bit kind entity e)
    · exact followed
  | InsertControlledBy entity owner =>
    cases stepped
    exact insert_controlled_by_followed marked followed entity owner
  | RemoveControlledBy entity =>
    cases stepped
    exact iff_of_true (remove_controlled_by_followed followed entity) trivial

end World

/-- While every step meets its condition just the owner sees that it controls an entity, so no two
clients do, and the first step that does not meet it breaks this. -/
theorem control_followed (PLACEHOLDER : E) (world : World E P)
    (reached : Runs.Reaches (World.step PLACEHOLDER)
      (fun world event _ => world.KeepsControl event) World.start world) :
    world.ControlFollowed ∧
      (∀ entity, world.controlled_send entity = true → ∀ client ∈ world.clients, ∀ other ∈ world.clients,
        world.visibility client.entity entity .ControlBit = true →
          world.visibility other.entity entity .ControlBit = true →
          client.entity = other.entity) ∧
      ∀ event after, world.step PLACEHOLDER event = some after →
        (after.ControlFollowed ↔ world.KeepsControl event) := by
  have holds : world.OwnersMarked ∧ world.ControlFollowed := by
    refine reached.invariant (fun world => world.OwnersMarked ∧ world.ControlFollowed) ?_ ?_
    · exact ⟨fun _ isOwned => absurd rfl isOwned,fun _ marked => (nomatch marked)⟩
    · intro before event after inv stepped keeps
      exact ⟨World.step_marked inv.1 stepped,(World.step_control_followed inv.1 inv.2 stepped).mpr keeps⟩
  refine ⟨holds.2,fun entity marked client mem other isClient sees otherSees => ?_,fun event after stepped =>
    World.step_control_followed holds.1 holds.2 stepped⟩
  have owner := (holds.2 entity marked client mem).mp sees
  rw [(holds.2 entity marked other isClient).mp otherSees,Option.some.injEq] at owner
  exact owner.symm

/-- Two clients, and an entity that the first one owns. -/
theorem control_followed_two : ∃ world : World Nat Nat,
    world.clients.length = 2 ∧ world.controlled_send 5 = true ∧ world.ControlFollowed := by
  refine ⟨_,rfl,rfl,(control_followed (0 : Nat) _
    (.step (.Join 2 20) (.step (.InsertControlledBy 5 1) (.step (.Join 1 10) .start
    rfl ?_) rfl ?_) rfl ?_)).1⟩
  · exact fun _ marked => absurd marked Bool.false_ne_true
  · exact fun isOwned => absurd rfl isOwned
  · intro e marked
    have same : e = 5 := by
      by_contra differ
      cases (if_neg differ).symm.trans marked
    subst same
    exact Option.some_ne_none 1

/-- The new owner is not told when an owner is replaced, and two clients that join after the owner has
been removed are both told that they control the entity. -/
theorem control_not_followed :
    (∃ world : World Nat Nat, Runs.Reaches (World.step 0) (fun _ _ _ => True) World.start world ∧
      world.controlled_send 5 = true ∧ ⟨2,20⟩ ∈ world.clients ∧ world.controlled_by 5 = some 2 ∧
      world.visibility 2 5 .ControlBit = false) ∧
    ∃ world : World Nat Nat, Runs.Reaches (World.step 0) (fun _ _ _ => True) World.start world ∧
      world.controlled_send 5 = true ∧ world.clients = [⟨2,20⟩,⟨3,30⟩] ∧ world.controlled_by 5 = none ∧
      world.visibility 2 5 .ControlBit = true ∧ world.visibility 3 5 .ControlBit = true := by
  refine ⟨?_,?_⟩
  · exact ⟨_,.step (.InsertControlledBy 5 2)
      (.step (.InsertControlledBy 5 1) (.step (.Join 2 20) (.step (.Join 1 10) .start
      rfl trivial) rfl trivial) rfl trivial) rfl trivial,rfl,List.mem_cons_of_mem _ (List.mem_singleton_self _),rfl,rfl⟩
  · exact ⟨_,.step (.Join 3 30)
      (.step (.Join 2 20) (.step (.RemoveControlledBy 5) (.step (.InsertControlledBy 5 1) .start rfl trivial)
      rfl trivial) rfl trivial) rfl trivial,rfl,rfl,rfl,rfl,rfl⟩

end Lightyear.Replication
