import Lightyear.Replication.Visibility

/-!
The bits of the targets: in every state reached a client sees the bit of a target exactly if
the target includes it, apart from the steps that do not enumerate the modes of a target.
-/
namespace Lightyear.Replication
open Connection

variable {E P : Type} [DecidableEq E] [DecidableEq P] {PLACEHOLDER : E}

theorem TargetKind.visibility_bit_inj {kind other : TargetKind} :
    kind.visibility_bit = other.visibility_bit ↔ kind = other := by
  cases kind <;> cases other <;> decide

/-- The clients that a mode is for. -/
def ReplicationMode.Includes (client : Client E P) : ReplicationMode E P → Prop
  | .SingleServer target => target.targets client.remote_id = true
  | .Sender sender_entity => sender_entity = client.entity
  | .Manual senders => client.entity ∈ senders

namespace World

/-- Each client has a link and a remote id of its own. -/
structure Connected (PLACEHOLDER : E) (world : World E P) : Prop where
  connected : ∀ client ∈ world.clients, client.entity ≠ PLACEHOLDER
  entities : (world.clients.map (·.entity)).Nodup
  remote_ids : (world.clients.map (·.remote_id)).Nodup

/-- The clients see the bit of an entity with the marker just if the entity's target includes them. -/
def TargetsFollowed (self : World E P) : Prop :=
  ∀ kind entity, self.marker kind entity = true → ∀ client ∈ self.clients,
    (self.visibility client.entity entity kind.visibility_bit = true ↔
      ∃ mode, self.target kind entity = some mode ∧ mode.Includes client)

/-- A client joins while every entity with a marker has a target that names it or goes by its remote
id. A target for one sender is new only where the other clients do not see the bit. -/
def KeepsTargets (self : World E P) : Event E P → Prop
  | .Join entity remote_id => ∀ kind e, self.marker kind e = true → ∃ mode, self.target kind e = some mode ∧
      ((∃ net_target, mode = .SingleServer net_target) ∨ mode.Includes ⟨entity,remote_id⟩)
  | .InsertTarget kind entity (.Sender sender_entity) => self.target kind entity = none →
      ∀ client ∈ self.clients, client.entity ≠ sender_entity →
        self.visibility client.entity entity kind.visibility_bit = false
  | _ => True

omit [DecidableEq E] [DecidableEq P] in
theorem mem_senders {self : World E P} {client : Client E P} (mem : client ∈ self.clients) :
    client.entity ∈ self.senders :=
  List.mem_map_of_mem mem

omit [DecidableEq E] in
theorem Connected.peer_map {self : World E P} (connected : self.Connected PLACEHOLDER) {client : Client E P}
    (mem : client ∈ self.clients)
    (peer_id : P) : (self.peer_map peer_id).getD PLACEHOLDER = client.entity ↔ peer_id = client.remote_id := by
  rw [World.peer_map]
  cases found : self.clients.find? (·.remote_id = peer_id) with
  | none =>
    have absent := List.find?_eq_none.mp found client mem
    exact ⟨fun isPlaceholder => absurd isPlaceholder.symm (connected.connected client mem),
      fun same => absurd (decide_eq_true same.symm) absent⟩
  | some other =>
    have isClient := List.mem_of_find?_eq_some found
    have isPeer : other.remote_id = peer_id := by simpa using List.find?_some found
    constructor
    · intro same
      rw [← isPeer,List.inj_on_of_nodup_map connected.entities isClient mem (Option.some.inj (congrArg some same))]
    · rintro rfl
      rw [List.inj_on_of_nodup_map connected.remote_ids isClient mem isPeer]
      rfl

/-- What an inserted target shows to a client. -/
theorem on_insert_apply {self : World E P} (connected : self.Connected PLACEHOLDER) {client : Client E P}
    (mem : client ∈ self.clients)
    (bit : FilterBit) (entity : E) (mode : ReplicationMode E P) :
    self.on_insert PLACEHOLDER bit entity mode client.entity entity bit = true ↔
      mode.Includes client ∨ (∃ sender_entity, mode = .Sender sender_entity) ∧
        self.visibility client.entity entity bit = true := by
  cases mode with
  | SingleServer target =>
    simp [on_insert,ReplicationMode.Includes,Target.mem_apply_targets (connected.peer_map mem),mem_senders mem]
  | Sender sender_entity =>
    rw [on_insert]
    by_cases same : sender_entity = client.entity
    · simp [same,mem_senders mem,Visibilities.set,ReplicationMode.Includes]
    · split_ifs <;> simp [same,Ne.symm same,Visibilities.set,ReplicationMode.Includes]
  | Manual senders => simp [on_insert,ReplicationMode.Includes,mem_senders mem]

/-- An inserted target touches no other bit. -/
theorem on_insert_frame (self : World E P) {bit b : FilterBit} {entity e : E} (mode : ReplicationMode E P) (client : E)
    (other : ¬(e = entity ∧ b = bit)) :
    self.on_insert PLACEHOLDER bit entity mode client e b = self.visibility client e b := by
  cases mode with
  | SingleServer target => simp [on_insert,other]
  | Sender sender_entity =>
    rw [on_insert]
    split_ifs <;> simp [Visibilities.set,other]
  | Manual senders => simp [on_insert,other]

/-- A change of one target is followed just if it is followed by that target. -/
private theorem TargetsFollowed.iff_of_frame {self : World E P} (followed : self.TargetsFollowed) (after : World E P)
    {kind : TargetKind}
    {entity : E} (clients : after.clients = self.clients)
    (marker : ∀ k e, ¬(k = kind ∧ e = entity) → after.marker k e = self.marker k e)
    (target : ∀ k e, ¬(k = kind ∧ e = entity) → after.target k e = self.target k e)
    (visibility : ∀ client k e, ¬(k = kind ∧ e = entity) →
      after.visibility client e k.visibility_bit = self.visibility client e k.visibility_bit) :
    after.TargetsFollowed ↔ (after.marker kind entity = true → ∀ client ∈ after.clients,
      (after.visibility client.entity entity kind.visibility_bit = true ↔
        ∃ mode, after.target kind entity = some mode ∧ mode.Includes client)) := by
  refine ⟨fun holds => holds kind entity,fun holds k e => ?_⟩
  by_cases same : k = kind ∧ e = entity
  · obtain ⟨rfl,rfl⟩ := same
    exact holds
  · rw [marker k e same,target k e same,clients]
    intro marked client mem
    rw [visibility client.entity k e same]
    exact followed k e marked client mem

omit [DecidableEq P] in
theorem on_discard_frame (self : World E P) {bit b : FilterBit} {entity e : E} (client : E)
    (other : ¬(e = entity ∧ b = bit)) :
    self.on_discard bit entity client e b = self.visibility client e b := by
  simp [on_discard,other]

omit [DecidableEq P] in
private theorem on_discard_hidden {self : World E P} {client : Client E P} (mem : client ∈ self.clients)
    (bit : FilterBit) (entity : E) :
    self.on_discard bit entity client.entity entity bit = false := by
  simp [on_discard,mem_senders mem]

omit [DecidableEq E] in
private theorem other_bit {kind k : TargetKind} {entity e : E} (other : ¬(k = kind ∧ e = entity)) :
    ¬(e = entity ∧ k.visibility_bit = kind.visibility_bit) :=
  fun same => other ⟨TargetKind.visibility_bit_inj.mp same.2,same.1⟩

/-- An inserted target is followed just if the condition on the step holds. -/
theorem insert_target_followed {self : World E P} (connected : self.Connected PLACEHOLDER)
    (followed : self.TargetsFollowed)
    (kind : TargetKind) (entity : E) (mode : ReplicationMode E P) :
    (self.insert_target PLACEHOLDER kind entity mode).TargetsFollowed ↔
      self.KeepsTargets (.InsertTarget kind entity mode) := by
  have clients : (self.discard_target kind entity).clients = self.clients := by
    rw [discard_target]
    split_ifs <;> rfl
  have stillConnected : (self.discard_target kind entity).Connected PLACEHOLDER :=
    ⟨clients ▸ connected.connected,clients ▸ connected.entities,clients ▸ connected.remote_ids⟩
  have frame (client : E) (k : TargetKind) (e : E) (other : ¬(k = kind ∧ e = entity)) :
      (self.insert_target PLACEHOLDER kind entity mode).visibility client e k.visibility_bit =
        self.visibility client e k.visibility_bit := by
    refine (on_insert_frame _ mode client (other_bit other)).trans ?_
    rw [discard_target]
    split_ifs
    · exact on_discard_frame self client (other_bit other)
    · rfl
  have hidden (client : Client E P) (mem : client ∈ self.clients) :
      (self.discard_target kind entity).visibility client.entity entity kind.visibility_bit = true ↔
        self.target kind entity = none ∧ self.visibility client.entity entity kind.visibility_bit = true := by
    rw [discard_target]
    cases self.target kind entity with
    | none => simp
    | some previous => simp [on_discard_hidden mem]
  have marker (k : TargetKind) (e : E) (other : ¬(k = kind ∧ e = entity)) :
      (self.insert_target PLACEHOLDER kind entity mode).marker k e = self.marker k e := if_neg other
  have target (k : TargetKind) (e : E) (other : ¬(k = kind ∧ e = entity)) :
      (self.insert_target PLACEHOLDER kind entity mode).target k e = self.target k e := if_neg other
  rw [followed.iff_of_frame (self.insert_target PLACEHOLDER kind entity mode) rfl marker target frame]
  -- Only a target for one sender leaves a bit as it is, and only without a target before it.
  have shown (client : Client E P) (mem : client ∈ self.clients) :
      ((self.insert_target PLACEHOLDER kind entity mode).visibility client.entity entity kind.visibility_bit = true ↔
        mode.Includes client) ↔
      ((∃ sender_entity, mode = .Sender sender_entity) ∧ self.target kind entity = none ∧
        self.visibility client.entity entity kind.visibility_bit = true → mode.Includes client) := by
    rw [← hidden client mem,insert_target,on_insert_apply stillConnected (clients ▸ mem)]
    exact or_iff_left_iff_imp
  simp only [insert_target] at shown
  simp only [insert_target,and_self,if_true,Option.some.injEq,exists_eq_left',forall_const]
  rw [forall₂_congr shown]
  cases mode with
  | Sender sender_entity =>
    simp only [ReplicationMode.Includes,KeepsTargets]
    constructor
    · intro holds isNew client mem differ
      by_contra visible
      exact differ (holds client mem ⟨⟨sender_entity,rfl⟩,isNew,by simpa using visible⟩).symm
    · rintro keeps client mem ⟨-,isNew,visible⟩
      by_contra differ
      rw [keeps isNew client mem (Ne.symm differ)] at visible
      cases visible
  | SingleServer target => simp [KeepsTargets]
  | Manual senders => simp [KeepsTargets]

/-- After a target is removed the marker that stays is hidden from every client. -/
theorem remove_target_followed {self : World E P} (followed : self.TargetsFollowed) (kind : TargetKind) (entity : E) :
    (self.remove_target kind entity).TargetsFollowed := by
  rw [remove_target]
  split_ifs with isTarget
  · intro k e marked client mem
    by_cases same : k = kind ∧ e = entity
    · obtain ⟨rfl,rfl⟩ := same
      have mem : client ∈ self.clients := mem
      have hidden := on_discard_hidden mem k.visibility_bit e
      simp [hidden]
    · have marked : self.marker k e = true := by
        simpa [show ¬(k = kind ∧ e = entity ∧ kind = .Replicate) from fun all => same ⟨all.1,all.2.1⟩] using marked
      simp only [if_neg same]
      rw [on_discard_frame self client.entity (other_bit same)]
      exact followed k e marked client mem
  · exact followed

omit [DecidableEq E] in
/-- The events of an owner are about another bit. -/
theorem controlled_by_followed {self : World E P} (followed : self.TargetsFollowed) {after : World E P}
    (clients : after.clients = self.clients) (marker : after.marker = self.marker) (target : after.target = self.target)
    (others : ∀ client e b, b ≠ .ControlBit → after.visibility client e b = self.visibility client e b) :
    after.TargetsFollowed := by
  intro kind entity marked client mem
  rw [others _ _ _ (by cases kind <;> decide),target]
  rw [marker] at marked
  rw [clients] at mem
  exact followed kind entity marked client mem

/-- What a client that joins finds: every bit, apart from the targets that exclude it by its remote id
and the entities of another owner. -/
structure Joined (world after : World E P) (entity : E) (remote_id : P) : Prop where
  new : ∀ client ∈ world.clients, client.entity ≠ entity ∧ client.remote_id ≠ remote_id
  clients : after.clients = world.clients ++ [⟨entity,remote_id⟩]
  target : after.target = world.target
  marker : after.marker = world.marker
  controlled_by : after.controlled_by = world.controlled_by
  controlled_send : after.controlled_send = world.controlled_send
  others : ∀ client e b, client ≠ entity → after.visibility client e b = world.visibility client e b
  targets : ∀ kind e, after.visibility entity e kind.visibility_bit = true ↔
    ∀ net_target, world.target kind e = some (.SingleServer net_target) → net_target.targets remote_id = true
  owners : ∀ e, after.visibility entity e .ControlBit = true ↔ ∀ owner, world.controlled_by e = some owner →
    owner = entity

theorem join_ok {self after : World E P} {entity : E} {remote_id : P}
    (joined : self.join PLACEHOLDER entity remote_id = some after) :
    entity ≠ PLACEHOLDER ∧ self.Joined after entity remote_id := by
  rw [join] at joined
  split_ifs at joined with taken
  simp only [List.any_eq_true,decide_eq_true_eq,not_or,not_exists,not_and] at taken
  cases joined
  have excludes (kind : TargetKind) (e : E) : self.excludes kind e remote_id = false ↔
      ∀ net_target, self.target kind e = some (.SingleServer net_target) → net_target.targets remote_id = true := by
    rw [World.excludes]
    cases self.target kind e with
    | none => simp
    | some mode => cases mode <;> simp
  refine ⟨taken.1,taken.2,rfl,rfl,rfl,rfl,rfl,fun client e b differ => ?_,fun kind e => ?_,fun e => ?_⟩
  · simp [handle_new_client_visibility,Visibilities.insert_default,differ]
  · rw [← excludes]
    cases kind <;> simp [handle_new_client_visibility,Visibilities.insert_default,TargetKind.visibility_bit,
      World.excludes]
  · cases owned : self.controlled_by e <;> simp [handle_new_client_visibility,Visibilities.insert_default,owned]

omit [DecidableEq E] in
theorem Joined.connected {self after : World E P} {entity : E} {remote_id : P}
    (joined : self.Joined after entity remote_id)
    (connected : self.Connected PLACEHOLDER) (isLink : entity ≠ PLACEHOLDER) : after.Connected PLACEHOLDER := by
  refine ⟨?_,?_,?_⟩
  · rw [joined.clients]
    intro client mem
    rcases List.mem_append.mp mem with mem | mem
    · exact connected.connected client mem
    · exact List.mem_singleton.mp mem ▸ isLink
  · rw [joined.clients,List.map_append,List.nodup_append']
    refine ⟨connected.entities,List.nodup_singleton _,?_⟩
    simpa [List.disjoint_singleton] using fun client mem => (joined.new client mem).1
  · rw [joined.clients,List.map_append,List.nodup_append']
    refine ⟨connected.remote_ids,List.nodup_singleton _,?_⟩
    simpa [List.disjoint_singleton] using fun client mem => (joined.new client mem).2

omit [DecidableEq E] in
/-- A join is followed just if the condition on the step holds. -/
theorem Joined.followed {self after : World E P} {entity : E} {remote_id : P}
    (joined : self.Joined after entity remote_id)
    (followed : self.TargetsFollowed) : after.TargetsFollowed ↔ self.KeepsTargets (.Join entity remote_id) := by
  have old (client : Client E P) (mem : client ∈ self.clients) (kind : TargetKind) (e : E) :
      after.visibility client.entity e kind.visibility_bit = self.visibility client.entity e kind.visibility_bit :=
    joined.others client.entity e kind.visibility_bit (joined.new client mem).1
  have newest (kind : TargetKind) (e : E) :
      (after.visibility entity e kind.visibility_bit = true ↔
        ∃ mode, self.target kind e = some mode ∧ mode.Includes ⟨entity,remote_id⟩) ↔
      ∃ mode, self.target kind e = some mode ∧
        ((∃ net_target, mode = .SingleServer net_target) ∨ mode.Includes ⟨entity,remote_id⟩) := by
    rw [joined.targets]
    cases self.target kind e with
    | none => simp
    | some mode => cases mode <;> simp [ReplicationMode.Includes]
  rw [TargetsFollowed,KeepsTargets,joined.clients,joined.marker,joined.target]
  refine forall₂_congr fun kind e => forall_congr' fun marked => ?_
  simp only [List.mem_append,List.mem_singleton,or_imp,forall_and,forall_eq]
  rw [newest]
  refine and_iff_right fun client mem => ?_
  rw [old client mem]
  exact followed kind e marked client mem

omit [DecidableEq P] in
private theorem controlled_by_added_frame (self : World E P) (entity owner client : E) {e : E} {b : FilterBit}
    (other : b ≠ .ControlBit) :
    self.controlled_by_added entity owner client e b = self.visibility client e b := by
  rw [controlled_by_added]
  generalize self.visibility = visibility
  induction self.senders generalizing visibility with
  | nil => rfl
  | cons sender rest ih =>
    rw [List.foldl_cons,ih,Visibilities.set,if_neg fun same => other same.2.2]

omit [DecidableEq P] in
private theorem controlled_by_discarded_frame (self : World E P) (entity owner client : E) {e : E} {b : FilterBit}
    (other : b ≠ .ControlBit) : self.controlled_by_discarded entity owner client e b = self.visibility client e b := by
  rw [controlled_by_discarded]
  split_ifs
  · rw [Visibilities.set,if_neg fun same => other same.2.2]
  · rfl

theorem step_connected {self after : World E P} {event : Event E P} (connected : self.Connected PLACEHOLDER)
    (stepped : self.step PLACEHOLDER event = some after) : after.Connected PLACEHOLDER := by
  have same {world : World E P} (clients : world.clients = self.clients) : world.Connected PLACEHOLDER :=
    ⟨clients ▸ connected.connected,clients ▸ connected.entities,clients ▸ connected.remote_ids⟩
  cases event with
  | Join entity remote_id =>
    obtain ⟨isLink,joined⟩ := join_ok stepped
    exact joined.connected connected isLink
  | InsertTarget kind entity mode =>
    cases stepped
    exact same rfl
  | RemoveTarget kind entity =>
    cases stepped
    refine same ?_
    rw [remove_target]
    split_ifs <;> rfl
  | InsertControlledBy entity owner =>
    cases stepped
    exact same rfl
  | RemoveControlledBy entity =>
    cases stepped
    refine same ?_
    rw [remove_controlled_by]
    split <;> rfl

theorem step_followed {self after : World E P} {event : Event E P} (connected : self.Connected PLACEHOLDER)
    (followed : self.TargetsFollowed) (stepped : self.step PLACEHOLDER event = some after) :
    after.TargetsFollowed ↔ self.KeepsTargets event := by
  cases event with
  | Join entity remote_id => exact (join_ok stepped).2.followed followed
  | InsertTarget kind entity mode =>
    cases stepped
    exact insert_target_followed connected followed kind entity mode
  | RemoveTarget kind entity =>
    cases stepped
    exact iff_of_true (remove_target_followed followed kind entity) trivial
  | InsertControlledBy entity owner =>
    cases stepped
    refine iff_of_true (controlled_by_followed followed rfl rfl rfl fun client e b differ => ?_) trivial
    rw [insert_controlled_by]
    cases self.controlled_by entity with
    | some previous => exact controlled_by_discarded_frame self entity previous client differ
    | none => exact controlled_by_added_frame self entity owner client differ
  | RemoveControlledBy entity =>
    cases stepped
    refine iff_of_true ?_ trivial
    rw [remove_controlled_by]
    cases self.controlled_by entity with
    | some owner =>
      exact controlled_by_followed followed rfl rfl rfl fun client e b differ =>
        controlled_by_discarded_frame self entity owner client differ
    | none => exact followed

end World

/-- While every step meets its condition a client sees the bit of a target just if the target includes
it, and the first step that does not meet it breaks this. -/
theorem targets_followed (PLACEHOLDER : E) (world : World E P)
    (reached : Runs.Reaches (World.step PLACEHOLDER)
      (fun world event _ => world.KeepsTargets event) World.start world) :
    world.TargetsFollowed ∧
      ∀ event after, world.step PLACEHOLDER event = some after →
        (after.TargetsFollowed ↔ world.KeepsTargets event) := by
  have holds : world.Connected PLACEHOLDER ∧ world.TargetsFollowed := by
    refine reached.invariant (fun world => world.Connected PLACEHOLDER ∧ world.TargetsFollowed) ?_ ?_
    · exact ⟨⟨fun _ mem => (nomatch mem),List.nodup_nil,List.nodup_nil⟩,fun _ _ marked => (nomatch marked)⟩
    · intro before event after inv stepped keeps
      exact ⟨World.step_connected inv.1 stepped,(World.step_followed inv.1 inv.2 stepped).mpr keeps⟩
  exact ⟨holds.2,fun event after stepped => World.step_followed holds.1 holds.2 stepped⟩

/-- Two clients, an entity for one of them, and a prediction target that lists the other. -/
theorem targets_followed_two : ∃ world : World Nat Nat,
    world.clients.length = 2 ∧ world.marker .Prediction 5 = true ∧ world.TargetsFollowed := by
  refine ⟨_,rfl,rfl,(targets_followed (0 : Nat) _ (.step (.InsertTarget .Prediction 5 (.Manual [2])) (.step (.Join 2 20)
    (.step (.InsertTarget .Replicate 5 (.SingleServer (.Single 10))) (.step (.Join 1 10) .start rfl ?_) rfl trivial) rfl
      ?_) rfl trivial)).1⟩
  · exact fun _ _ marked => absurd marked Bool.false_ne_true
  · intro kind e marked
    have same : kind = .Replicate ∧ e = 5 := by
      by_contra differ
      cases (if_neg differ).symm.trans marked
    obtain ⟨rfl,rfl⟩ := same
    exact ⟨_,rfl,.inl ⟨_,rfl⟩⟩

/-- A target for one sender does not hide the entity from the others; a client that joins later sees
an entity whose target lists another client, and the marker of a target that has been removed. -/
theorem targets_not_followed :
    (∃ world : World Nat Nat, Runs.Reaches (World.step 0) (fun _ _ _ => True) World.start world ∧
      world.marker .Replicate 5 = true ∧ ⟨2,20⟩ ∈ world.clients ∧ world.target .Replicate 5 = some (.Sender 1) ∧
      world.visibility 2 5 .ReplicateBit = true) ∧
    (∃ world : World Nat Nat, Runs.Reaches (World.step 0) (fun _ _ _ => True) World.start world ∧
      world.marker .Replicate 5 = true ∧ ⟨2,20⟩ ∈ world.clients ∧ world.target .Replicate 5 = some (.Manual [1]) ∧
      world.visibility 2 5 .ReplicateBit = true) ∧
    ∃ world : World Nat Nat, Runs.Reaches (World.step 0) (fun _ _ _ => True) World.start world ∧
      world.marker .Prediction 5 = true ∧ ⟨2,20⟩ ∈ world.clients ∧ world.target .Prediction 5 = none ∧
      world.visibility 2 5 .PredictedBit = true := by
  refine ⟨?_,?_,?_⟩
  · exact ⟨_,.step (.InsertTarget .Replicate 5 (.Sender 1))
      (.step (.Join 2 20) (.step (.Join 1 10) .start rfl trivial) rfl trivial)
      rfl trivial,rfl,List.mem_cons_of_mem _ (List.mem_singleton_self _),rfl,rfl⟩
  · exact ⟨_,.step (.Join 2 20)
      (.step (.InsertTarget .Replicate 5 (.Manual [1])) (.step (.Join 1 10) .start rfl trivial) rfl trivial)
      rfl trivial,rfl,List.mem_cons_of_mem _ (List.mem_singleton_self _),rfl,rfl⟩
  · exact ⟨_,.step (.Join 2 20)
      (.step (.RemoveTarget .Prediction 5) (.step (.InsertTarget .Prediction 5 (.Sender 1)) .start rfl trivial)
      rfl trivial) rfl trivial,rfl,List.mem_singleton_self _,rfl,rfl⟩

end Lightyear.Replication
