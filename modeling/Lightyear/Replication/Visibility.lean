import Lightyear.Connection.NetworkTarget
import Lightyear.Runs

/-!
What the clients of a started server see, `send.rs` and `control.rs`: the bits that are
written when a target or an owner is inserted, replaced or removed, and when a client joins.
-/
namespace Lightyear.Replication
open Connection

/-- The components that are a `ReplicationTarget`. -/
inductive TargetKind where
  | Replicate
  | Prediction
  | Interpolation
deriving DecidableEq, Repr

inductive FilterBit where
  | ReplicateBit
  | PredictedBit
  | InterpolatedBit
  | ControlBit
  | WhileVisible
  | AfterFirstVisibility
  | AlwaysPresent
deriving DecidableEq, Repr

def TargetKind.visibility_bit : TargetKind → FilterBit
  | .Replicate => .ReplicateBit
  | .Prediction => .PredictedBit
  | .Interpolation => .InterpolatedBit

/-- The `ClientVisibility` of each client: whether it sees the bit of an entity. -/
abbrev Visibilities (E : Type) : Type := E → E → FilterBit → Bool

namespace Visibilities
variable {E : Type} [DecidableEq E]

/-- `ClientVisibility::set` -/
def set (self : Visibilities E) (sender entity : E) (bit : FilterBit) (visible : Bool) : Visibilities E :=
  fun client e b => if client = sender ∧ e = entity ∧ b = bit then visible else self client e b

def set_each (self : Visibilities E) (senders : List E) (entity : E) (bit : FilterBit) (visible : Bool) :
    Visibilities E :=
  senders.foldl (fun self sender => self.set sender entity bit visible) self

/-- `ClientVisibility::default()` for one client. -/
def insert_default (self : Visibilities E) (sender : E) :
    Visibilities E := fun client e b => if client = sender then true else self client e b

@[simp]
theorem set_each_apply (self : Visibilities E) (senders : List E) (entity : E) (bit : FilterBit) (visible : Bool)
    (client e : E) (b : FilterBit) :
    self.set_each senders entity bit visible client e b =
      if client ∈ senders ∧ e = entity ∧ b = bit then visible else self client e b := by
  induction senders generalizing self with
  | nil => simp [set_each]
  | cons sender rest ih =>
    rw [set_each,List.foldl_cons,← set_each,ih,set]
    by_cases same : e = entity ∧ b = bit
    · by_cases isSender : client = sender <;> simp [same,isSender]
    · simp [same]

end Visibilities

/-- The modes of a target on a server. -/
inductive ReplicationMode (E P : Type) where
  | SingleServer (target : Target P)
  | Sender (sender_entity : E)
  | Manual (senders : List E)

/-- A client's link with its `RemoteId`, `ReplicationSender` and `ClientVisibility`. -/
structure Client (E P : Type) where
  entity : E
  remote_id : P

/-- The components that the visibility depends on: of each entity its targets, the markers that go
with them, its owner and the marker of an owner. -/
structure World (E P : Type) where
  clients : List (Client E P)
  target : TargetKind → E → Option (ReplicationMode E P)
  marker : TargetKind → E → Bool
  controlled_by : E → Option E
  controlled_send : E → Bool
  visibility : Visibilities E

inductive Event (E P : Type) where
  | Join (entity : E) (remote_id : P)
  | InsertTarget (kind : TargetKind) (entity : E) (mode : ReplicationMode E P)
  | RemoveTarget (kind : TargetKind) (entity : E)
  | InsertControlledBy (entity owner : E)
  | RemoveControlledBy (entity : E)

namespace World
variable {E P : Type} [DecidableEq E] [DecidableEq P] (PLACEHOLDER : E)

/-- A started server without clients. -/
def start : World E P := ⟨[],fun _ _ => none,fun _ _ => false,fun _ => none,fun _ => false,fun _ _ _ => true⟩

def senders (self : World E P) : List E := self.clients.map (·.entity)

/-- `NetworkingMetadata::peer_map` -/
def peer_map (self : World E P) (peer_id : P) : Option E := (self.clients.find? (·.remote_id = peer_id)).map (·.entity)

/-- `ReplicationTarget::on_insert` -/
def on_insert (self : World E P) (bit : FilterBit) (entity : E) (mode : ReplicationMode E P) : Visibilities E :=
  match mode with
  | .SingleServer target =>
    let hidden := self.visibility.set_each self.senders entity bit false
    hidden.set_each (target.apply_targets self.senders self.peer_map PLACEHOLDER) entity bit true
  | .Sender sender_entity =>
    if sender_entity ∈ self.senders then self.visibility.set sender_entity entity bit true else self.visibility
  | .Manual senders =>
    let hidden := self.visibility.set_each self.senders entity bit false
    hidden.set_each (senders.filter (· ∈ self.senders)) entity bit true

/-- The bit is hidden from every client when a target is replaced or removed. -/
def on_discard (self : World E P) (bit : FilterBit) (entity : E) :
    Visibilities E := self.visibility.set_each self.senders entity bit false

/-- A target that is there is discarded before another one is inserted. -/
def discard_target (self : World E P) (kind : TargetKind) (entity : E) : World E P :=
  if (self.target kind entity).isSome then {self with visibility := self.on_discard kind.visibility_bit entity}
    else self

/-- Inserts a target and the marker it requires. -/
def insert_target (self : World E P) (kind : TargetKind) (entity : E) (mode : ReplicationMode E P) : World E P :=
  {self with
    target := fun k e => if k = kind ∧ e = entity then some mode else self.target k e
    marker := fun k e => if k = kind ∧ e = entity then true else self.marker k e
    visibility := (self.discard_target kind entity).on_insert PLACEHOLDER kind.visibility_bit entity mode}

/-- Removes a target. `Replicating` goes with `Replicate`, and the other markers stay. -/
def remove_target (self : World E P) (kind : TargetKind) (entity : E) : World E P :=
  if (self.target kind entity).isSome then
    {self with
      target := fun k e => if k = kind ∧ e = entity then none else self.target k e
      marker := fun k e => if k = kind ∧ e = entity ∧ kind = .Replicate then false else self.marker k e
      visibility := self.on_discard kind.visibility_bit entity}
  else self

/-- `ControlledBy::on_insert`, for `Add` -/
def controlled_by_added (self : World E P) (entity owner : E) : Visibilities E :=
  self.senders.foldl (fun visibility sender => visibility.set sender entity .ControlBit (decide (sender = owner)))
    self.visibility

/-- `ControlledBy::on_discard` -/
def controlled_by_discarded (self : World E P) (entity owner : E) : Visibilities E :=
  if owner ∈ self.senders then self.visibility.set owner entity .ControlBit false else self.visibility

/-- Inserts the owner and the marker it requires. An owner that is replaced is discarded, and nothing
is added. -/
def insert_controlled_by (self : World E P) (entity owner : E) : World E P :=
  {self with
    controlled_by := fun e => if e = entity then some owner else self.controlled_by e
    controlled_send := fun e => if e = entity then true else self.controlled_send e
    visibility := match self.controlled_by entity with
      | some previous => self.controlled_by_discarded entity previous
      | none => self.controlled_by_added entity owner}

def remove_controlled_by (self : World E P) (entity : E) : World E P :=
  match self.controlled_by entity with
  | some owner =>
    {self with
      controlled_by := fun e => if e = entity then none else self.controlled_by e
      visibility := self.controlled_by_discarded entity owner}
  | none => self

/-- The entity has a target that goes by the remote id and is not for this one. -/
def excludes (self : World E P) (kind : TargetKind) (entity : E) (peer_id : P) : Bool :=
  match self.target kind entity with
  | some (.SingleServer net_target) => !net_target.targets peer_id
  | _ => false

/-- The bits of a new client for the entities that are there already. -/
def handle_new_client_visibility (self : World E P) (sender_entity : E) (peer_id : P) : Visibilities E :=
  let hides (entity : E) : FilterBit → Bool
    | .ReplicateBit => self.excludes .Replicate entity peer_id
    | .PredictedBit => self.excludes .Prediction entity peer_id
    | .InterpolatedBit => self.excludes .Interpolation entity peer_id
    | .ControlBit => (self.controlled_by entity).any (· ≠ sender_entity)
    | _ => false
  fun client entity bit => if client = sender_entity ∧ hides entity bit = true then false
    else self.visibility client entity bit

/-- A client with its remote id, which no other client has. -/
def join (self : World E P) (entity : E) (remote_id : P) : Option (World E P) :=
  if entity = PLACEHOLDER ∨ self.clients.any (fun client => client.entity = entity ∨ client.remote_id = remote_id) then
    none
  else
    let joined : World E P := {self with
      clients := self.clients ++ [⟨entity,remote_id⟩]
      visibility := self.visibility.insert_default entity}
    some {joined with visibility := joined.handle_new_client_visibility entity remote_id}

def step (self : World E P) : Event E P → Option (World E P)
  | .Join entity remote_id => self.join PLACEHOLDER entity remote_id
  | .InsertTarget kind entity mode => some (self.insert_target PLACEHOLDER kind entity mode)
  | .RemoveTarget kind entity => some (self.remove_target kind entity)
  | .InsertControlledBy entity owner => some (self.insert_controlled_by entity owner)
  | .RemoveControlledBy entity => some (self.remove_controlled_by entity)

end World
end Lightyear.Replication
