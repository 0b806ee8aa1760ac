import Lightyear.Deterministic.CatchUpClient
import Lightyear.Snoc

/-!
The late join of a client, from both of its sides. Whatever the network drops, repeats or delays, the client takes part
in
the simulation once, from the tick at which the server has accepted it.
-/
namespace Lightyear.CatchUp
open Message
open EntityMap (Entity)
open Prediction (World PredictionRegistry Request check_rollback do_rollback)

/-- The events that a client has triggered for the observers of the application. -/
def triggered (outputs : List Output) : List CatchUpSnapshotReady := outputs.filterMap fun
  | .CatchUpSnapshotReady event => some event
  | _ => none

def requested (outputs : List Output) : List CatchUpRequest := outputs.filterMap fun
  | .CatchUpRequest request => some request
  | _ => none

@[simp] theorem triggered_append (outputs more : List Output) :
    triggered (outputs ++ more) = triggered outputs ++ triggered more :=
  List.filterMap_append

@[simp] theorem requested_append (outputs more : List Output) :
    requested (outputs ++ more) = requested outputs ++ requested more :=
  List.filterMap_append

@[simp] theorem triggered_rollbacks (requests : List Request) : triggered (requests.map .Rollback) = [] := by
  simp [triggered,List.filterMap_map]

@[simp] theorem requested_rollbacks (requests : List Request) : requested (requests.map .Rollback) = [] := by
  simp [requested,List.filterMap_map]

/-- A snapshot can be used in a frame: its tick is within the window of the prediction, every input up to it is
confirmed, and so is its checkpoint. -/
structure Usable (mode : CatchUpMode) {Kind : Type} {Component : Kind → Type} (frame : ClientFrame Kind Component)
    (ready : CatchUpSnapshotReady) : Prop where
  mode : mode ≠ .InputOnly
  reaches : Prediction.Reaches frame.rollback frame.world ready.server_tick
  received : frame.last_confirmed_input.received_for_all_clients = true
  covered : ready.server_tick ≤ frame.last_confirmed_input.get.getD frame.world.tick
  confirmed : frame.server_mutate_ticks ready.replicon_tick = true

variable {Kind : Type} {Component : Kind → Type}

/-- The client has not joined: it holds the snapshot if that was delivered, it has told the observers nothing, and it
sends no checksum while an entity is gated. -/
structure Awaiting (ready : CatchUpSnapshotReady) (delivered : Prop) (client : Client Kind Component) : Prop where
  completed : client.manager.completed = false
  idle : client.manager.activating_snapshot = none
  offered : delivered → client.manager.pending_snapshot = some ⟨ready.server_tick,ready.replicon_tick⟩ ∧
    ready.is_not_required = false
  unoffered : ¬delivered → client.manager.pending_snapshot = none
  silent : triggered client.outputs = []
  suppresses : client.gated ≠ [] → client.manager.suppresses_checksums = true
  requests : (requested client.outputs).length = client.manager.requests_sent
  few : client.manager.requests_sent ≤ CATCH_UP_MAX_REQUESTS

/-- What the observers of a run receive, each with the local tick of its frame. -/
def observed (frames : List (ClientFrame Kind Component)) : List (Tick × Received) :=
  frames.flatMap fun frame => frame.received.map (frame.world.tick,·)

/-- One event about each entity that is gated, with the local tick. -/
def local_events (received : List (Tick × Received)) : List CatchUpSnapshotReady := received.filterMap fun entry =>
  match entry.2 with
  | .CatchUpGated _ => some ⟨entry.1,entry.1⟩
  | .CatchUpSnapshotReady _ => none

theorem local_events_append (received more : List (Tick × Received)) :
    local_events (received ++ more) = local_events received ++ local_events more := List.filterMap_append

/-- The observers are told once about the event of the server, and after it once about each entity that is
gated `later`. Before the event there is the rollback to its snapshot. It is to an earlier tick if something
else has requested that. -/
structure Activated (sole : Prop) (ready : CatchUpSnapshotReady) (later : List (Tick × Received))
    (outputs : List Output) : Prop where
  told : triggered outputs = ready :: local_events later
  rolls : ready.is_not_required = false → ∃ first tick rest,
    outputs = first ++ .Rollback (.rollback_requested tick .FromState) :: .CatchUpSnapshotReady ready :: rest ∧
      triggered first = [] ∧ tick ≤ ready.server_tick ∧ (sole → tick = ready.server_tick)

/-- The client has joined: nothing is gated, and it sends its checksums. -/
structure Joined (sole : Prop) (ready : CatchUpSnapshotReady) (later : List (Tick × Received))
    (client : Client Kind Component) :
    Prop where
  completed : client.manager.completed = true
  idle : client.manager.activating_snapshot = none
  activated : Activated sole ready later client.outputs
  ungated : client.gated = []
  unsuppressed : client.manager.suppresses_checksums = false
  few : (requested client.outputs).length ≤ CATCH_UP_MAX_REQUESTS

section Observers
variable {ready : CatchUpSnapshotReady} {delivered sole : Prop} {later : List (Tick × Received)}
  {self : Client Kind Component}

theorem Activated.append {outputs more : List Output} (activated : Activated sole ready later outputs)
    {received : List (Tick × Received)}
    (isLocal : triggered more = local_events received) :
    Activated sole ready (later ++ received) (outputs ++ more) := by
  obtain ⟨told,rolls⟩ := activated
  refine ⟨by rw [triggered_append,told,isLocal,local_events_append,List.cons_append],fun required => ?_⟩
  obtain ⟨first,tick,rest,rfl,silent,le,same⟩ := rolls required
  exact ⟨first,tick,rest ++ more,by simp,silent,le,same⟩

theorem Joined.mono {other : Prop} (joined : Joined sole ready later self) (fewer : other → sole) :
    Joined other ready later self := by
  refine {joined with activated := ⟨joined.activated.told,fun required => ?_⟩}
  obtain ⟨first,tick,rest,isOutputs,silent,le,same⟩ := joined.activated.rolls required
  exact ⟨first,tick,rest,isOutputs,silent,le,fun alone => same (fewer alone)⟩

private theorem Awaiting.skips (waiting : Awaiting ready delivered self) (skipped : ready.is_not_required = true) :
    Joined sole ready [] (self.output (.CatchUpSnapshotReady ready)).complete_catch_up where
  completed := rfl
  idle := rfl
  activated := by
    refine ⟨?_,by simp [skipped]⟩
    rw [Client.complete_catch_up,Client.output,triggered_append,waiting.silent]
    rfl
  ungated := rfl
  unsuppressed := rfl
  few := by
    have few := waiting.requests ▸ waiting.few
    simpa [Client.output,Client.complete_catch_up,requested] using few

private theorem Awaiting.receive_ready (waiting : Awaiting ready delivered self)
    (required : ready.is_not_required = false) :
    Awaiting ready True (self.receive (.CatchUpSnapshotReady ready)) := by
  have held : (self.receive (.CatchUpSnapshotReady ready)) = {self with
      manager := {self.manager with pending_snapshot := some ⟨ready.server_tick,ready.replicon_tick⟩}} := by
    rw [Client.receive,Client.receive_catch_up_snapshot_ready,if_neg (by simp [waiting.completed]),
      if_neg (by simp [required])]
    by_cases before : delivered
    · obtain ⟨isPending,-⟩ := waiting.offered before
      rw [if_neg (by simp [isPending]),← isPending]
    · rw [if_pos (by simp [waiting.unoffered before])]
  rw [held]
  exact ⟨waiting.completed,waiting.idle,fun _ => ⟨rfl,required⟩,fun absent => absurd trivial absent,waiting.silent,
    waiting.suppresses,waiting.requests,waiting.few⟩

private theorem Awaiting.receive_gated (waiting : Awaiting ready delivered self) (entity : Entity) :
    Awaiting ready delivered (self.receive (.CatchUpGated entity)) := by
  rw [Client.receive,Client.on_receive_catchup_gated,if_neg (by simp [waiting.completed])]
  exact ⟨waiting.completed,waiting.idle,waiting.offered,waiting.unoffered,waiting.silent,fun _ => rfl,waiting.requests,
    waiting.few⟩

private theorem receive_world (self : Client Kind Component) (received : Received) :
    (self.receive received).world = self.world := by
  cases received with
  | CatchUpSnapshotReady event =>
    simp only [Client.receive,Client.receive_catch_up_snapshot_ready]
    split_ifs <;> rfl
  | CatchUpGated entity =>
    simp only [Client.receive,Client.on_receive_catchup_gated]
    split_ifs <;> rfl

private theorem receive_all_world (received : List Received) (self : Client Kind Component) :
    (received.foldl Client.receive self).world = self.world := by
  induction received generalizing self with
  | nil => rfl
  | cons first received ih => exact (ih _).trans (receive_world self first)

private theorem observe_world (frame : ClientFrame Kind Component) (self : Client Kind Component) :
    (self.observe frame).world = frame.world := receive_all_world _ _

/-- What is gated is reported, and the event of the server is not any more. -/
private theorem Joined.receive (joined : Joined sole ready later self) (received : Received) :
    Joined sole ready (later ++ [(self.world.tick,received)]) (self.receive received) := by
  cases received with
  | CatchUpSnapshotReady event =>
    simp only [Client.receive,Client.receive_catch_up_snapshot_ready,joined.completed,if_true]
    have silent : Activated sole ready (later ++ [(self.world.tick,.CatchUpSnapshotReady event)])
        (self.outputs ++ []) :=
      joined.activated.append rfl
    exact {joined with activated := by rwa [List.append_nil] at silent}
  | CatchUpGated entity =>
    simp only [Client.receive,Client.on_receive_catchup_gated,joined.completed,if_true]
    refine {joined with activated := joined.activated.append rfl,few := ?_}
    simpa [Client.output,requested] using joined.few

private theorem Joined.receive_all (joined : Joined sole ready later self) (received : List Received) :
    Joined sole ready (later ++ received.map (self.world.tick,·)) (received.foldl Client.receive self) := by
  induction received generalizing self later with
  | nil => simpa using joined
  | cons first received ih =>
    have rest := ih (joined.receive first)
    rw [receive_world] at rest
    simpa using rest

/-- What the observers of a frame make of a client that waits. It has joined from an event on that asks for nothing. -/
private theorem Awaiting.receive_all (waiting : Awaiting ready delivered self) {received : List Received}
    (only : ∀ event,.CatchUpSnapshotReady event ∈ received → event = ready) :
    ready.is_not_required = true ∧ (∃ waited rest,received = waited ++ .CatchUpSnapshotReady ready :: rest ∧
        .CatchUpSnapshotReady ready ∉ waited ∧
          Joined sole ready (rest.map (self.world.tick,·)) (received.foldl Client.receive self)) ∨
      ¬(.CatchUpSnapshotReady ready ∈ received ∧ ready.is_not_required = true) ∧
        Awaiting ready (delivered ∨ .CatchUpSnapshotReady ready ∈ received) (received.foldl Client.receive self) := by
  induction received generalizing self delivered with
  | nil => exact .inr ⟨by simp,by simpa using waiting⟩
  | cons first received ih =>
    cases first with
    | CatchUpSnapshotReady event =>
      obtain rfl := only event List.mem_cons_self
      cases required : event.is_not_required with
      | true =>
        refine .inl ⟨rfl,[],received,rfl,List.not_mem_nil,?_⟩
        have skips : self.receive (.CatchUpSnapshotReady event) =
            (self.output (.CatchUpSnapshotReady event)).complete_catch_up := by
          simp only [Client.receive,Client.receive_catch_up_snapshot_ready,waiting.completed,required,
            Bool.false_eq_true,if_false,
            if_true]
        rw [List.foldl_cons,skips]
        exact (waiting.skips required).receive_all received
      | false =>
        rcases ih (waiting.receive_ready required) fun event member => only event (List.mem_cons_of_mem _ member) with
          ⟨other,-⟩ | ⟨-,still⟩
        · simp [required] at other
        · exact .inr ⟨by simp,by simpa using still⟩
    | CatchUpGated entity =>
      rcases ih (waiting.receive_gated entity) fun event member => only event (List.mem_cons_of_mem _ member) with
        ⟨skipped,waited,rest,rfl,unseen,joined⟩ | still
      · refine .inl ⟨skipped,.CatchUpGated entity :: waited,rest,rfl,by simpa using unseen,?_⟩
        rwa [receive_world] at joined
      · exact .inr (by simpa using still)

end Observers

section Frames
variable {mode : CatchUpMode} {ready : CatchUpSnapshotReady} {delivered sole : Prop} {later : List (Tick × Received)}
  {self after : Client Kind Component} {frame : ClientFrame Kind Component}

/-- The client with the forced rollback to the snapshot. -/
private def forced (ready : CatchUpSnapshotReady) (self : Client Kind Component) : Client Kind Component :=
  {self with
    world := {self.world with
      state_metadata := (self.world.state_metadata.request_forced_rollback ready.server_tick).clear_mismatch_history}
    manager := {self.manager with
      pending_snapshot := none
      activating_snapshot := some ⟨ready.server_tick,ready.replicon_tick⟩}}

private theorem send_holding (holding : self.manager.pending_snapshot.isSome ∨ self.manager.activating_snapshot.isSome)
    (frame : ClientFrame Kind Component) : self.send frame = some self := by
  unfold Client.send Client.send_catchup_request
  cases frame.last_confirmed_input.get with
  | none => simp
  | some input_safe_tick => simp [holding]

/-- Nothing is sent, or one more request is. -/
private theorem send_cases (executed : self.send frame = some after) :
    after = self ∨ ∃ request,self.manager.requests_sent + 1 ≤ CATCH_UP_MAX_REQUESTS ∧
      after = {self.output (.CatchUpRequest request) with
        manager := {self.manager with
          requests_sent := self.manager.requests_sent + 1
          request_sent_at_tick := some self.world.tick
          suppress_checksums := true}} := by
  unfold Client.send Client.send_catchup_request at executed
  cases isTick : frame.last_confirmed_input.get with
  | none =>
    rw [isTick] at executed
    simp only [ite_self,Option.some.injEq] at executed
    exact .inl executed.symm
  | some input_safe_tick =>
    rw [isTick] at executed
    dsimp only at executed
    split_ifs at executed with synced completed unreceived holds early many
    all_goals cases executed
    · exact .inl rfl
    · exact .inl rfl
    · exact .inl rfl
    · exact .inl rfl
    · exact .inr ⟨_,not_lt.mp many,rfl⟩
    · exact .inl rfl

private theorem Awaiting.send (waiting : Awaiting ready delivered self) (executed : self.send frame = some after) :
    Awaiting ready delivered after ∧ after.world = self.world := by
  by_cases before : delivered
  · obtain rfl := Option.some.inj
      ((send_holding (.inl (by simp [(waiting.offered before).1])) frame).symm.trans executed)
    exact ⟨waiting,rfl⟩
  rcases send_cases executed with rfl | ⟨request,few,rfl⟩
  · exact ⟨waiting,rfl⟩
  · refine ⟨⟨waiting.completed,waiting.idle,waiting.offered,waiting.unoffered,?_,fun _ => rfl,?_,few⟩,rfl⟩
    · rw [Client.output,triggered_append,waiting.silent]
      rfl
    · rw [Client.output,requested_append,List.length_append,waiting.requests]
      rfl

/-- The system forces the rollback exactly if the snapshot was delivered and can be used. -/
private theorem Awaiting.trigger (waiting : Awaiting ready delivered self) (world : self.world = frame.world)
    (state_based : mode ≠ .InputOnly) :
    (delivered ∧ Usable mode frame ready) ∧ self.trigger frame = forced ready self ∨
      ¬(delivered ∧ Usable mode frame ready) ∧ Awaiting ready delivered (self.trigger frame) := by
  by_cases before : delivered
  swap
  · refine .inr ⟨fun usable => before usable.1,?_⟩
    have stays : self.trigger frame = self := by
      unfold Client.trigger Client.trigger_snapshot_rollback
      rw [if_neg (by simp [waiting.completed]),if_neg (by simp [waiting.idle]),waiting.unoffered before]
    rwa [stays]
  obtain ⟨isPending,-⟩ := waiting.offered before
  unfold Client.trigger Client.trigger_snapshot_rollback
  rw [if_neg (by simp [waiting.completed]),if_neg (by simp [waiting.idle]),isPending]
  simp only [world]
  split_ifs with ahead old unreceived uncovered unconfirmed
  · exact .inr ⟨fun usable => usable.2.reaches.1.not_gt ahead,waiting⟩
  · refine .inr ⟨fun usable => usable.2.reaches.2.not_gt old,?_⟩
    refine ⟨waiting.completed,waiting.idle,waiting.offered,waiting.unoffered,?_,waiting.suppresses,?_,waiting.few⟩
    · rw [Client.output,triggered_append,waiting.silent]
      rfl
    · rw [Client.output,requested_append,List.length_append,waiting.requests]
      rfl
  · exact .inr ⟨fun usable => by simp [usable.2.received] at unreceived,waiting⟩
  · exact .inr ⟨fun usable => usable.2.covered.not_gt uncovered,waiting⟩
  · exact .inr ⟨fun usable => by simp [usable.2.confirmed] at unconfirmed,waiting⟩
  · refine .inl ⟨⟨before,state_based,⟨not_lt.mp ahead,not_lt.mp old⟩,by simpa using unreceived,not_lt.mp uncovered,
      by simpa using unconfirmed⟩,?_⟩
    rw [forced,world]

private theorem Awaiting.catch_up (waiting : Awaiting ready delivered self) (world : self.world = frame.world)
    (executed : self.catch_up mode frame = some after) :
    (delivered ∧ Usable mode frame ready) ∧ after = forced ready self ∨
      ¬(delivered ∧ Usable mode frame ready) ∧ Awaiting ready delivered after := by
  unfold Client.catch_up CatchUpManager.initial_catchup_is_active at executed
  by_cases input_only : mode = .InputOnly
  · rw [if_neg (by simp [input_only])] at executed
    cases executed
    exact .inr ⟨fun usable => usable.2.mode input_only,waiting⟩
  rw [if_pos (by simp [input_only,waiting.completed])] at executed
  split_ifs at executed with request_first
  · obtain ⟨sent,isSent,rfl⟩ := Option.map_eq_some_iff.mp executed
    obtain ⟨still,same⟩ := waiting.send isSent
    rcases still.trigger (same.trans world) input_only with ⟨usable,triggers⟩ | waits
    · obtain rfl := Option.some.inj
        ((send_holding (.inl (by simp [(waiting.offered usable.1).1])) frame).symm.trans isSent)
      exact .inl ⟨usable,triggers⟩
    · exact .inr waits
  · rcases waiting.trigger world input_only with ⟨usable,triggers⟩ | ⟨unusable,still⟩
    · rw [triggers] at executed
      exact .inl ⟨usable,(Option.some.inj ((send_holding (.inr rfl) frame).symm.trans executed)).symm⟩
    · exact .inr ⟨unusable,(still.send executed).1⟩

variable [DecidableEq Kind] {registry : PredictionRegistry Kind Component}

private theorem Awaiting.check (waiting : Awaiting ready delivered self) :
    Awaiting ready delivered (self.check registry frame) := by
  refine ⟨waiting.completed,waiting.idle,waiting.offered,waiting.unoffered,?_,waiting.suppresses,?_,waiting.few⟩
  · simpa [Client.check] using waiting.silent
  · simpa [Client.check] using waiting.requests

private theorem Joined.check (joined : Joined sole ready later self) :
    Joined sole ready later (self.check registry frame) := by
  have silent : Activated sole ready (later ++ []) (self.check registry frame).outputs :=
    joined.activated.append (by simp [local_events])
  refine {joined with activated := by rwa [List.append_nil] at silent,few := ?_}
  simpa [Client.check] using joined.few

/-- A forced rollback is checked first. Unless it is granted, there is no frame. -/
private theorem activate_forced (waiting : Awaiting ready delivered self)
    (executed : ((forced ready self).check registry frame).activate = some after) :
    Joined (self.world.state_metadata.forced_rollback_tick = none) ready [] after := by
  obtain ⟨tick,isForced,le,same⟩ : ∃ tick,
      (forced ready self).world.state_metadata.forced_rollback_tick = some tick ∧ tick ≤ ready.server_tick ∧
        (self.world.state_metadata.forced_rollback_tick = none → tick = ready.server_tick) := by
    cases kept : self.world.state_metadata.forced_rollback_tick with
    | none => exact ⟨_,by simp [forced,Prediction.StateRollbackMetadata.request_forced_rollback,
        Prediction.StateRollbackMetadata.clear_mismatch_history,Prediction.earlier,kept],le_rfl,fun _ => rfl⟩
    | some existing =>
      by_cases before : ready.server_tick < existing
      · exact ⟨_,by simp [forced,Prediction.StateRollbackMetadata.request_forced_rollback,
          Prediction.StateRollbackMetadata.clear_mismatch_history,Prediction.earlier,kept,before],le_rfl,fun _ => rfl⟩
      · exact ⟨existing,by simp [forced,Prediction.StateRollbackMetadata.request_forced_rollback,
          Prediction.StateRollbackMetadata.clear_mismatch_history,Prediction.earlier,kept,before],not_lt.mp before,
            by simp⟩
  have isManager : ((forced ready self).check registry frame).manager = (forced ready self).manager := rfl
  have isOutputs : ((forced ready self).check registry frame).outputs =
      self.outputs ++ ((forced ready self).check registry frame).world.requests.map .Rollback := rfl
  have granted : ((forced ready self).check registry frame).world.requests = [.rollback_requested tick .FromState] ∨
      ((forced ready self).check registry frame).rollback = none := by
    unfold Client.rollback Client.check
    by_cases synced : frame.synced
    swap
    · exact .inr (by simp [synced])
    simp only [if_pos synced,check_rollback,isForced]
    rcases Prediction.do_rollback_cases frame.rollback tick .FromState _ with granted | ⟨request,rejected,other⟩
    · exact .inl (by rw [granted]; rfl)
    · rw [rejected]
      cases request with
      | rollback_requested tick kind => exact absurd rfl (other _ _)
      | rollback_rejected | input_rollback_rejected_before_floor => exact .inr rfl
  generalize (forced ready self).check registry frame = checked at executed isManager isOutputs granted
  have incomplete : checked.manager.completed = false := by rw [isManager]; exact waiting.completed
  have activating : checked.manager.activating_snapshot = some ⟨ready.server_tick,ready.replicon_tick⟩ := by
    rw [isManager]; rfl
  have asked : checked.manager.requests_sent = self.manager.requests_sent := by rw [isManager]; rfl
  unfold Client.activate at executed
  rw [if_pos (by simp [CatchUpManager.catchup_snapshot_is_activating,incomplete,activating])] at executed
  unfold Client.trigger_catch_up_snapshot_activation at executed
  rcases granted with requested | missing
  swap
  · simp [missing] at executed
  have rolls : checked.rollback = some .FromState := by
    rw [Client.rollback,requested]
    rfl
  rw [rolls] at executed
  dsimp only at executed
  rw [if_neg (by simp [incomplete]),activating] at executed
  obtain rfl := Option.some.inj executed
  have triggers : (checked.output (.CatchUpSnapshotReady ready)).outputs =
      self.outputs ++ [.Rollback (.rollback_requested tick .FromState),.CatchUpSnapshotReady ready] := by
    rw [Client.output,isOutputs,requested]
    simp
  have finishes : (checked.output (.CatchUpSnapshotReady ready)).finish_catch_up_snapshot_activation =
      Client.complete_catch_up {checked.output (.CatchUpSnapshotReady ready) with
        world := checked.deterministic_skip_despawn.foldl (fun world entry => Client.enable_rollback entry.2 world)
          checked.world
        deterministic_skip_despawn := []} := by
    unfold Client.finish_catch_up_snapshot_activation
    exact if_neg (by simp [Client.output,incomplete,activating])
  rw [show PendingCatchUpSnapshot.ready ⟨ready.server_tick,ready.replicon_tick⟩ = ready from rfl,finishes]
  refine ⟨rfl,rfl,⟨?_,fun _ => ⟨self.outputs,tick,[],?_,waiting.silent,le,same⟩⟩,rfl,rfl,?_⟩
  · rw [Client.complete_catch_up,triggers,triggered_append,waiting.silent]
    rfl
  · rw [Client.complete_catch_up,triggers]
  · rw [Client.complete_catch_up,triggers,requested_append,List.length_append,waiting.requests]
    exact waiting.few

/-- An event that was delivered is acted on at once if it asks for nothing, and otherwise in a frame that can use it. -/
def Acts (mode : CatchUpMode) (ready : CatchUpSnapshotReady) (delivered : Prop)
    (frame : ClientFrame Kind Component) : Prop :=
  delivered ∧ (ready.is_not_required = true ∨ Usable mode frame ready)

private theorem Joined.finish (joined : Joined sole ready later self)
    (executed : (do let self ← self.catch_up mode frame; (self.check registry frame).activate) = some after) :
    Joined sole ready later after := by
  have skipped : self.catch_up mode frame = some self :=
    if_neg (by simp [CatchUpManager.initial_catchup_is_active,joined.completed])
  have checked : Joined sole ready later (self.check registry frame) := joined.check
  have inactive : (self.check registry frame).activate = some (self.check registry frame) :=
    if_neg (by simp [CatchUpManager.catchup_snapshot_is_activating,checked.completed])
  simp only [skipped,Option.bind_eq_bind,Option.bind_some,inactive,Option.some.injEq] at executed
  exact executed ▸ checked

private theorem Joined.step (joined : Joined sole ready later self)
    (executed : self.step registry mode frame = some after) :
    Joined sole ready (later ++ observed [frame]) after := by
  have entered : Joined sole ready later
      {self with world := frame.world,deterministic_skip_despawn := frame.deterministic_skip_despawn} := {joined with}
  have received := (entered.receive_all frame.received).finish executed
  simpa [observed] using received

/-- What is observed in a frame after the client has joined in it. An event that asks for nothing is acted on by its
observer, before what it receives then. -/
def JoinsIn (ready : CatchUpSnapshotReady) (frame : ClientFrame Kind Component)
    (later : List (Tick × Received)) : Prop :=
  if ready.is_not_required then
    ∃ waited rest,frame.received = waited ++ .CatchUpSnapshotReady ready :: rest ∧
      .CatchUpSnapshotReady ready ∉ waited ∧
      later = rest.map (frame.world.tick,·)
  else later = []

/-- A frame of a client that waits. -/
private theorem Awaiting.step (waiting : Awaiting ready delivered self)
    (only : ∀ event,.CatchUpSnapshotReady event ∈ frame.received → event = ready)
    (executed : self.step registry mode frame = some after) :
    Acts mode ready (delivered ∨ .CatchUpSnapshotReady ready ∈ frame.received) frame ∧
      (∃ later,JoinsIn ready frame later ∧
        Joined (frame.world.state_metadata.forced_rollback_tick = none) ready later after) ∨
      ¬Acts mode ready (delivered ∨ .CatchUpSnapshotReady ready ∈ frame.received) frame ∧
        Awaiting ready (delivered ∨ .CatchUpSnapshotReady ready ∈ frame.received) after := by
  have entered : Awaiting ready delivered
      {self with world := frame.world,deterministic_skip_despawn := frame.deterministic_skip_despawn} := {waiting with}
  rcases entered.receive_all only with ⟨skipped,waited,rest,isReceived,unseen,joined⟩ | ⟨-,observed⟩
  · have delivers : .CatchUpSnapshotReady ready ∈ frame.received :=
      isReceived ▸ List.mem_append_right _ List.mem_cons_self
    refine .inl ⟨⟨.inr delivers,.inl skipped⟩,rest.map (frame.world.tick,·),?_,joined.finish executed⟩
    rw [JoinsIn,if_pos skipped]
    exact ⟨waited,rest,isReceived,unseen,rfl⟩
  obtain ⟨caught,isCaught,finished⟩ := Option.bind_eq_some_iff.mp executed
  have world := observe_world frame self
  rcases observed.catch_up world isCaught with ⟨⟨held,usable⟩,rfl⟩ | ⟨unusable,still⟩
  · refine .inl ⟨⟨held,.inr usable⟩,[],?_,?_⟩
    · rw [JoinsIn,if_neg (by simp [(observed.offered held).2])]
    · have joined := activate_forced observed finished
      rwa [show (List.foldl Client.receive _ frame.received).world = frame.world from world] at joined
  · refine .inr ⟨fun acts => ?_,?_⟩
    · rcases acts with ⟨held,skipped | usable⟩
      · simp [(observed.offered held).2] at skipped
      · exact unusable ⟨held,usable⟩
    · have checked : Awaiting ready _ (caught.check registry frame) := still.check
      have inactive : (caught.check registry frame).activate = some (caught.check registry frame) :=
        if_neg (by simp [CatchUpManager.catchup_snapshot_is_activating,checked.idle])
      rw [inactive] at finished
      exact Option.some.inj finished ▸ checked

end Frames

namespace Client
variable [DecidableEq Kind] (registry : PredictionRegistry Kind Component) (mode : CatchUpMode)

/-- A client that has just connected, with its last requests still to come. -/
def connected (world : World Kind Component) : Client Kind Component := ⟨.default,[],[],world,[]⟩

def run (self : Client Kind Component) (frames : List (ClientFrame Kind Component)) : Option (Client Kind Component) :=
  frames.foldlM (step registry mode) self

end Client

section Runs
variable [DecidableEq Kind] {registry : PredictionRegistry Kind Component} {mode : CatchUpMode}
  {ready : CatchUpSnapshotReady}
  {world : World Kind Component} {client : Client Kind Component}

def Delivered (ready : CatchUpSnapshotReady) (frames : List (ClientFrame Kind Component)) : Prop :=
  ∃ frame ∈ frames,.CatchUpSnapshotReady ready ∈ frame.received

/-- In one of the frames the client acts on the event. -/
def ActsIn (mode : CatchUpMode) (ready : CatchUpSnapshotReady) (frames : List (ClientFrame Kind Component)) : Prop :=
  ∃ before frame after,frames = before ++ frame :: after ∧ Acts mode ready (Delivered ready (before ++ [frame])) frame

/-- Nothing but the late join forces a rollback. -/
def Sole (frames : List (ClientFrame Kind Component)) : Prop :=
  ∀ frame ∈ frames,frame.world.state_metadata.forced_rollback_tick = none

/-- What is observed in a run after the client has joined: in the first frame in which it acts on the event, and in
the later ones. -/
def JoinsBefore (mode : CatchUpMode) (ready : CatchUpSnapshotReady) (frames : List (ClientFrame Kind Component))
    (later : List (Tick × Received)) : Prop :=
  ∃ before frame after rest,frames = before ++ frame :: after ∧ ¬ActsIn mode ready before ∧
    Acts mode ready (Delivered ready (before ++ [frame])) frame ∧ JoinsIn ready frame rest ∧
      later = rest ++ observed after

omit [DecidableEq Kind] in
private theorem JoinsBefore.acts {frames : List (ClientFrame Kind Component)} {later : List (Tick × Received)}
    (joins : JoinsBefore mode ready frames later) : ActsIn mode ready frames := by
  obtain ⟨before,frame,after,_,split,-,acts,-⟩ := joins
  exact ⟨before,frame,after,split,acts⟩

omit [DecidableEq Kind] in
private theorem JoinsBefore.snoc {frames : List (ClientFrame Kind Component)} {later : List (Tick × Received)}
    (joins : JoinsBefore mode ready frames later) (frame : ClientFrame Kind Component) :
    JoinsBefore mode ready (frames ++ [frame]) (later ++ observed [frame]) := by
  obtain ⟨before,place,after,rest,rfl,idle,acts,isPlace,rfl⟩ := joins
  exact ⟨before,place,after ++ [frame],rest,by simp,idle,acts,isPlace,by simp [observed]⟩

/-- Where a client can be in a run in which no other event is delivered to it. -/
private theorem run_joins {frames : List (ClientFrame Kind Component)}
    (only : ∀ frame ∈ frames,∀ event,.CatchUpSnapshotReady event ∈ frame.received → event = ready)
    (executed : (Client.connected world).run registry mode frames = some client) :
    (∃ later,JoinsBefore mode ready frames later ∧ Joined (Sole frames) ready later client) ∨
      ¬ActsIn mode ready frames ∧ Awaiting ready (Delivered ready frames) client := by
  induction frames using List.reverseRecOn generalizing client with
  | nil =>
    obtain rfl := Option.some.inj executed
    refine .inr ⟨?_,rfl,rfl,?_,fun _ => rfl,rfl,by simp [Client.connected],rfl,Nat.zero_le _⟩
    · rintro ⟨before,frame,after,split,-⟩
      simp at split
    · rintro ⟨frame,member,-⟩
      simp at member
  | append_singleton frames frame ih =>
    unfold Client.run at executed
    rw [List.foldlM_append] at executed
    obtain ⟨before,isBefore,last⟩ := Option.bind_eq_some_iff.mp executed
    replace last : before.step registry mode frame = some client := by simpa using last
    have grown : Delivered ready (frames ++ [frame]) ↔
        Delivered ready frames ∨ .CatchUpSnapshotReady ready ∈ frame.received := by
      simp [Delivered,or_and_right,exists_or]
    have acts (acted : ActsIn mode ready (frames ++ [frame])) :
        ActsIn mode ready frames ∨ Acts mode ready (Delivered ready (frames ++ [frame])) frame := by
      simp only [ActsIn,Snoc.split_snoc] at acted
      obtain ⟨front,place,back,⟨rest,rfl,split⟩ | ⟨rfl,rfl,rfl⟩,acted⟩ := acted
      · exact .inl ⟨front,place,rest,split,acted⟩
      · exact .inr acted
    have fewer : Sole (frames ++ [frame]) → Sole frames :=
      fun sole other member => sole other (List.mem_append_left _ member)
    rcases ih (fun other member => only other (List.mem_append_left _ member)) isBefore with ⟨later,joins,joined⟩ |
      ⟨idle,waiting⟩
    · exact .inl ⟨later ++ observed [frame],joins.snoc frame,(joined.step last).mono fewer⟩
    · rcases waiting.step (only frame (by simp)) last with ⟨acted,later,isLater,joined⟩ | ⟨still,waits⟩
      · refine .inl ⟨later,⟨frames,frame,[],later,rfl,idle,?_,isLater,by simp [observed]⟩,
          joined.mono fun sole => sole frame (by simp)⟩
        rwa [grown]
      · rw [grown]
        exact .inr ⟨fun acted => (acts acted).elim idle fun last => still (by rwa [grown] at last),waits⟩

end Runs

section LateJoin
variable [DecidableEq Kind] {registry : PredictionRegistry Kind Component} (mode : CatchUpMode)
  {world : World Kind Component}
  {client : Client Kind Component} {Link : Type} (clients : Link → ClientLink) (link : Link)
  {has_revealed_catchup_state no_caught_up_clients has_any_gated has_non_prespawn_gated : Bool}

/-- The network makes up no event. It may drop, repeat and delay those of the server. -/
def Relays (frames : List (Frame Link)) (client_frames : List (ClientFrame Kind Component)) : Prop :=
  ∀ frame ∈ client_frames,∀ event,.CatchUpSnapshotReady event ∈ frame.received → event ∈ (run clients frames link).sent

omit [DecidableEq Kind] in
/-- The event that a run is about, if any is delivered in it. -/
private theorem one_event
    (connects : clients link =
      mark_client_caught_up_if_no_gated_on_connect has_revealed_catchup_state no_caught_up_clients
      has_any_gated has_non_prespawn_gated) (frames : List (Frame Link))
        {client_frames : List (ClientFrame Kind Component)}
    (network : Relays clients link frames client_frames) :
    ∃ ready,(∀ frame ∈ client_frames,∀ event,.CatchUpSnapshotReady event ∈ frame.received → event = ready) ∧
      (ActsIn mode ready client_frames → (run clients frames link).sent = [ready] ∧
        (ready = .not_required ∨ Accepts (clients link) link frames ready)) ∧
      ∀ event ∈ (run clients frames link).sent,event = ready := by
  rcases sent_after_connect connects frames with unsent | ⟨ready,sent,accepted⟩
  · have none : ∀ frame ∈ client_frames,∀ event,.CatchUpSnapshotReady event ∉ frame.received :=
      fun frame member event received =>
      absurd (network frame member event received) (by simp [unsent])
    refine ⟨.not_required,fun frame member event received => absurd received (none frame member event),?_,
      by simp [unsent]⟩
    rintro ⟨before,frame,after,rfl,⟨other,member,received⟩,-⟩
    exact absurd received (none other (List.append_cons before frame after ▸ List.mem_append_left after member) _)
  · exact ⟨ready,fun frame member event received => List.mem_singleton.mp (sent ▸ network frame member event received),
      fun _ => ⟨sent,accepted⟩,fun event member => List.mem_singleton.mp (sent ▸ member)⟩

/-- Until a client has joined it tells the observers nothing, and it sends no checksum while an entity is gated. It
joins with the one event that the server has sent, after a rollback to the tick of the pass that accepted it. It tells
the observers once about this event, and then once about each entity that is gated after it has joined. -/
theorem late_join_activated_once
    (connects : clients link =
      mark_client_caught_up_if_no_gated_on_connect has_revealed_catchup_state no_caught_up_clients
      has_any_gated has_non_prespawn_gated) (frames : List (Frame Link))
        (client_frames : List (ClientFrame Kind Component))
    (network : Relays clients link frames client_frames)
    (executed : (Client.connected world).run registry mode client_frames = some client) :
    (client.manager.completed = false → triggered client.outputs = [] ∧
      (client.gated ≠ [] → client.manager.suppresses_checksums = true)) ∧
    (client.manager.completed = true → client.gated = [] ∧ client.manager.suppresses_checksums = false ∧
      ∃ ready later,(run clients frames link).sent = [ready] ∧
        (ready = .not_required ∨ Accepts (clients link) link frames ready) ∧
          JoinsBefore mode ready client_frames later ∧
        Activated (Sole client_frames) ready later client.outputs) ∧
    (requested client.outputs).length ≤ CATCH_UP_MAX_REQUESTS := by
  obtain ⟨ready,only,sent,-⟩ := one_event mode clients link connects frames network
  rcases run_joins only executed with ⟨later,joins,joined⟩ | ⟨-,waiting⟩
  · obtain ⟨isSent,accepted⟩ := sent joins.acts
    exact ⟨by simp [joined.completed],fun _ => ⟨joined.ungated,joined.unsuppressed,ready,later,isSent,accepted,joins,
      joined.activated⟩,joined.few⟩
  · exact ⟨fun _ => ⟨waiting.silent,waiting.suppresses⟩,by simp [waiting.completed],waiting.requests ▸ waiting.few⟩

end LateJoin

section Example

/-- A late join at tick 20: the server accepts the request for tick 5 in its pass at tick 9. -/
private def late : Unit → ClientLink := fun _ => mark_client_caught_up_if_no_gated_on_connect true false true true

private def passes : List (Frame Unit) := [⟨4,some ⟨4,true⟩,fun _ => [⟨5⟩]⟩,⟨9,some ⟨9,true⟩,fun _ => []⟩]

private def local_world : World Unit fun _ => Nat := ⟨20,.default,.default,[],[]⟩

private def client_frame (received : List Received) (input_safe_tick : Tick) : ClientFrame Unit fun _ => Nat :=
  ⟨local_world,[],true,received,⟨input_safe_tick,true⟩,fun replicon_tick => replicon_tick == 9,true,
    ⟨0,false,none,none,none,true⟩⟩

/-- The event comes twice. The inputs are confirmed up to its tick in the third frame. -/
private def joining : List (ClientFrame Unit fun _ => Nat) :=
  [client_frame [.CatchUpGated 1] 5,client_frame [.CatchUpSnapshotReady ⟨9,9⟩] 8,
    client_frame [.CatchUpSnapshotReady ⟨9,9⟩] 12,
    client_frame [.CatchUpGated 2] 12]

private theorem joining_network : Relays late () passes joining := by
  intro frame member event received
  have sent : (run late passes ()).sent = [⟨9,9⟩] := rfl
  rw [sent]
  simp only [joining,List.mem_cons,List.not_mem_nil,or_false] at member
  rcases member with rfl | rfl | rfl | rfl
  all_goals simp_all [client_frame]

private def predicted : PredictionRegistry Unit fun _ => Nat := ⟨[],fun _ _ _ => false⟩

private theorem joining_joins : ∃ client : Client Unit fun _ => Nat,
    (Client.connected local_world).run predicted .StateBasedCatchUp joining = some client ∧
      client.manager.completed = true :=
  Option.map_eq_some_iff.mp (by decide +kernel :
    ((Client.connected local_world).run predicted .StateBasedCatchUp joining).map (·.manager.completed) = some true)

/-- The entity that is gated in the last frame comes after the client has joined. -/
theorem late_join_activated_once_late : ∃ client : Client Unit fun _ => Nat,
    (Client.connected local_world).run predicted .StateBasedCatchUp joining = some client ∧ client.gated = [] ∧
      ∃ ready later,(run late passes ()).sent = [ready] ∧ JoinsBefore .StateBasedCatchUp ready joining later ∧
        Activated (Sole joining) ready later client.outputs := by
  obtain ⟨client,executed,completed⟩ := joining_joins
  obtain ⟨ungated,-,ready,later,sent,-,joins,activated⟩ :=
    (late_join_activated_once .StateBasedCatchUp late () rfl passes joining joining_network executed).2.1 completed
  exact ⟨client,executed,ungated,ready,later,sent,joins,activated⟩

end Example

end Lightyear.CatchUp
