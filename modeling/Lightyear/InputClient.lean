import Lightyear.InputDelivery
import Lightyear.Connection.NetworkTopology
import Lightyear.Prediction.Manager

/-!
The inputs of a client, `client.rs`. What the local players do is buffered for a later
tick and sent, and read from the buffer when its tick is simulated or replayed. What the
other players do comes in messages, and is predicted where none has come.
-/
namespace Lightyear.Inputs
open Message InputBuffer
open EntityMap (Entity)
open Connection (NetworkTopology)
open Prediction (PredictionManager RollbackMode)

inductive InputRoute where
  | ClientServer (link : Entity) (host_client : Bool)
  | P2P (links : List Entity)
deriving DecidableEq, Repr

namespace InputRoute

def from_topology : NetworkTopology → Option InputRoute
  | .Client link => some (.ClientServer link false)
  | .HostClient _ client => some (.ClientServer client true)
  | .P2P joined => some (.P2P joined)
  | .Undefined | .Server _ | .Invalid _ => none

def is_host_client : InputRoute → Bool
  | .ClientServer _ host_client => host_client
  | .P2P _ => false

def requires_prespawned_targets : InputRoute → Bool
  | .ClientServer .. => false
  | .P2P _ => true

/-- `controlled_by` is the owner of an entity. -/
def accepts_local_target (controlled_by : Option Entity) : InputRoute → Bool
  | .ClientServer link _ => controlled_by.all (· = link)
  | .P2P _ => true

end InputRoute

inductive InputTarget where
  | Entity (entity : Entity)
  | PreSpawned (hash : UInt64)
deriving DecidableEq, Repr

structure PreSpawned where
  hash : Option UInt64
  receiver : Option Entity
deriving DecidableEq, Repr

/-- The target of an input. The source panics if a peer has no hash for it. -/
def input_target (route : InputRoute) (entity : Entity) (pre_spawned : Option PreSpawned) : Option InputTarget :=
  match pre_spawned.bind PreSpawned.hash with
  | some hash => some (.PreSpawned hash)
  | none => if route.requires_prespawned_targets then none else some (.Entity entity)

def matches_prespawned_target (hash : UInt64) (p2p_link : Option Entity) (pre_spawned : PreSpawned) : Bool :=
  pre_spawned.hash == some hash && p2p_link.all (pre_spawned.receiver = some ·)

structure PerTargetData (Seq : Type) where
  target : InputTarget
  states : Seq

structure InputMessage (Seq : Type) where
  end_tick : Tick
  inputs : List (PerTargetData Seq)

structure InputConfig where
  packet_redundancy : UInt16
  send_interval : Duration
  ignore_rollbacks : Bool
  rebroadcast_inputs : Bool

/-- A backend with the states `State` of its actions, which can be set to a snapshot. -/
structure ClientBackend (Seq State S : Type) extends ActionStateSequence Seq S where
  to_snapshot : State → S
  from_snapshot : State → S → State
  base_value : State
  restores : ∀ state snapshot,to_snapshot (from_snapshot state snapshot) = snapshot

namespace NativeStateSequence

/-- A native state is its own snapshot. -/
def backend {A : Type} (base_value : A) : ClientBackend (NativeStateSequence A) (ActionState A) (ActionState A) where
  toActionStateSequence := native
  to_snapshot state := state
  from_snapshot _ snapshot := snapshot
  base_value := ⟨base_value⟩
  restores _ _ := rfl

end NativeStateSequence

/-- The components of a player. -/
structure PlayerInputs (State S : Type) where
  action_state : State
  input_buffer : InputBuffer S

/-- An entity of the client. The source does not keep with which inputs it was simulated. -/
structure Player (State S : Type) where
  entity : Entity
  marker : Bool
  controlled_by : Option Entity
  pre_spawned : Option PreSpawned
  inputs : Option (PlayerInputs State S)
  simulated : List (Tick × S)

/-- The input with which a tick was simulated last, for a tick that had one in the buffer. -/
def Player.simulated_at {State S : Type} (self : Player State S) (tick : Tick) : Option S := self.simulated.lookup tick

/-- The client; `rollback` is the tick at which a rollback that runs ends. -/
structure InputClient (Seq State S : Type) where
  tick : Tick
  rollback : Option Tick
  prediction_manager : Option PredictionManager
  players : List (Player State S)
  message_buffer : List (InputMessage Seq)

/-- What a fixed tick reads, and what the systems of the user make of the states before. -/
structure FixedTick (State : Type) where
  topology : NetworkTopology
  synced : Bool
  input_delay : UInt16
  write : Entity → State → State

variable {Seq State S : Type} [DecidableEq S]

section
variable (backend : ClientBackend Seq State S)

namespace PlayerInputs

/-- `buffer_action_state`, for one player. -/
def buffer_action_state (tick : Tick) (self : PlayerInputs State S) : PlayerInputs State S :=
  {self with input_buffer := self.input_buffer.set tick (backend.to_snapshot self.action_state)}

/-- `get_action_state`, for one player. Without an input for the tick a remote one decays, and is buffered. -/
def get_action_state (predicts : Bool) (tick_duration : Duration) (is_rollback : Bool) (input_delay : UInt16)
    (tick : Tick)
    (is_local : Bool) (self : PlayerInputs State S) : PlayerInputs State S :=
  if !is_rollback && is_local && input_delay == 0 then self
  else match self.input_buffer.get tick with
    | some snapshot => {self with action_state := backend.from_snapshot self.action_state snapshot}
    | none =>
      if !is_local && predicts then
        let snapshot := backend.decay_tick (backend.to_snapshot self.action_state) tick_duration
        ⟨backend.from_snapshot self.action_state snapshot,self.input_buffer.set tick snapshot⟩
      else self

/-- `get_delayed_action_state`, for one player. -/
def get_delayed_action_state (delayed_tick : Tick) (self : PlayerInputs State S) : PlayerInputs State S :=
  match self.input_buffer.get delayed_tick with
  | some delayed_action_state =>
    {self with action_state := backend.from_snapshot self.action_state delayed_action_state}
  | none => self

end PlayerInputs

namespace Player

def map_inputs (change : PlayerInputs State S → PlayerInputs State S) (self : Player State S) : Player State S :=
  {self with inputs := self.inputs.map change}

/-- What the user does to the state. -/
def write (frame : FixedTick State) (self : Player State S) : Player State S :=
  self.map_inputs fun inputs => {inputs with action_state := frame.write self.entity inputs.action_state}

/-- The delayed tick, `current_tick + input_delay`. -/
def delayed_tick (frame : FixedTick State) (tick : Tick) : Tick := tick.add_signed frame.input_delay.toNat

def buffer_action_state (frame : FixedTick State) (is_rollback : Bool) (tick : Tick) (self : Player State S) :
    Player State S :=
  match InputRoute.from_topology frame.topology with
  | none => self
  | some route =>
    if !is_rollback && frame.synced && self.marker && route.accepts_local_target self.controlled_by then
      self.map_inputs (PlayerInputs.buffer_action_state backend (delayed_tick frame tick))
    else self

def get_action_state (config : InputConfig) (tick_duration : Duration) (frame : FixedTick State) (is_rollback : Bool)
    (tick : Tick)
    (self : Player State S) : Player State S :=
  match InputRoute.from_topology frame.topology with
  | none => self
  | some route =>
    if route.is_host_client || is_rollback && config.ignore_rollbacks then self
    else
      self.map_inputs (PlayerInputs.get_action_state backend
        (config.rebroadcast_inputs || route.requires_prespawned_targets)
        tick_duration is_rollback frame.input_delay tick self.marker)

/-- The tick is simulated, with an input in the buffer or without one. -/
def simulate (tick : Tick) (self : Player State S) : Player State S :=
  match self.inputs with
  | none => self
  | some inputs =>
    if (inputs.input_buffer.get tick).isSome then
      {self with simulated := (tick,backend.to_snapshot inputs.action_state) :: self.simulated}
    else self

def get_delayed_action_state (frame : FixedTick State) (is_rollback : Bool) (tick : Tick) (self : Player State S) :
    Player State S :=
  match InputRoute.from_topology frame.topology with
  | none => self
  | some route =>
    if !is_rollback && frame.synced && frame.input_delay != 0 && self.marker && route.accepts_local_target
      self.controlled_by then
      self.map_inputs (PlayerInputs.get_delayed_action_state backend (delayed_tick frame tick))
    else self

/-- `FixedMain`: `WriteClientInputs`, `BufferClientInputs`, the simulation and `RestoreInputs`. -/
def fixed_main (config : InputConfig) (tick_duration : Duration) (frame : FixedTick State) (is_rollback : Bool)
    (tick : Tick)
    (self : Player State S) : Player State S :=
  let buffered := (self.write frame).buffer_action_state backend frame is_rollback tick
  let simulated := (buffered.get_action_state backend config tick_duration frame is_rollback tick).simulate backend tick
  simulated.get_delayed_action_state backend frame is_rollback tick

end Player

/-! ### Messages -/

/-- What a system has received so far; the components that are inserted come with its commands. -/
structure Receiving (State S : Type) where
  prediction_manager : PredictionManager
  players : List (Player State S)
  inserted : List (Entity × PlayerInputs State S)

/-- `EarliestMismatchedInput` with a mismatch at or before the current tick. -/
def record_mismatch (tick : Tick) (mismatch : Option Tick) (manager : PredictionManager) : PredictionManager :=
  match mismatch with
  | none => manager
  | some mismatch =>
    if manager.rollback_policy.input = .Check ∧ mismatch ≤ tick then
      {manager with earliest_mismatch_input := ⟨min mismatch manager.earliest_mismatch_input.tick,true⟩}
    else manager

/-- The local entity of a target. -/
def target_entity (p2p_link : Option Entity) (players : List (Player State S)) : InputTarget → Option Entity
  | .Entity entity => if p2p_link.isNone then some entity else none
  | .PreSpawned hash =>
    (players.find? fun player => player.pre_spawned.any (matches_prespawned_target hash p2p_link)).map Player.entity

/-- A state that starts with the latest input of a buffer. -/
def first_state (input_buffer : InputBuffer S) : State :=
  match input_buffer.get_last with
  | some last => backend.from_snapshot backend.base_value last
  | none => backend.base_value

variable (tick_duration : Duration) (tick : Tick) (p2p_link : Option Entity)

/-- The inputs of one target of a message. -/
def receive_target (end_tick : Tick) (target_data : PerTargetData Seq) (self : Receiving State S) : Receiving State S :=
  match target_entity p2p_link self.players target_data.target with
  | none => self
  | some entity =>
    match self.players.find? fun player => player.entity = entity && !player.marker with
    | none => self
    | some player =>
      match player.inputs with
      | some inputs =>
        if inputs.input_buffer.last_remote_tick.any (end_tick ≤ ·) then self
        else
          let (mismatch,input_buffer) :=
            update_buffer backend.toActionStateSequence target_data.states inputs.input_buffer end_tick tick_duration
          {self with
            prediction_manager := record_mismatch tick mismatch self.prediction_manager
            players := self.players.map fun other =>
              if other.entity = entity then other.map_inputs fun inputs => {inputs with input_buffer} else other}
      | none =>
        let (mismatch,input_buffer) :=
          update_buffer backend.toActionStateSequence target_data.states .default end_tick tick_duration
        {self with
          prediction_manager := record_mismatch tick mismatch self.prediction_manager
          inserted := self.inserted ++ [(entity,⟨first_state backend input_buffer,input_buffer⟩)]}

def receive_message (self : Receiving State S) (message : InputMessage Seq) : Receiving State S :=
  message.inputs.foldl
    (fun self target_data => receive_target backend tick_duration tick p2p_link message.end_tick target_data self) self

/-- `receive_remote_player_input_messages_from_receiver` -/
def receive_from_receiver (messages : List (InputMessage Seq)) (self : Receiving State S) : Receiving State S :=
  messages.foldl (receive_message backend tick_duration tick p2p_link) self

end

namespace InputClient

/-- The `insert` command. -/
def insert (players : List (Player State S)) (command : Entity × PlayerInputs State S) : List (Player State S) :=
  players.map fun player => if player.entity = command.1 then {player with inputs := some command.2} else player

section
variable (backend : ClientBackend Seq State S) (config : InputConfig) (tick_duration : Duration)

/-- The links whose messages are read, with the link that a target of a peer must belong to. -/
def receivers (config : InputConfig) : InputRoute → List (Entity × Option Entity)
  | .ClientServer link host_client => if host_client || !config.rebroadcast_inputs then [] else [(link,none)]
  | .P2P links => links.map fun link => (link,some link)

def receive_remote_player_input_messages (topology : NetworkTopology) (messages : Entity → List (InputMessage Seq))
    (self : InputClient Seq State S) : InputClient Seq State S :=
  match InputRoute.from_topology topology,self.prediction_manager with
  | some route,some prediction_manager =>
    let received := (receivers config route).foldl
      (fun received link => receive_from_receiver backend tick_duration self.tick link.2 (messages link.1) received)
      ⟨prediction_manager,self.players,[]⟩
    {self with
      prediction_manager := some received.prediction_manager
      players := received.inserted.foldl insert received.players}
  | _,_ => self

/-- The fixed step, which starts with the tick. -/
def fixed_main (frame : FixedTick State) (self : InputClient Seq State S) : InputClient Seq State S :=
  let tick := self.tick.add_signed 1
  {self with tick,players :=
    self.players.map (Player.fixed_main backend config tick_duration frame self.rollback.isSome tick)}

def input_history_depth (prediction_manager : Option PredictionManager) (maximum_predicted_ticks : UInt16) : Nat :=
  max ((prediction_manager.map fun manager =>
    (manager.rollback_policy.effective_max_rollback_ticks maximum_predicted_ticks).toNat + 1).getD 0) HISTORY_DEPTH

def clean_buffers (topology : NetworkTopology) (maximum_predicted_ticks : UInt16) (self : InputClient Seq State S) :
    InputClient Seq State S :=
  match InputRoute.from_topology topology with
  | none => self
  | some route =>
    if route.is_host_client then self
    else
      let old_tick := self.tick.sub (input_history_depth self.prediction_manager maximum_predicted_ticks)
      {self with players := self.players.map (Player.map_inputs fun inputs =>
        {inputs with input_buffer := (inputs.input_buffer.pop old_tick).2})}

def shift_input_buffer_ticks (delta : Int) (input_buffer : InputBuffer S) : InputBuffer S :=
  {input_buffer with
    start_tick := input_buffer.start_tick.map (·.add_signed delta)
    last_remote_tick := input_buffer.last_remote_tick.map (·.add_signed delta)}

/-- `receive_local_timeline_shift`, with the shift of the timeline. What was simulated keeps its place in the
timeline. -/
def receive_local_timeline_shift (delta : Int) (self : InputClient Seq State S) : InputClient Seq State S :=
  {self with
    tick := self.tick.add_signed delta
    players := self.players.map fun player =>
      { player.map_inputs fun inputs =>
        {inputs with input_buffer := shift_input_buffer_ticks delta inputs.input_buffer} with
        simulated := player.simulated.map fun (tick,input) => (tick.add_signed delta,input) }
    message_buffer := self.message_buffer.map fun message =>
      {message with end_tick := message.end_tick.add_signed delta}}

/-- The end of `check_rollback`, and `reset_input_rollback_tracker`. What was simulated after the rollback tick
is simulated again. -/
def check_rollback (rollback_tick : Option Tick) (self : InputClient Seq State S) : InputClient Seq State S :=
  let reset := {self with
    prediction_manager := self.prediction_manager.map ({· with earliest_mismatch_input := ⟨.MAX,false⟩})}
  match rollback_tick with
  | none => reset
  | some rollback_tick =>
    {reset with
      tick := rollback_tick
      rollback := some self.tick
      players := self.players.map fun player =>
        {player with simulated := player.simulated.filter (·.1 ≤ rollback_tick)}}

/-- The number of ticks of a message. -/
def num_ticks (config : InputConfig) (tick_duration : Duration) : Nat :=
  (config.send_interval / tick_duration + 1) * config.packet_redundancy.toNat

/-- The entry of a player in the message of a tick. There is no result if the source panics, or takes too
many rounds. -/
def target_data (rounds : Nat) (route : InputRoute) (tick : Tick) (player : Player State S) :
    Option (Option (PerTargetData Seq)) :=
  match player.inputs with
  | none => some none
  | some inputs =>
    if player.marker && route.accepts_local_target player.controlled_by then do
      let target ← input_target route player.entity player.pre_spawned
      let states ← backend.build_from_input_buffer rounds inputs.input_buffer (num_ticks config tick_duration) tick
      some (states.map (PerTargetData.mk target))
    else some none

/-- `prepare_input_message`, when the timer of the send interval is due. -/
def prepare_input_message (rounds : Nat) (topology : NetworkTopology) (input_delay : UInt16)
    (self : InputClient Seq State S) :
    Option (InputClient Seq State S) :=
  match InputRoute.from_topology topology with
  | none => some self
  | some route =>
    if route.is_host_client && !config.rebroadcast_inputs then some self
    else do
      let tick := self.tick.add_signed input_delay.toNat
      let inputs ← self.players.mapM (target_data backend config tick_duration rounds route tick)
      some {self with message_buffer := self.message_buffer ++ [⟨tick,inputs.reduceOption⟩]}

end
end InputClient
end Lightyear.Inputs
