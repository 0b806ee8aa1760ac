import Lightyear.InputReplay

/-!
The inputs that are confirmed. An input that has come in a message stays in the buffer as
it is, as far as the buffer goes back: no later message, prediction or replay changes it.
-/
namespace Lightyear.Inputs
open Message InputBuffer
open EntityMap (Entity)
open Connection (NetworkTopology)

variable {Seq State S : Type}

/-- The input of a player for a tick has been received. -/
def Player.Confirmed (tick : Tick) (value : S) (player : Player State S) : Prop :=
  ∃ inputs ∈ player.inputs,inputs.input_buffer.get tick = some value ∧
    ∃ last ∈ inputs.input_buffer.last_remote_tick,tick ≤ last

/-- The buffer of a player goes back to a tick. -/
def Player.GoesBack (tick : Tick) (player : Player State S) : Prop :=
  ∃ inputs ∈ player.inputs,∃ start_tick ∈ inputs.input_buffer.start_tick,start_tick ≤ tick

def ClientEvent.is_shift : ClientEvent Seq State S → Bool
  | .shift _ => true
  | _ => false

-- Only the ticks that are there are tried, not every tick.
instance (tick : Tick) (player : Player State S) : Decidable (player.GoesBack tick) :=
  @Option.decidableExistsMem _ _ (fun _ => Option.decidableExistsMem _) player.inputs

section
variable [DecidableEq S]

instance (tick : Tick) (value : S) (player : Player State S) : Decidable (player.Confirmed tick value) :=
  @Option.decidableExistsMem _ _ (fun _ => @instDecidableAnd _ _ _ (Option.decidableExistsMem _)) player.inputs

/-- A regular step without a shift of the timeline, after which the buffer of an entity still goes back to a tick. -/
def Keeping (backend : ClientBackend Seq State S) (config : InputConfig) (entity : Entity) (tick : Tick)
    (before : InputClient Seq State S) (event : ClientEvent Seq State S) (after : InputClient Seq State S) : Prop :=
  Regular backend config before event after ∧ event.is_shift = false ∧
    ∀ player ∈ after.players,player.entity = entity → player.GoesBack tick

instance (backend : ClientBackend Seq State S) (config : InputConfig) (entity : Entity) (tick : Tick)
    (before : InputClient Seq State S) (event : ClientEvent Seq State S) (after : InputClient Seq State S) :
    Decidable (Keeping backend config entity tick before event after) :=
  inferInstanceAs (Decidable (_ ∧ _ ∧ _))

end

/-- An input was received, and is read as far as the buffer goes back. -/
private structure Settled (tick : Tick) (value : S) (input_buffer : InputBuffer S) : Prop where
  received : ∃ last ∈ input_buffer.last_remote_tick,tick ≤ last
  reads : ∀ start_tick ∈ input_buffer.start_tick,start_tick ≤ tick → input_buffer.get tick = some value

section
variable {input_buffer : InputBuffer S} {tick now : Tick} {value : S}

private theorem Settled.pop (settled : Settled tick value input_buffer) (bounded : Bounded input_buffer)
    {old_tick : Tick}
    (near : old_tick.toNat + 1 < HORIZON) : Settled tick value (input_buffer.pop old_tick).2 := by
  cases started : input_buffer.start_tick with
  | none =>
    simp only [InputBuffer.pop,started]
    exact settled
  | some start_tick =>
    by_cases before : old_tick < start_tick
    · simp only [InputBuffer.pop,started,if_pos before]
      exact settled
    · obtain ⟨buffer,popped,-⟩ := pop_inside_length bounded started (not_lt.mp before) near
      refine ⟨?_,fun first isFirst after => ?_⟩
      · rw [popped]
        exact settled.received
      · rw [popped] at isFirst
        obtain rfl := Option.some.inj isFirst
        have next := Tick.toNat_add_signed old_tick 1
        have later : old_tick < tick := by
          unfold HORIZON at near
          rw [Tick.le_iff] at after
          rw [Tick.lt_iff]
          omega
        have read := settled.reads start_tick started ((not_lt.mp before).trans later.le)
        obtain ⟨first,isFirst,-,stored⟩ := inside_of_get bounded read
        obtain rfl := Option.some.inj (started.symm.trans isFirst)
        refine (get_pop (bounded.fits (Nat.zero_le _)) later ?_).2.trans read
        rw [beyond_start (bounded.fits (Nat.zero_le _)) started]
        omega

variable [DecidableEq S]

/-- A tick without an input is set; the ticks that have one keep it. -/
private theorem set_kept (bounded : Bounded input_buffer) (positive : 0 < now.toNat) (near : now.toNat < HORIZON)
    (absent : input_buffer.get now = none) (value : S) {other : Tick} {input : S}
    (read : input_buffer.get other = some input) :
    (input_buffer.set now value).get other = some input := by
  obtain ⟨bounded',-,start,-,kept⟩ := set_reads bounded positive near value
  rcases lt_trichotomy other now with before | rfl | after
  · exact kept other before input read
  · exact absurd (read.symm.trans absent) (Option.some_ne_none input)
  · -- The tick is inside the buffer, where only its own entry changes.
    obtain ⟨start_tick,started,-,stored⟩ := inside_of_get bounded read
    rw [started,Option.getD_some] at start
    have fits := bounded.fits (Nat.zero_le _)
    have fits' := bounded'.fits (Nat.zero_le _)
    have raw : ∀ later : Tick,now < later → later.toNat < start_tick.toNat + input_buffer.buffer.length →
        (input_buffer.set now value).get_raw later = input_buffer.get_raw later := by
      intro later after within
      obtain ⟨entry,isSet⟩ : ∃ entry,input_buffer.set now value = input_buffer.set_raw now entry := by
        unfold InputBuffer.set
        split <;> exact ⟨_,rfl⟩
      obtain ⟨filled,inRange⟩ := bounded.room start_tick started
      rw [isSet] at fits' ⊢
      by_cases early : now < start_tick
      · simp only [set_raw,started,if_pos early]
      · have inside := (Tick.le_iff _ _).mp (not_lt.mp early)
        rw [Tick.lt_iff] at after
        unfold HORIZON at near inRange
        have last := last_tick_toNat filled (by omega) (by omega)
        have diff := diff_toNat inside (by omega)
        have written : input_buffer.set_raw now entry =
            {input_buffer with buffer := input_buffer.buffer.set (now.toNat - start_tick.toNat) entry} := by
          simp only [set_raw,started,Tick.lt_iff,last]
          rw [if_neg (by omega),if_neg (by omega),diff,Int.toNat_natCast]
        rw [written] at fits' ⊢
        rw [get_raw_eq fits' started,get_raw_eq fits started]
        dsimp only
        rw [List.getElem?_set_ne (by omega)]
    have steps : ∀ count,∀ later : Tick,later.toNat = now.toNat + count →
        later.toNat < start_tick.toNat + input_buffer.buffer.length → ∀ input,input_buffer.get later = some input →
          (input_buffer.set now value).get later = some input := by
      intro count
      induction count with
      | zero =>
        intro later same _ input read
        obtain rfl : later = now := BitVec.eq_of_toNat_eq same
        exact absurd (read.symm.trans absent) (Option.some_ne_none input)
      | succ count ih =>
        intro later place within input read
        have previous := Tick.toNat_sub later 1
        have next : later.toNat = (later.sub 1).toNat + 1 := by omega
        have isRaw := raw later (by rw [Tick.lt_iff]; omega) within
        rw [get_next next] at read ⊢
        rw [isRaw]
        cases entry : input_buffer.get_raw later with
        | Absent =>
          rw [entry] at read
          cases read
        | SameAsPrecedent =>
          rw [entry] at read
          exact ih (later.sub 1) (by omega) (by omega) input read
        | Input stored =>
          rw [entry] at read
          exact read
    rw [Tick.lt_iff] at after
    exact steps (other.toNat - now.toNat) other (by omega) stored input read

private theorem Settled.set (settled : Settled tick value input_buffer) (bounded : Bounded input_buffer)
    (positive : 0 < now.toNat)
    (near : now.toNat < HORIZON) (started : ∃ start_tick ∈ input_buffer.start_tick,start_tick ≤ tick)
    (absent : input_buffer.get now = none) (input : S) : Settled tick value (input_buffer.set now input) := by
  obtain ⟨start_tick,isStart,inside⟩ := started
  obtain ⟨-,remote,-⟩ := set_reads bounded positive near input
  refine ⟨remote ▸ settled.received,fun _ _ _ => ?_⟩
  exact set_kept bounded positive near absent input (settled.reads start_tick isStart inside)

private theorem Settled.update_buffer (settled : Settled tick value input_buffer) (bounded : Bounded input_buffer)
    (backend : ActionStateSequence Seq S) (states : Seq) {end_tick : Tick} (near : end_tick.toNat + 1 < HORIZON)
    (exist : backend.len states ≤ end_tick.toNat + 1)
    (fresh : ∀ last_remote_tick ∈ input_buffer.last_remote_tick,last_remote_tick < end_tick)
    (tick_duration : Duration) :
    Settled tick value (Inputs.update_buffer backend states input_buffer end_tick tick_duration).2 := by
  have fitting : Fitting input_buffer end_tick (backend.len states) :=
    ⟨bounded.fits (by omega),exist,by unfold HORIZON at near; omega,by unfold HORIZON at near; omega⟩
  rw [update_buffer_eq]
  rw [← backend.length_snapshots states tick_duration] at fitting ⊢
  generalize backend.get_snapshots_from_message states tick_duration = snapshots at *
  generalize backend.len states = len at *
  have spans := fitting.spans
  obtain ⟨last,isLast,atMost⟩ := settled.received
  refine ⟨⟨end_tick,rfl,atMost.trans (fresh last isLast).le⟩,fun start_tick started after => ?_⟩
  rw [get_remote]
  have unseen {later : Tick} (newer : Newer input_buffer later) : tick < later := atMost.trans_lt (newer last isLast)
  have early : ∀ mismatch ∈
    (run (backend.decay_tick · tick_duration) input_buffer (message_start end_tick snapshots.length)
      snapshots).earliest_mismatch,tick < mismatch := by
    intro mismatch isMismatch
    obtain ⟨delta,-,rfl,isFirst⟩ := (run_mismatch spans mismatch).mp isMismatch
    exact unseen isFirst.1
  rcases run_keeps (backend.decay_tick · tick_duration) spans early started after with ⟨⟨start,isStart,inside⟩,kept⟩ |
    ⟨-,newer⟩
  · exact kept value (settled.reads start isStart inside)
  · exact absurd after (unseen newer).not_ge

end

/-! ### Players -/

/-- What is settled for the players of an entity, which are remote. -/
private def Settles (entity : Entity) (tick : Tick) (value : S) (players : List (Player State S)) : Prop :=
  ∀ player ∈ players,player.entity = entity →
    player.marker = false ∧ ∃ inputs ∈ player.inputs,Settled tick value inputs.input_buffer

section
variable {entity : Entity} {tick now : Tick} {value : S} {players : List (Player State S)}

private theorem Settles.map (settles : Settles entity tick value players) {change : Player State S → Player State S}
    (same : ∀ player,(change player).entity = player.entity)
    (kept : ∀ player ∈ players,player.marker = false → ∀ inputs ∈ player.inputs,Settled tick value inputs.input_buffer →
      (change player).marker = false ∧ ∃ inputs ∈ (change player).inputs,Settled tick value inputs.input_buffer) :
    Settles entity tick value (players.map change) := by
  intro player isPlayer isEntity
  obtain ⟨before,member,rfl⟩ := List.mem_map.mp isPlayer
  obtain ⟨remote,inputs,isInputs,settled⟩ := settles before member ((same before).symm.trans isEntity)
  exact kept before member remote inputs isInputs settled

/-- Components are inserted only into other entities. -/
private theorem Settles.insert (settles : Settles entity tick value players)
    {commands : List (Entity × PlayerInputs State S)}
    (others : ∀ command ∈ commands,∀ player ∈ players,player.entity = entity → command.1 ≠ entity) :
    Settles entity tick value (commands.foldl InputClient.insert players) := by
  induction commands generalizing players with
  | nil => exact settles
  | cons command commands ih =>
    have same : ∀ player : Player State S,
        (if player.entity = command.1 then {player with inputs := some command.2} else player).entity =
          player.entity := by
      intro player
      split <;> rfl
    refine ih (fun player isPlayer isEntity => ?_) fun other member player isPlayer isEntity => ?_
    all_goals obtain ⟨before,stored,rfl⟩ := List.mem_map.mp isPlayer
    · rw [same] at isEntity
      have apart : before.entity ≠ command.1 := fun equal =>
        others command List.mem_cons_self before stored isEntity (equal.symm.trans isEntity)
      rw [if_neg apart]
      exact settles before stored isEntity
    · rw [same] at isEntity
      exact others other (List.mem_cons_of_mem _ member) before stored isEntity

variable [DecidableEq S] (backend : ClientBackend Seq State S) (tick_duration : Duration)

/-- What a fixed step does to the buffer of a remote player: a tick without an input is predicted. -/
private theorem remote_fixed_main (config : InputConfig) (frame : FixedTick State) (is_rollback : Bool) (now : Tick)
    {player : Player State S} (remote : player.marker = false) :
    ∃ change : PlayerInputs State S → PlayerInputs State S,
      (player.fixed_main backend config tick_duration frame is_rollback now).inputs = player.inputs.map change ∧
      (player.fixed_main backend config tick_duration frame is_rollback now).marker = false ∧
      ∀ inputs,(change inputs).input_buffer = inputs.input_buffer ∨
        inputs.input_buffer.get now = none ∧ ∃ input,(change inputs).input_buffer =
          inputs.input_buffer.set now input := by
  have buffered (player : Player State S) (remote : player.marker = false) :
      player.buffer_action_state backend frame is_rollback now = player := by
    unfold Player.buffer_action_state
    split
    · rfl
    · rw [if_neg (by simp [remote])]
  have read (player : Player State S) : ∃ change : PlayerInputs State S → PlayerInputs State S,
      player.get_action_state backend config tick_duration frame is_rollback now = player.map_inputs change ∧
      ∀ inputs,(change inputs).input_buffer = inputs.input_buffer ∨
        inputs.input_buffer.get now = none ∧ ∃ input,(change inputs).input_buffer =
          inputs.input_buffer.set now input := by
    have unchanged : player = player.map_inputs id := by
      rw [Player.map_inputs,Option.map_id_fun,id]
    unfold Player.get_action_state
    split
    · exact ⟨id,unchanged,fun _ => .inl rfl⟩
    · split
      · exact ⟨id,unchanged,fun _ => .inl rfl⟩
      · refine ⟨_,rfl,fun inputs => ?_⟩
        unfold PlayerInputs.get_action_state
        split
        · exact .inl rfl
        · split
          · exact .inl rfl
          · next absent =>
            split
            · exact .inr ⟨absent,_,rfl⟩
            · exact .inl rfl
  have simulated (player : Player State S) : (player.simulate backend now).inputs = player.inputs ∧
      (player.simulate backend now).marker = player.marker := by
    unfold Player.simulate
    split
    · exact ⟨rfl,rfl⟩
    · split <;> exact ⟨rfl,rfl⟩
  have delayed (player : Player State S) (remote : player.marker = false) :
      player.get_delayed_action_state backend frame is_rollback now = player := by
    unfold Player.get_delayed_action_state
    split
    · rfl
    · rw [if_neg (by simp [remote])]
  obtain ⟨change,isRead,changes⟩ := read (player.write frame)
  obtain ⟨inputs,marker⟩ := simulated ((player.write frame).map_inputs change)
  have executed : player.fixed_main backend config tick_duration frame is_rollback now =
      ((player.write frame).map_inputs change).simulate backend now := by
    unfold Player.fixed_main
    dsimp only
    rw [buffered (player.write frame) remote,isRead,delayed _ (marker.trans remote)]
  rw [executed]
  refine ⟨fun inputs => change {inputs with action_state := frame.write player.entity inputs.action_state},?_,
    marker.trans remote,
    fun inputs => changes _⟩
  rw [inputs,Player.inputs_map_inputs,Player.write,Player.inputs_map_inputs,Option.map_map]
  rfl

private theorem Settles.target {receiving : Receiving State S} (settles : Settles entity tick value receiving.players)
    (received : SoundSoFar now receiving) (p2p_link : Option Entity) {end_tick : Tick} {target_data : PerTargetData Seq}
    (near : end_tick.toNat + 1 < HORIZON) (exist : backend.len target_data.states ≤ end_tick.toNat + 1) :
    Settles entity tick value
      (receive_target backend tick_duration now p2p_link end_tick target_data receiving).players := by
  unfold receive_target
  cases target_entity p2p_link receiving.players target_data.target with
  | none => exact settles
  | some target =>
    dsimp only
    cases found : receiving.players.find? fun player => player.entity = target && !player.marker with
    | none => exact settles
    | some player =>
      obtain ⟨stored,rfl⟩ := find_target found
      dsimp only
      cases isInputs : player.inputs with
      | none => exact settles
      | some inputs =>
        dsimp only
        by_cases stale : inputs.input_buffer.last_remote_tick.any (end_tick ≤ ·) = true
        · rw [if_pos stale]
          exact settles
        · rw [if_neg stale]
          have fresh := fresh_of_not_stale stale
          refine settles.map (fun other => ?_) fun other member remote before isBefore settled => ?_
          · split <;> rfl
          · split
            · next same =>
              obtain rfl := List.inj_on_of_nodup_map received.apart member stored same
              obtain rfl := Option.some.inj (isInputs.symm.trans isBefore)
              have bounded := ((received.consistent other stored).agrees inputs isInputs).bounded
              refine ⟨remote,_,Option.mem_map_of_mem _ isInputs,?_⟩
              exact settled.update_buffer bounded backend.toActionStateSequence target_data.states near exist fresh
                tick_duration
            · exact ⟨remote,before,isBefore,settled⟩

end

/-! ### Runs -/

section
variable {client : InputClient Seq State S} {entity : Entity} {tick : Tick} {value : S}
variable [DecidableEq S] (backend : ClientBackend Seq State S) (config : InputConfig) (tick_duration : Duration)

private theorem Settles.receive (settles : Settles entity tick value client.players) (sound : Sound client)
    (topology : NetworkTopology)
    {messages : Entity → List (InputMessage Seq)}
    (sendable : ∀ link,∀ message ∈ messages link,Sendable backend message) :
    Settles entity tick value
      (client.receive_remote_player_input_messages backend config tick_duration topology messages).players := by
  unfold InputClient.receive_remote_player_input_messages
  cases InputRoute.from_topology topology with
  | none => exact settles
  | some route =>
    cases isManager : client.prediction_manager with
    | none => exact settles
    | some manager =>
      have received := receivers_keep backend tick_duration
        (fun receiving => SoundSoFar client.tick receiving ∧ Settles entity tick value receiving.players)
        (fun p2p_link _ _ _ near exist both => ⟨both.1.target backend tick_duration p2p_link near exist,
          both.2.target backend tick_duration both.1 p2p_link near exist⟩) sendable (InputClient.receivers config route)
        ⟨sound.so_far isManager,settles⟩
      dsimp only
      generalize (InputClient.receivers config route).foldl _ (⟨manager,client.players,[]⟩ : Receiving State S) =
        receiving at received ⊢
      obtain ⟨sofar,settles'⟩ := received
      refine settles'.insert fun command isCommand player isPlayer isEntity same => ?_
      obtain ⟨-,inputs,isInputs,-⟩ := settles' player isPlayer isEntity
      have empty := (sofar.inserted command isCommand).2 player isPlayer (isEntity.trans same.symm)
      exact absurd (isInputs.symm.trans empty) (Option.some_ne_none inputs)

private theorem Settles.fixed_main (settles : Settles entity tick value client.players) (sound : Sound client)
    {frame : FixedTick State}
    (applies : Applies config client frame)
    (started : ∀ player ∈ client.players,player.entity = entity → player.GoesBack tick) :
    Settles entity tick value (client.fixed_main backend config tick_duration frame).players := by
  have next := applies.next
  intro player isPlayer isEntity
  obtain ⟨before,member,rfl⟩ := List.mem_map.mp isPlayer
  have same : before.entity = entity := (Player.entity_fixed_main ..).symm.trans isEntity
  obtain ⟨remote,inputs,isInputs,settled⟩ := settles before member same
  obtain ⟨change,changed,marker,cases⟩ := remote_fixed_main backend tick_duration config frame client.rollback.isSome
    (client.tick.add_signed 1) remote
  refine ⟨marker,change inputs,changed ▸ Option.mem_map_of_mem change isInputs,?_⟩
  rcases cases inputs with same' | ⟨absent,input,isSet⟩
  · exact same' ▸ settled
  · have bounded := ((sound.consistent before member).agrees inputs isInputs).bounded
    obtain ⟨other,isOther,start⟩ := started before member same
    obtain rfl := Option.some.inj (isInputs.symm.trans isOther)
    have near := applies.near
    rw [isSet]
    exact settled.set bounded (by omega) (by omega) start absent input

omit [DecidableEq S] in
private theorem Settles.clean (settles : Settles entity tick value client.players) (sound : Sound client)
    (topology : NetworkTopology)
    (maximum_predicted_ticks : UInt16) :
    Settles entity tick value (client.clean_buffers topology maximum_predicted_ticks).players := by
  unfold InputClient.clean_buffers
  cases InputRoute.from_topology topology with
  | none => exact settles
  | some route =>
    dsimp only
    split
    · exact settles
    · refine settles.map (fun _ => rfl) fun player member remote inputs isInputs settled => ?_
      have bounded := ((sound.consistent player member).agrees inputs isInputs).bounded
      exact ⟨remote,_,Option.mem_map_of_mem _ isInputs,settled.pop bounded (sound.near_clean maximum_predicted_ticks)⟩

/-- One step. A new player of the entity has no inputs yet. -/
private theorem Settles.step (settles : Settles entity tick value client.players) (sound : Sound client)
    (started : ∀ player ∈ client.players,player.entity = entity → player.GoesBack tick)
    {event : ClientEvent Seq State S} {after : InputClient Seq State S}
    (executed : client.step backend config tick_duration event = some after)
    (keeping : Keeping backend config entity tick client event after) : Settles entity tick value after.players := by
  obtain ⟨regular,unshifted,starts⟩ := keeping
  cases event with
  | spawn player =>
    obtain ⟨isNew,rfl⟩ := (Option.ite_none_right_eq_some.mp executed).imp_right Option.some.inj
    intro stored isStored isEntity
    rcases List.mem_append.mp isStored with old | new
    · exact settles stored old isEntity
    · obtain rfl := List.mem_singleton.mp new
      obtain ⟨inputs,isInputs,start_tick,isStart,-⟩ := starts stored isStored isEntity
      simp only [InputClient.is_new,Bool.and_eq_true] at isNew
      have empty := isNew.2
      rw [Option.mem_def.mp isInputs,Option.all_some,decide_eq_true_eq] at empty
      rw [empty] at isStart
      exact absurd isStart (Option.not_mem_none start_tick)
  | despawn other =>
    obtain rfl := Option.some.inj executed
    exact fun player isPlayer => settles player (List.mem_filter.mp isPlayer).1
  | receive topology messages =>
    obtain ⟨-,rfl⟩ := (Option.ite_none_left_eq_some.mp executed).imp_right Option.some.inj
    refine settles.receive backend config tick_duration sound topology fun link message isMessage => ?_
    obtain ⟨sent,isSent,rfl⟩ := List.mem_map.mp isMessage
    exact regular sent (List.mem_filter.mp isSent).1
  | check_rollback rollback_tick =>
    obtain ⟨-,rfl⟩ := (Option.ite_none_left_eq_some.mp executed).imp_right Option.some.inj
    cases rollback_tick with
    | none => exact settles
    | some rollback_tick =>
      exact settles.map (fun _ => rfl) fun _ _ remote inputs isInputs settled => ⟨remote,inputs,isInputs,settled⟩
  | fixed_main frame =>
    obtain ⟨-,rfl⟩ := (Option.ite_none_right_eq_some.mp executed).imp_right Option.some.inj
    exact settles.fixed_main backend config tick_duration sound regular started
  | end_rollback =>
    obtain ⟨-,rfl⟩ := (Option.ite_none_right_eq_some.mp executed).imp_right Option.some.inj
    exact settles
  | prepare rounds topology input_delay =>
    dsimp only [InputClient.step] at executed
    split at executed
    · exact Option.some.inj executed ▸ settles
    · obtain ⟨message_buffer,rfl⟩ := prepare_changes backend config tick_duration rounds topology input_delay executed
      exact settles
  | shift delta => cases unshifted
  | clean topology maximum_predicted_ticks =>
    obtain ⟨-,rfl⟩ := (Option.ite_none_left_eq_some.mp executed).imp_right Option.some.inj
    exact settles.clean sound topology maximum_predicted_ticks
  | send =>
    obtain rfl := Option.some.inj executed
    exact settles

omit [DecidableEq S] in
private theorem Player.Confirmed.settled {player : Player State S} (confirmed : player.Confirmed tick value) :
    ∃ inputs ∈ player.inputs,Settled tick value inputs.input_buffer := by
  obtain ⟨inputs,isInputs,read,received⟩ := confirmed
  exact ⟨inputs,isInputs,received,fun _ _ _ => read⟩

/-- The input of another player for a tick is final when it has been received. In every run it stays in the buffer
as long as the buffer goes back to the tick, and the tick is simulated with it, except from a mismatch on that waits
for the rollback. -/
theorem confirmed_input_final {start tick : Tick} {value : S} {before after : InputClient Seq State S}
    (near : start.toNat < HORIZON)
    (reached : Runs.Reaches (InputClient.step backend config tick_duration) (Regular backend config)
      (.initial start) before)
    {player : Player State S} (isPlayer : player ∈ before.players) (remote : player.marker = false)
    (confirmed : player.Confirmed tick value)
    (later : Runs.Reaches (InputClient.step backend config tick_duration)
      (Keeping backend config player.entity tick) before after) :
    ∀ other ∈ after.players,other.entity = player.entity → other.Confirmed tick value ∧
      ∀ input,other.simulated_at tick = some input → (∀ mismatch ∈ after.mismatch,tick < mismatch) → input = value := by
  have initially := sound_reached backend config tick_duration near reached
  have kept : ∀ client event next,(Sound client ∧ ∀ other ∈ client.players,other.entity = player.entity →
      other.marker = false ∧ other.Confirmed tick value) → client.step backend config tick_duration event = some next →
        Keeping backend config player.entity tick client event next →
          Sound next ∧ ∀ other ∈ next.players,other.entity = player.entity →
            other.marker = false ∧ other.Confirmed tick value := by
    intro client event next both executed keeping
    obtain ⟨sound,holds⟩ := both
    have settles : Settles player.entity tick value client.players := fun other isOther same =>
      ⟨(holds other isOther same).1,(holds other isOther same).2.settled⟩
    have started : ∀ other ∈ client.players,other.entity = player.entity → other.GoesBack tick := by
      intro other isOther same
      obtain ⟨inputs,isInputs,read,-⟩ := (holds other isOther same).2
      obtain ⟨start_tick,isStart,inside,-⟩ :=
        inside_of_get ((sound.consistent other isOther).agrees inputs isInputs).bounded read
      exact ⟨inputs,isInputs,start_tick,isStart,inside⟩
    refine ⟨sound.step backend config tick_duration executed keeping.1,fun other isOther same => ?_⟩
    obtain ⟨remote,inputs,isInputs,settled⟩ :=
      settles.step backend config tick_duration sound started executed keeping other isOther same
    obtain ⟨inputs',isInputs',start_tick,isStart,inside⟩ := keeping.2.2 other isOther same
    obtain rfl := Option.some.inj (isInputs.symm.trans isInputs')
    exact ⟨remote,inputs,isInputs,settled.reads start_tick isStart inside,settled.received⟩
  obtain ⟨sound,holds⟩ := later.invariant _ ⟨initially,fun other isOther same =>
    List.inj_on_of_nodup_map initially.apart isOther isPlayer same ▸ ⟨remote,confirmed⟩⟩ kept
  intro other isOther same
  obtain ⟨-,confirmed⟩ := holds other isOther same
  refine ⟨confirmed,fun input isSimulated early => ?_⟩
  obtain ⟨inputs,isInputs,read,-⟩ := confirmed
  have agrees := (sound.consistent other isOther).agrees inputs isInputs
  obtain ⟨start_tick,isStart,inside,-⟩ := inside_of_get agrees.bounded read
  exact Option.some.inj ((agrees.reads tick input isSimulated early start_tick isStart inside).symm.trans read)

end

/-- A confirmed tick is simulated again in a rollback that a later message asks for. -/
theorem confirmed_input_final_replayed :
    ∃ before after : InputClient (NativeStateSequence Nat) (ActionState Nat) (ActionState Nat),
      ∃ player ∈ before.players,
      player.marker = false ∧ player.Confirmed 5 ⟨1⟩ ∧ after.tick = 7 ∧
        ∀ other ∈ after.players,other.entity = player.entity → other.Confirmed 5 ⟨1⟩ ∧
          ∀ input,other.simulated_at 5 = some input → (∀ mismatch ∈ after.mismatch,5 < mismatch) → input = ⟨1⟩ := by
  let config : InputConfig := ⟨5,0,false,true⟩
  let frame : FixedTick (ActionState Nat) := ⟨.Client 1,true,0,fun _ state => state⟩
  let message (end_tick : Tick) (states : List (Compressed Nat)) : Entity × InputMessage (NativeStateSequence Nat) :=
    (1,⟨end_tick,[⟨.Entity 9,⟨states⟩⟩]⟩)
  let ran := Runs.run (InputClient.step (NativeStateSequence.backend 0) config 1)
    (Regular (NativeStateSequence.backend 0) config)
    (.initial 4) [.spawn ⟨9,false,none,none,none,[]⟩,.receive (.Client 1) [message 5 [.Input 1]]]
  have isSome : ran.isSome = true := by decide +kernel
  have executed : ran = some (ran.getD (.initial 4)) := by
    obtain ⟨before,isBefore⟩ := Option.isSome_iff_exists.mp isSome
    rw [isBefore,Option.getD_some]
  have reached := Runs.reaches_of_run .start executed
  obtain ⟨player,isPlayer,isNine,remote,confirmed⟩ : ∃ player ∈ (ran.getD (.initial 4)).players,
      player.entity = 9 ∧ player.marker = false ∧ player.Confirmed 5 ⟨1⟩ := by decide +kernel
  obtain ⟨after,later,isTick⟩ := Runs.reaches_of_check (InputClient.step (NativeStateSequence.backend 0) config 1)
    (Keeping (NativeStateSequence.backend 0) config 9 5) (ran.getD (.initial 4)) (·.tick = 7)
    [.fixed_main frame,.fixed_main frame,.fixed_main frame,.receive (.Client 1) [message 7 [.Input 2,.SameAsPrecedent]],
      .check_rollback (some 4),.fixed_main frame,.fixed_main frame,.fixed_main frame,.end_rollback] (by decide +kernel)
  rw [← isNine] at later
  exact ⟨_,after,player,isPlayer,remote,confirmed,of_decide_eq_true isTick,
    confirmed_input_final _ config 1 (by decide) reached isPlayer remote confirmed later⟩

end Lightyear.Inputs
