import Lightyear.InputClient

/-!
The runs of the inputs on a client. Each tick is simulated, and after a rollback again,
with the input that the buffer has for it; a message that changes such an input records
a mismatch, and a rollback simulates the ticks from there on once more.
-/
namespace Lightyear.Inputs
open Message InputBuffer
open EntityMap (Entity)
open Connection (NetworkTopology)
open Prediction (PredictionManager)

variable {Seq State S : Type}

/-- What happens on a client: entities come and go, and its systems run. -/
inductive ClientEvent (Seq State S : Type) where
  | spawn (player : Player State S)
  | despawn (entity : Entity)
  | receive (topology : NetworkTopology) (messages : List (Entity × InputMessage Seq))
  | check_rollback (rollback_tick : Option Tick)
  | fixed_main (frame : FixedTick State)
  | end_rollback
  | prepare (rounds : Nat) (topology : NetworkTopology) (input_delay : UInt16)
  | shift (delta : Int)
  | clean (topology : NetworkTopology) (maximum_predicted_ticks : UInt16)
  | send

section
variable [DecidableEq S] (backend : ClientBackend Seq State S) (config : InputConfig) (tick_duration : Duration)

/-- The earliest mismatch that a manager records. -/
def recorded (manager : PredictionManager) : Option Tick :=
  if manager.earliest_mismatch_input.has_mismatches then some manager.earliest_mismatch_input.tick else none

namespace InputClient

/-- The components with which an entity is spawned. -/
def is_new (players : List (Player State S)) (player : Player State S) : Bool :=
  players.all (·.entity ≠ player.entity) && player.simulated.isEmpty && player.inputs.all (·.input_buffer = .default)

/-- While a rollback runs there are only fixed steps, up to the tick at which it ends. -/
def step (self : InputClient Seq State S) : ClientEvent Seq State S → Option (InputClient Seq State S)
  | .spawn player => if is_new self.players player then some {self with players := self.players ++ [player]} else none
  | .despawn entity => some {self with players := self.players.filter (·.entity ≠ entity)}
  | .receive topology messages =>
    if self.rollback.isSome then none
    else
      some (self.receive_remote_player_input_messages backend config tick_duration topology fun link =>
        (messages.filter (·.1 = link)).map Prod.snd)
  | .check_rollback rollback_tick =>
    if self.rollback.isSome || rollback_tick.any (self.tick < ·) then none else some (self.check_rollback rollback_tick)
  | .fixed_main frame =>
    if self.rollback.all (self.tick < ·) then some (self.fixed_main backend config tick_duration frame) else none
  | .end_rollback => if self.rollback = some self.tick then some {self with rollback := none} else none
  | .prepare rounds topology input_delay =>
    if self.rollback.isSome then some self
    else self.prepare_input_message backend config tick_duration rounds topology input_delay
  | .shift delta => if self.rollback.isSome then none else some (self.receive_local_timeline_shift delta)
  | .clean topology maximum_predicted_ticks =>
    if self.rollback.isSome then none else some (self.clean_buffers topology maximum_predicted_ticks)
  | .send => some {self with message_buffer := []}

/-- The earliest mismatch that is recorded. -/
def mismatch (self : InputClient Seq State S) : Option Tick := self.prediction_manager.bind recorded

/-- A client that starts at a tick, and checks the inputs that it receives. -/
def initial (tick : Tick) : InputClient Seq State S := ⟨tick,none,some .default,[],[]⟩

end InputClient

/-- The largest tick up to which no distance of ticks is cut off. -/
def HORIZON : Nat := 2 ^ 31 - 1

/-- The inputs of a tick are applied: there is a topology whose inputs they are, and those of a local player that are
not delayed are buffered as well. -/
structure Applies (client : InputClient Seq State S) (frame : FixedTick State) : Prop where
  near : client.tick.toNat + 1 + frame.input_delay.toNat < HORIZON
  route : ∃ route ∈ InputRoute.from_topology frame.topology,route.is_host_client = false ∧
    (client.rollback.isSome = true → config.ignore_rollbacks = false) ∧
    (client.rollback = none → frame.input_delay = 0 → ∀ player ∈ client.players,player.marker = true →
      frame.synced = true ∧ route.accepts_local_target player.controlled_by = true)

/-- The ticks of a message exist. -/
structure Sendable (message : InputMessage Seq) : Prop where
  near : message.end_tick.toNat + 1 < HORIZON
  exist : ∀ data ∈ message.inputs,backend.len data.states ≤ message.end_tick.toNat + 1

/-- A shift moves a tick by its whole distance. -/
def Moves (delta : Int) (tick : Nat) : Prop := 0 ≤ tick + delta ∧ tick + delta < HORIZON

/-- A shift moves a player with its ticks. -/
structure MovesPlayer (delta : Int) (player : Player State S) : Prop where
  simulated : ∀ entry ∈ player.simulated,Moves delta entry.1.toNat
  buffer : ∀ inputs ∈ player.inputs,∀ start_tick ∈ inputs.input_buffer.start_tick,
    Moves delta start_tick.toNat ∧ Moves delta (start_tick.toNat + inputs.input_buffer.buffer.length - 1)

/-- What has to hold of the steps: the inputs are applied, the ticks are in range, and a frame with a mismatch is rolled
back to before it. -/
def Regular (before : InputClient Seq State S) (event : ClientEvent Seq State S)
    (_after : InputClient Seq State S) : Prop :=
  match event with
  | .fixed_main frame => Applies config before frame
  | .receive _ messages => ∀ message ∈ messages,Sendable backend message.2
  | .check_rollback rollback_tick => ∀ mismatch ∈ before.mismatch,∃ tick ∈ rollback_tick,tick < mismatch
  | .shift delta =>
    before.mismatch = none ∧ Moves delta before.tick.toNat ∧ ∀ player ∈ before.players,MovesPlayer delta player
  | _ => True

instance (client : InputClient Seq State S) (frame : FixedTick State) : Decidable (Applies config client frame) :=
  decidable_of_iff (_ ∧ _) ⟨fun ⟨near,route⟩ => ⟨near,route⟩,fun applies => ⟨applies.near,applies.route⟩⟩

instance (message : InputMessage Seq) : Decidable (Sendable backend message) :=
  decidable_of_iff (_ ∧ _) ⟨fun ⟨near,exist⟩ => ⟨near,exist⟩,fun sendable => ⟨sendable.near,sendable.exist⟩⟩

instance (delta : Int) (tick : Nat) : Decidable (Moves delta tick) := inferInstanceAs (Decidable (_ ∧ _))

-- Only the ticks that are there are tried, not every tick.
instance (delta : Int) (inputs : PlayerInputs State S) : Decidable (∀ start_tick ∈ inputs.input_buffer.start_tick,
    Moves delta start_tick.toNat ∧ Moves delta (start_tick.toNat + inputs.input_buffer.buffer.length - 1)) :=
  Option.decidableForallMem _

instance (delta : Int) (player : Player State S) : Decidable (MovesPlayer delta player) :=
  decidable_of_iff (_ ∧ _) ⟨fun ⟨simulated,buffer⟩ => ⟨simulated,buffer⟩,fun moves => ⟨moves.simulated,moves.buffer⟩⟩

instance (before : InputClient Seq State S) (event : ClientEvent Seq State S) (after : InputClient Seq State S) :
    Decidable (Regular backend config before event after) :=
  match event with
  | .fixed_main frame => inferInstanceAs (Decidable (Applies config before frame))
  | .receive _ messages => inferInstanceAs (Decidable (∀ message ∈ messages,Sendable backend message.2))
  | .check_rollback rollback_tick =>
    @Option.decidableForallMem _ _ (fun _ => Option.decidableExistsMem rollback_tick) before.mismatch
  | .shift delta => inferInstanceAs (Decidable (before.mismatch = none ∧ Moves delta before.tick.toNat ∧
      ∀ player ∈ before.players,MovesPlayer delta player))
  | .spawn _ | .despawn _ | .end_rollback | .prepare .. | .clean .. | .send => .isTrue trivial

end

/-! ### Buffers -/

/-- A buffer whose ticks are in range. -/
structure Bounded (input_buffer : InputBuffer S) : Prop where
  unset : input_buffer.start_tick = none → input_buffer.buffer = []
  room : ∀ start_tick ∈ input_buffer.start_tick,0 < start_tick.toNat + input_buffer.buffer.length ∧
    start_tick.toNat + input_buffer.buffer.length ≤ HORIZON

section
variable {input_buffer : InputBuffer S} {start_tick tick other : Tick} {value : S}

theorem Bounded.fits (bounded : Bounded input_buffer) {limit : Nat} (near : limit ≤ HORIZON) :
    input_buffer.Fits limit := by
  refine ⟨bounded.unset,fun start_tick started => ?_⟩
  obtain ⟨positive,inRange⟩ := bounded.room start_tick started
  unfold HORIZON at *
  omega

theorem bounded_default :
    Bounded (.default : InputBuffer S) := ⟨fun _ => rfl,fun _ started => absurd started (Option.not_mem_none _)⟩

/-- A tick with an input is in the buffer. -/
theorem inside_of_get (bounded : Bounded input_buffer) (read : input_buffer.get tick = some value) :
    ∃ start_tick,input_buffer.start_tick = some start_tick ∧ start_tick ≤ tick ∧
      tick.toNat < start_tick.toNat + input_buffer.buffer.length := by
  cases started : input_buffer.start_tick with
  | none => exact absurd (read.symm.trans (get_of_unset started tick)) (Option.some_ne_none value)
  | some start_tick =>
    have fits := bounded.fits (Nat.zero_le _)
    rw [get_eq fits started] at read
    split at read
    · cases read
    · next inside =>
      refine ⟨start_tick,rfl,Nat.le_of_not_lt inside,?_⟩
      by_contra beyond
      rw [value_at,if_neg (by omega)] at read
      cases read

/-- How `set_raw` writes from the start of the buffer on. -/
private theorem set_raw_cases (bounded : Bounded input_buffer) (started : input_buffer.start_tick = some start_tick)
    (inside : start_tick ≤ tick) (near : tick.toNat < HORIZON) (entry : Compressed S) :
    ∃ buffer,input_buffer.set_raw tick entry = {input_buffer with buffer} ∧
      buffer.length = max input_buffer.buffer.length (tick.toNat - start_tick.toNat + 1) ∧
      buffer[tick.toNat - start_tick.toNat]? = some entry ∧
      ∀ index < tick.toNat - start_tick.toNat,value_at buffer index =
        if index < input_buffer.buffer.length then value_at input_buffer.buffer index
          else held input_buffer.buffer := by
  have fits := bounded.fits (le_refl HORIZON)
  obtain ⟨positive,inRange,short,-⟩ := fits.room start_tick started
  have last := last_tick_toNat positive inRange short
  rw [Tick.le_iff] at inside
  have length := length_upto input_buffer.buffer (tick.toNat - start_tick.toNat)
  by_cases after : start_tick.toNat + input_buffer.buffer.length ≤ tick.toNat
  · refine ⟨_,set_raw_after fits started after near entry,by simp; omega,?_,fun index before => ?_⟩
    · rw [List.getElem?_append_right length.le,length,Nat.sub_self]
      rfl
    · rw [value_at_append,if_neg (by omega),value_at_upto _ before]
  · have diff := diff_toNat inside (by unfold HORIZON at near; omega)
    refine ⟨input_buffer.buffer.set (tick.toNat - start_tick.toNat) entry,?_,by simp; omega,?_,fun index before => ?_⟩
    · simp only [set_raw,started,Tick.lt_iff,last]
      rw [if_neg (by omega),if_neg (by omega),diff,Int.toNat_natCast]
    · rw [List.getElem?_set_self (by omega)]
    · rw [if_pos (by omega),value_at,value_at,if_pos (by simp; omega),if_pos (by omega),List.take_set_of_le (by omega)]

variable [DecidableEq S]

/-- Setting a tick: its value is read unless it is before the buffer, and what is read before the tick stays. -/
theorem set_reads (bounded : Bounded input_buffer) (positive : 0 < tick.toNat) (near : tick.toNat < HORIZON)
    (value : S) :
    Bounded (input_buffer.set tick value) ∧ (input_buffer.set tick value).last_remote_tick =
      input_buffer.last_remote_tick ∧
      (input_buffer.set tick value).start_tick = some (input_buffer.start_tick.getD tick) ∧
      (∀ start_tick ∈ (input_buffer.set tick value).start_tick,start_tick ≤ tick →
        (input_buffer.set tick value).get tick = some value) ∧
      ∀ other < tick,∀ input,input_buffer.get other = some input →
        (input_buffer.set tick value).get other = some input := by
  have previous := Tick.toNat_sub tick 1
  cases started : input_buffer.start_tick with
  | none =>
    have absent : input_buffer.get (tick.sub 1) ≠ some value := by simp [get_of_unset started]
    have isSet : input_buffer.set tick value =
        {input_buffer with start_tick := some tick,buffer := [.Input value]} := by
      rw [InputBuffer.set,if_neg absent,set_raw_of_unset started,bounded.unset started,List.nil_append]
    rw [isSet]
    have bounded' : Bounded {input_buffer with start_tick := some tick,buffer := [.Input value]} := by
      refine ⟨fun unset => absurd unset (Option.some_ne_none tick),fun start_tick isStart => ?_⟩
      obtain rfl := Option.some.inj isStart
      simp only [List.length_singleton]
      omega
    refine ⟨bounded',rfl,rfl,fun _ _ _ => ?_,fun other before input read => ?_⟩
    · rw [get_eq (bounded'.fits (Nat.zero_le _)) rfl,if_neg (lt_irrefl _),Nat.sub_self]
      rfl
    · exact absurd (read.symm.trans (get_of_unset started other)) (Option.some_ne_none input)
  | some start_tick =>
    by_cases early : tick < start_tick
    · have isSet : input_buffer.set tick value = input_buffer := by
        unfold InputBuffer.set set_raw
        simp only [started,if_pos early,ite_self]
      rw [isSet,started]
      refine ⟨bounded,rfl,rfl,fun start' isStart within => ?_,fun _ _ _ read => read⟩
      obtain rfl := Option.some.inj isStart
      exact absurd within early.not_ge
    · have inside := not_lt.mp early
      have within := (Tick.le_iff _ _).mp inside
      obtain ⟨entry,isSet,isEntry⟩ : ∃ entry,input_buffer.set tick value = input_buffer.set_raw tick entry ∧
          (entry = .Input value ∨ entry = .SameAsPrecedent ∧ input_buffer.get (tick.sub 1) = some value) := by
        unfold InputBuffer.set
        split
        · next same => exact ⟨_,rfl,.inr ⟨rfl,same⟩⟩
        · exact ⟨_,rfl,.inl rfl⟩
      obtain ⟨buffer,written,length,stored,reads⟩ := set_raw_cases bounded started inside near entry
      have bounded' : Bounded {input_buffer with buffer} := by
        refine ⟨fun unset => absurd (started.symm.trans unset) (Option.some_ne_none start_tick),
          fun start' isStart => ?_⟩
        obtain rfl := Option.some.inj (started.symm.trans isStart)
        have := bounded.room start_tick started
        simp only [length]
        omega
      have fits := bounded.fits (Nat.zero_le _)
      have fits' := bounded'.fits (Nat.zero_le _)
      have kept : ∀ other < tick,∀ input,input_buffer.get other = some input →
          get {input_buffer with buffer} other = some input := by
        intro other before input read
        obtain ⟨start',isStart,after,stored⟩ := inside_of_get bounded read
        obtain rfl := Option.some.inj (started.symm.trans isStart)
        rw [Tick.lt_iff] at before
        rw [Tick.le_iff] at after
        rw [get_eq fits started,if_neg (by omega)] at read
        rw [get_eq fits' started,if_neg (by omega),reads _ (by omega),if_pos (by omega)]
        exact read
      rw [isSet,written]
      refine ⟨bounded',rfl,started,fun _ _ _ => ?_,kept⟩
      have next : tick.toNat = (tick.sub 1).toNat + 1 := by omega
      have raw : get_raw {input_buffer with buffer} tick = entry := by
        rw [get_raw_eq fits' started,if_neg (by omega)]
        simp only [stored,Option.getD_some]
      rw [get_next next,raw]
      rcases isEntry with rfl | ⟨rfl,same⟩
      · rfl
      · exact kept _ (by rw [Tick.lt_iff]; omega) _ same

end

/-! ### What was simulated -/

/-- What was simulated up to a tick is what the buffer has, before the earliest mismatch and as far as the buffer goes
back. If the buffer has no start, all of it was received. -/
structure Agrees (now : Tick) (mismatch : Option Tick) (simulated : Tick → Option S) (input_buffer : InputBuffer S) :
    Prop where
  bounded : Bounded input_buffer
  past : ∀ tick input,simulated tick = some input → tick ≤ now
  reads : ∀ tick input,simulated tick = some input → (∀ earliest ∈ mismatch,tick < earliest) →
    ∀ start_tick ∈ input_buffer.start_tick,start_tick ≤ tick → input_buffer.get tick = some input
  unset : input_buffer.start_tick = none → ∀ tick input,simulated tick = some input →
    (∀ earliest ∈ mismatch,tick < earliest) →
    ∃ last_remote_tick ∈ input_buffer.last_remote_tick,tick ≤ last_remote_tick

section
variable {now : Tick} {mismatch : Option Tick} {simulated : Tick → Option S} {input_buffer : InputBuffer S}

theorem agrees_new (now : Tick) (mismatch : Option Tick) {simulated : Tick → Option S}
    (never : ∀ tick,simulated tick = none)
    (bounded : Bounded input_buffer) : Agrees now mismatch simulated input_buffer := by
  have nothing {tick : Tick} {input : S} : simulated tick ≠ some input := by simp [never]
  exact ⟨bounded,fun _ _ read => absurd read nothing,fun _ _ read => absurd read nothing,
    fun _ _ _ read => absurd read nothing⟩

/-- A rollback to before the earliest mismatch. -/
theorem Agrees.rollback (agrees : Agrees now mismatch simulated input_buffer) {rollback_tick : Tick}
    (before : ∀ earliest ∈ mismatch,rollback_tick < earliest) {kept : Tick → Option S}
    (filtered : ∀ tick input,kept tick = some input → simulated tick = some input ∧ tick ≤ rollback_tick) :
    Agrees rollback_tick none kept input_buffer := by
  have early {tick : Tick} {input : S} (read : kept tick = some input) : ∀ earliest ∈ mismatch,tick < earliest :=
    fun earliest isEarliest => (filtered tick input read).2.trans_lt (before earliest isEarliest)
  exact ⟨agrees.bounded,fun tick input read => (filtered tick input read).2,
    fun tick input read _ => agrees.reads tick input (filtered tick input read).1 (early read),
    fun unset tick input read _ => agrees.unset unset tick input (filtered tick input read).1 (early read)⟩

/-- A tick is simulated with what the buffer has for it. -/
theorem Agrees.simulate (agrees : Agrees now mismatch simulated input_buffer) {tick : Tick} (later : now < tick)
    {input : S}
    (read : input_buffer.get tick = some input) :
    Agrees tick mismatch (Function.update simulated tick (some input)) input_buffer := by
  have before {other : Tick} {input' : S} (isSimulated : simulated other = some input') : other ≠ tick :=
    ((agrees.past other input' isSimulated).trans_lt later).ne
  obtain ⟨start_tick,started,-⟩ := inside_of_get agrees.bounded read
  refine ⟨agrees.bounded,fun other input' isSimulated => ?_,fun other input' isSimulated early => ?_,fun unset => ?_⟩
  · by_cases same : other = tick
    · exact same.le
    · rw [Function.update_of_ne same] at isSimulated
      exact (agrees.past other input' isSimulated).trans later.le
  · by_cases same : other = tick
    · subst same
      rw [Function.update_self] at isSimulated
      exact fun _ _ _ => read.trans isSimulated
    · rw [Function.update_of_ne same] at isSimulated
      exact agrees.reads other input' isSimulated early
  · exact absurd (started.symm.trans unset) (Option.some_ne_none start_tick)

theorem Agrees.later (agrees : Agrees now mismatch simulated input_buffer) {tick : Tick} (later : now ≤ tick) :
    Agrees tick mismatch simulated input_buffer :=
  ⟨agrees.bounded,fun other input read => (agrees.past other input read).trans later,agrees.reads,agrees.unset⟩

/-- What a removal leaves of a buffer that starts early enough. -/
theorem pop_inside_length (bounded : Bounded input_buffer) {start_tick old_tick : Tick}
    (started : input_buffer.start_tick = some start_tick) (inside : start_tick ≤ old_tick)
    (near : old_tick.toNat + 1 < HORIZON) :
    ∃ buffer,(input_buffer.pop old_tick).2 = {input_buffer with start_tick := some (old_tick.add_signed 1),buffer} ∧
      buffer.length = input_buffer.buffer.length - (old_tick.toNat + 1 - start_tick.toNat) := by
  obtain ⟨positive,inRange⟩ := bounded.room start_tick started
  have next := Tick.toNat_add_signed old_tick 1
  have within := (Tick.le_iff _ _).mp inside
  unfold HORIZON at near inRange
  have last := last_tick_toNat positive (by omega) (by omega)
  have diff : (old_tick.add_signed 1).diff start_tick = ((old_tick.add_signed 1).toNat - start_tick.toNat : Nat) :=
    diff_toNat (by omega) (by omega)
  by_cases beyond : last_tick start_tick input_buffer.buffer.length < old_tick
  · refine ⟨[],by simp only [InputBuffer.pop,started,if_neg inside.not_gt,if_pos beyond],?_⟩
    rw [Tick.lt_iff,last] at beyond
    rw [List.length_nil]
    omega
  · refine ⟨_,by simp only [InputBuffer.pop,started,if_neg inside.not_gt,if_neg beyond]; rfl,?_⟩
    rw [length_resumed,List.length_drop,diff]
    omega

/-- The ticks up to one are removed. -/
theorem Agrees.pop (agrees : Agrees now mismatch simulated input_buffer) {old_tick : Tick}
    (near : old_tick.toNat + 1 < HORIZON) :
    Agrees now mismatch simulated (input_buffer.pop old_tick).2 := by
  have next := Tick.toNat_add_signed old_tick 1
  cases started : input_buffer.start_tick with
  | none =>
    simp only [InputBuffer.pop,started]
    exact agrees
  | some start_tick =>
    by_cases before : old_tick < start_tick
    · simp only [InputBuffer.pop,started,if_pos before]
      exact agrees
    · have inside := not_lt.mp before
      obtain ⟨positive,inRange⟩ := agrees.bounded.room start_tick started
      obtain ⟨buffer,popped,length⟩ := pop_inside_length agrees.bounded started inside near
      have reads := @get_pop S input_buffer (agrees.bounded.fits (Nat.zero_le _)) old_tick
      rw [Tick.le_iff] at inside
      unfold HORIZON at near inRange
      rw [popped] at reads ⊢
      refine ⟨⟨fun unset => absurd unset (Option.some_ne_none _),fun first isFirst => ?_⟩,agrees.past,
        fun tick input isSimulated early first isFirst after => ?_,fun unset => absurd unset (Option.some_ne_none _)⟩
      · obtain rfl := Option.some.inj isFirst
        simp only [length]
        unfold HORIZON
        omega
      · obtain rfl := Option.some.inj isFirst
        rw [Tick.le_iff] at after
        have read := agrees.reads tick input isSimulated early start_tick started (by rw [Tick.le_iff]; omega)
        obtain ⟨first,isFirst,-,stored⟩ := inside_of_get agrees.bounded read
        obtain rfl := Option.some.inj (started.symm.trans isFirst)
        refine (reads (by rw [Tick.lt_iff]; omega) ?_).2.trans read
        rw [beyond_start (agrees.bounded.fits (Nat.zero_le _)) started]
        omega

variable [DecidableEq S]

/-- A tick to come is set. -/
theorem Agrees.set (agrees : Agrees now mismatch simulated input_buffer) {tick : Tick} (later : now < tick)
    (near : tick.toNat < HORIZON)
    (value : S) : Agrees now mismatch simulated (input_buffer.set tick value) := by
  have positive : 0 < tick.toNat := by
    rw [Tick.lt_iff] at later
    omega
  obtain ⟨bounded,-,start,-,kept⟩ := set_reads agrees.bounded positive near value
  refine ⟨bounded,agrees.past,fun other input isSimulated early first isFirst after => ?_,fun unset => ?_⟩
  · have before := (agrees.past other input isSimulated).trans_lt later
    obtain rfl := Option.some.inj (start.symm.trans isFirst)
    refine kept other before input ?_
    cases started : input_buffer.start_tick with
    | none =>
      rw [started] at after
      exact absurd after before.not_ge
    | some start_tick =>
      rw [started] at after
      exact agrees.reads other input isSimulated early start_tick started after
  · exact absurd (start.symm.trans unset) (Option.some_ne_none _)

/-- A message is taken. What it says at a tick that was simulated differs only from the first mismatch on. -/
theorem Agrees.update_buffer (agrees : Agrees now mismatch simulated input_buffer) (backend : ActionStateSequence Seq S)
    (states : Seq)
    {end_tick : Tick} (near : end_tick.toNat + 1 < HORIZON) (exist : backend.len states ≤ end_tick.toNat + 1)
    (fresh : ∀ last_remote_tick ∈ input_buffer.last_remote_tick,last_remote_tick < end_tick) (tick_duration : Duration)
    {mismatch' : Option Tick} (recorded : ∀ tick ≤ now,(∀ earliest ∈ mismatch',tick < earliest) →
      (∀ earliest ∈ mismatch,tick < earliest) ∧
      ∀ first ∈ (Inputs.update_buffer backend states input_buffer end_tick tick_duration).1,tick < first) :
    Agrees now mismatch' simulated (Inputs.update_buffer backend states input_buffer end_tick tick_duration).2 := by
  have fitting : Fitting input_buffer end_tick (backend.len states) :=
    ⟨agrees.bounded.fits (by omega),exist,by unfold HORIZON at near; omega,by unfold HORIZON at near; omega⟩
  rw [update_buffer_eq] at recorded ⊢
  rw [← backend.length_snapshots states tick_duration] at fitting recorded ⊢
  generalize backend.get_snapshots_from_message states tick_duration = snapshots at *
  generalize backend.len states = len at *
  have spans := fitting.spans
  have starts := fitting.start_toNat
  have extent := run_extent (backend.decay_tick · tick_duration) spans
  have emptied := run_unset (backend.decay_tick · tick_duration) spans
  refine ⟨⟨fun unset => (emptied unset).1,fun start_tick started => ?_⟩,agrees.past,
    fun tick input isSimulated early start_tick started after => ?_,fun unset tick input isSimulated early => ?_⟩
  · rcases extent with untouched | ends
    · simp only [untouched] at started ⊢
      exact agrees.bounded.room start_tick started
    · have := ends start_tick started
      simp only
      omega
  · rw [get_remote]
    obtain ⟨earlier,first⟩ := recorded tick (agrees.past tick input isSimulated) early
    rcases run_keeps (backend.decay_tick · tick_duration) spans first started after with ⟨⟨start,isStart,inside⟩,kept⟩ |
      ⟨unset,newer⟩
    · exact kept input (agrees.reads tick input isSimulated earlier start isStart inside)
    · obtain ⟨last,isLast,atMost⟩ := agrees.unset unset tick input isSimulated earlier
      exact absurd (after.trans atMost) (newer last isLast).not_ge
  · obtain ⟨earlier,first⟩ := recorded tick (agrees.past tick input isSimulated) early
    refine ⟨end_tick,rfl,?_⟩
    rcases (emptied unset).2 with unset | ⟨found,isFound,inside⟩
    · obtain ⟨last,isLast,atMost⟩ := agrees.unset unset tick input isSimulated earlier
      exact atMost.trans (fresh last isLast).le
    · have := first found isFound
      rw [Tick.lt_iff] at this
      rw [Tick.le_iff]
      omega

end

section
variable {now : Tick} {mismatch : Option Tick} {simulated : Tick → Option S} {input_buffer : InputBuffer S}

/-- Fewer ticks are before the earliest mismatch. -/
theorem Agrees.weaken (agrees : Agrees now mismatch simulated input_buffer) {mismatch' : Option Tick}
    (earlier : ∀ tick ≤ now,(∀ earliest ∈ mismatch',tick < earliest) → ∀ earliest ∈ mismatch,tick < earliest) :
    Agrees now mismatch' simulated input_buffer :=
  ⟨agrees.bounded,agrees.past,
    fun tick input read early => agrees.reads tick input read (earlier tick (agrees.past tick input read) early),
    fun unset tick input read early => agrees.unset unset tick input read
      (earlier tick (agrees.past tick input read) early)⟩

private theorem toNat_moved {delta : Int} {tick : Tick} (moves : Moves delta tick.toNat) :
    ((tick.add_signed delta).toNat : Int) = tick.toNat + delta := by
  obtain ⟨low,high⟩ := moves
  unfold HORIZON at high
  rw [Tick.toNat_add_signed]
  omega

/-- A buffer is read at the ticks to which it was shifted. -/
private theorem get_shift (bounded : Bounded input_buffer) {delta : Int} {start_tick tick : Tick}
    (started : input_buffer.start_tick = some start_tick) (moves : Moves delta start_tick.toNat)
    (inside : start_tick ≤ tick) (near : Moves delta tick.toNat)
    (bounded' : Bounded (InputClient.shift_input_buffer_ticks delta input_buffer)) :
    (InputClient.shift_input_buffer_ticks delta input_buffer).get (tick.add_signed delta) = input_buffer.get tick := by
  have start := toNat_moved moves
  have place := toNat_moved near
  have started' : (InputClient.shift_input_buffer_ticks delta input_buffer).start_tick =
      some (start_tick.add_signed delta) :=
    congrArg (Option.map _) started
  rw [Tick.le_iff] at inside
  rw [get_eq (bounded'.fits (Nat.zero_le _)) started',get_eq (bounded.fits (Nat.zero_le _)) started,if_neg (by omega),
    if_neg (by omega)]
  exact congrArg (value_at input_buffer.buffer) (by omega)

/-- The buffer, and what was simulated, are shifted. -/
theorem Agrees.shift (agrees : Agrees now none simulated input_buffer) {delta : Int}
    (buffer : ∀ start_tick ∈ input_buffer.start_tick,Moves delta start_tick.toNat ∧
      Moves delta (start_tick.toNat + input_buffer.buffer.length - 1))
    {shifted : Tick → Option S}
    (isShifted : ∀ tick input,shifted tick = some input →
      ∃ before,tick = before.add_signed delta ∧ Moves delta before.toNat ∧ simulated before = some input) :
    Agrees (now.add_signed delta) none shifted (InputClient.shift_input_buffer_ticks delta input_buffer) := by
  have bounded : Bounded (InputClient.shift_input_buffer_ticks delta input_buffer) := by
    refine ⟨fun unset => agrees.bounded.unset (Option.map_eq_none_iff.mp unset),fun start started => ?_⟩
    obtain ⟨start_tick,isStart,rfl⟩ := Option.map_eq_some_iff.mp started
    obtain ⟨moves,ends⟩ := buffer start_tick isStart
    have room := agrees.bounded.room start_tick isStart
    have start := toNat_moved moves
    obtain ⟨low,high⟩ := ends
    simp only [InputClient.shift_input_buffer_ticks]
    omega
  refine ⟨bounded,fun tick input read => ?_,fun tick input read _ start started after => ?_,
    fun unset tick input read _ => ?_⟩
  · obtain ⟨before,rfl,-,isSimulated⟩ := isShifted tick input read
    exact Tick.add_signed_le (agrees.past before input isSimulated)
  · obtain ⟨before,rfl,near,isSimulated⟩ := isShifted tick input read
    obtain ⟨start_tick,isStart,rfl⟩ := Option.map_eq_some_iff.mp started
    obtain ⟨moves,-⟩ := buffer start_tick isStart
    have start := toNat_moved moves
    have place := toNat_moved near
    have inside : start_tick ≤ before := by
      rw [Tick.le_iff] at after ⊢
      omega
    rw [get_shift agrees.bounded isStart moves inside near bounded]
    exact agrees.reads before input isSimulated (fun _ isEarliest => absurd isEarliest (Option.not_mem_none _))
      start_tick isStart inside
  · obtain ⟨before,rfl,-,isSimulated⟩ := isShifted tick input read
    obtain ⟨last,isLast,atMost⟩ := agrees.unset (Option.map_eq_none_iff.mp unset) before input isSimulated
      fun _ isEarliest => absurd isEarliest (Option.not_mem_none _)
    exact ⟨last.add_signed delta,Option.mem_map_of_mem _ isLast,Tick.add_signed_le atMost⟩

end

/-! ### Players -/

namespace Player
section
variable {change : PlayerInputs State S → PlayerInputs State S} {self : Player State S}

@[simp] theorem inputs_map_inputs : (self.map_inputs change).inputs = self.inputs.map change := rfl
@[simp] theorem entity_map_inputs : (self.map_inputs change).entity = self.entity := rfl
@[simp] theorem marker_map_inputs : (self.map_inputs change).marker = self.marker := rfl
@[simp] theorem controlled_by_map_inputs : (self.map_inputs change).controlled_by = self.controlled_by := rfl
@[simp] theorem simulated_map_inputs : (self.map_inputs change).simulated = self.simulated := rfl

/-- What was simulated of a player agrees with its buffer; without a buffer nothing was. -/
structure Consistent (now : Tick) (mismatch : Option Tick) (player : Player State S) : Prop where
  none : player.inputs = none → player.simulated = []
  agrees : ∀ inputs ∈ player.inputs,Agrees now mismatch player.simulated_at inputs.input_buffer

variable {now : Tick} {mismatch : Option Tick}

theorem Consistent.map_inputs (consistent : Consistent now mismatch self) {now' : Tick} {mismatch' : Option Tick}
    (kept : ∀ inputs ∈ self.inputs,Agrees now mismatch self.simulated_at inputs.input_buffer →
      Agrees now' mismatch' self.simulated_at (change inputs).input_buffer) :
        Consistent now' mismatch' (self.map_inputs change) := by
  refine ⟨fun isNone => consistent.none (Option.map_eq_none_iff.mp isNone),fun inputs isInputs => ?_⟩
  obtain ⟨before,isBefore,rfl⟩ := Option.map_eq_some_iff.mp isInputs
  exact kept before isBefore (consistent.agrees before isBefore)

theorem Consistent.write (consistent : Consistent now mismatch self) (frame : FixedTick State) :
    Consistent now mismatch (self.write frame) := consistent.map_inputs fun _ _ agrees => agrees

variable [DecidableEq S] (backend : ClientBackend Seq State S) (frame : FixedTick State) (is_rollback : Bool)
  {tick : Tick}

theorem Consistent.buffer_action_state (consistent : Consistent now mismatch self) (later : now < tick)
    (near : tick.toNat + frame.input_delay.toNat < HORIZON) :
    Consistent now mismatch (self.buffer_action_state backend frame is_rollback tick) := by
  have delayed : (delayed_tick frame tick).toNat = tick.toNat + frame.input_delay.toNat := by
    unfold HORIZON at near
    rw [delayed_tick,Tick.toNat_add_signed]
    omega
  unfold Player.buffer_action_state
  split
  · exact consistent
  · split
    · refine consistent.map_inputs fun inputs _ agrees => agrees.set ?_ (delayed.trans_lt near) _
      rw [Tick.lt_iff] at later ⊢
      omega
    · exact consistent

/-- The state that `get_action_state` leaves is that of the tick in the buffer. -/
theorem Consistent.get_action_state (predicts is_local : Bool) (tick_duration : Duration) (input_delay : UInt16)
    (consistent : Consistent now mismatch self) (later : now < tick) (near : tick.toNat < HORIZON)
    (upToDate : ∀ inputs ∈ self.inputs,is_rollback = false → is_local = true → input_delay = 0 →
      ∀ input,inputs.input_buffer.get tick = some input → backend.to_snapshot inputs.action_state = input) :
    let after := self.map_inputs
      (PlayerInputs.get_action_state backend predicts tick_duration is_rollback input_delay tick is_local)
    Consistent now mismatch after ∧ ∀ inputs ∈ after.inputs,∀ input,inputs.input_buffer.get tick = some input →
      backend.to_snapshot inputs.action_state = input := by
  have positive : 0 < tick.toNat := by
    rw [Tick.lt_iff] at later
    omega
  refine ⟨consistent.map_inputs fun inputs _ agrees => ?_,fun after isAfter input read => ?_⟩
  · unfold PlayerInputs.get_action_state
    split
    · exact agrees
    · split
      · exact agrees
      · split
        · exact agrees.set later near _
        · exact agrees
  · obtain ⟨inputs,isInputs,rfl⟩ := Option.map_eq_some_iff.mp isAfter
    have bounded := (consistent.agrees inputs isInputs).bounded
    unfold PlayerInputs.get_action_state at read ⊢
    by_cases skip : (!is_rollback && is_local && input_delay == 0) = true
    · rw [if_pos skip] at read ⊢
      simp only [Bool.and_eq_true,Bool.not_eq_true',beq_iff_eq] at skip
      exact upToDate inputs isInputs skip.1.1 skip.1.2 skip.2 input read
    · rw [if_neg skip] at read ⊢
      cases found : inputs.input_buffer.get tick with
      | some snapshot =>
        rw [found] at read
        dsimp only at read ⊢
        rw [backend.restores]
        exact Option.some.inj (found.symm.trans read)
      | none =>
        rw [found] at read
        dsimp only at read ⊢
        split at read
        · next decays =>
          rw [if_pos decays]
          dsimp only at read ⊢
          obtain ⟨bounded',-,-,reads,-⟩ := set_reads bounded positive near
            (backend.decay_tick (backend.to_snapshot inputs.action_state) tick_duration)
          obtain ⟨start_tick,started,inside,-⟩ := inside_of_get bounded' read
          rw [backend.restores]
          exact Option.some.inj ((reads start_tick started inside).symm.trans read)
        · exact absurd (read.symm.trans found) (Option.some_ne_none input)

omit [DecidableEq S] in
theorem Consistent.simulate (consistent : Consistent now mismatch self) (later : now < tick)
    (restored : ∀ inputs ∈ self.inputs,∀ input,inputs.input_buffer.get tick = some input →
      backend.to_snapshot inputs.action_state = input) : Consistent tick mismatch (self.simulate backend tick) := by
  unfold Player.simulate
  cases isInputs : self.inputs with
  | none =>
    refine ⟨fun _ => consistent.none isInputs,fun inputs isSome => ?_⟩
    exact absurd (isInputs.symm.trans isSome) (Option.some_ne_none inputs).symm
  | some inputs =>
    have agrees := consistent.agrees inputs isInputs
    dsimp only
    cases read : inputs.input_buffer.get tick with
    | none =>
      refine ⟨fun isNone => absurd (isInputs.symm.trans isNone) (Option.some_ne_none inputs),fun other isOther => ?_⟩
      obtain rfl := Option.some.inj (isInputs.symm.trans isOther)
      exact agrees.later later.le
    | some input =>
      rw [if_pos Option.isSome_some]
      refine ⟨fun isNone => absurd isNone (Option.some_ne_none inputs),fun other isOther => ?_⟩
      obtain rfl := Option.some.inj isOther
      have added : (fun other => ((tick,backend.to_snapshot inputs.action_state) :: self.simulated).lookup other) =
          Function.update self.simulated_at tick (some input) := by
        funext other
        rw [List.lookup_cons,restored inputs isInputs input read]
        by_cases same : other = tick
        · rw [same,Function.update_self,beq_self_eq_true]
        · rw [Function.update_of_ne same,beq_eq_false_iff_ne.mpr same]
          rfl
      have agrees' := agrees.simulate later read
      rw [← added] at agrees'
      exact agrees'

omit [DecidableEq S] in
theorem Consistent.get_delayed_action_state (consistent : Consistent now mismatch self) :
    Consistent now mismatch (self.get_delayed_action_state backend frame is_rollback tick) := by
  unfold Player.get_delayed_action_state
  split
  · exact consistent
  · split
    · refine consistent.map_inputs fun inputs _ agrees => ?_
      unfold PlayerInputs.get_delayed_action_state
      split <;> exact agrees
    · exact consistent

theorem entity_fixed_main (config : InputConfig) (tick_duration : Duration) :
    (self.fixed_main backend config tick_duration frame is_rollback tick).entity = self.entity := by
  have buffered (player : Player State S) :
      (player.buffer_action_state backend frame is_rollback tick).entity = player.entity := by
    unfold Player.buffer_action_state
    split
    · rfl
    · split <;> rfl
  have read (player : Player State S) :
      (player.get_action_state backend config tick_duration frame is_rollback tick).entity = player.entity := by
    unfold Player.get_action_state
    split
    · rfl
    · split <;> rfl
  have simulated (player : Player State S) : (player.simulate backend tick).entity = player.entity := by
    unfold Player.simulate
    split
    · rfl
    · split <;> rfl
  have delayed (player : Player State S) :
      (player.get_delayed_action_state backend frame is_rollback tick).entity = player.entity := by
    unfold Player.get_delayed_action_state
    split
    · rfl
    · split <;> rfl
  exact (delayed _).trans ((simulated _).trans ((read _).trans (buffered _)))

/-- A fixed step. The local inputs of the tick are buffered first, if nothing else puts them into the state. -/
theorem Consistent.fixed_main (consistent : Consistent now mismatch self) (later : now < tick)
    (near : tick.toNat + frame.input_delay.toNat < HORIZON) {config : InputConfig} {tick_duration : Duration}
    {route : InputRoute}
    (isRoute : InputRoute.from_topology frame.topology = some route) (notHost : route.is_host_client = false)
    (replays : is_rollback = true → config.ignore_rollbacks = false)
    (isLocal : is_rollback = false → frame.input_delay = 0 → self.marker = true →
      frame.synced = true ∧ route.accepts_local_target self.controlled_by = true) :
    Consistent tick mismatch (self.fixed_main backend config tick_duration frame is_rollback tick) := by
  have buffered := (consistent.write frame).buffer_action_state backend frame is_rollback later near
  have gate : (route.is_host_client || is_rollback && config.ignore_rollbacks) = false := by
    rw [notHost,Bool.false_or,Bool.and_eq_false_imp]
    exact replays
  have isMarker : ((self.write frame).buffer_action_state backend frame is_rollback tick).marker = self.marker := by
    unfold Player.buffer_action_state
    split
    · rfl
    · split <;> rfl
  have read := Consistent.get_action_state backend is_rollback
    (config.rebroadcast_inputs || route.requires_prespawned_targets)
    self.marker tick_duration frame.input_delay buffered later (by omega)
    fun inputs isInputs notRollback marked undelayed input found => ?_
  · have isRead : ((self.write frame).buffer_action_state backend frame is_rollback tick).get_action_state backend
      config tick_duration
        frame is_rollback tick = ((self.write frame).buffer_action_state backend frame is_rollback tick).map_inputs
          (PlayerInputs.get_action_state backend (config.rebroadcast_inputs || route.requires_prespawned_targets)
            tick_duration
            is_rollback frame.input_delay tick self.marker) := by
      rw [Player.get_action_state,isRoute]
      dsimp only
      rw [gate,if_neg Bool.false_ne_true,isMarker]
    unfold Player.fixed_main
    dsimp only
    rw [isRead]
    exact (read.1.simulate backend later read.2).get_delayed_action_state backend frame is_rollback
  · -- The tick was just buffered from the state.
    obtain ⟨synced,accepts⟩ := isLocal notRollback undelayed marked
    have delayed : delayed_tick frame tick = tick := by
      rw [delayed_tick,undelayed]
      refine BitVec.eq_of_toNat_eq ?_
      rw [Tick.toNat_add_signed]
      have := tick.isLt
      simp
      omega
    have isBuffered : (self.write frame).buffer_action_state backend frame is_rollback tick =
        (self.write frame).map_inputs (PlayerInputs.buffer_action_state backend tick) := by
      rw [Player.buffer_action_state,isRoute]
      dsimp only
      rw [notRollback,synced,if_pos (by simp [Player.write,marked,accepts]),delayed]
    rw [isBuffered] at isInputs
    obtain ⟨before,isBefore,rfl⟩ := Option.map_eq_some_iff.mp isInputs
    have bounded := ((consistent.write frame).agrees before isBefore).bounded
    have positive : 0 < tick.toNat := by
      rw [Tick.lt_iff] at later
      omega
    obtain ⟨bounded',-,-,reads,-⟩ := set_reads bounded positive (by omega) (backend.to_snapshot before.action_state)
    obtain ⟨start_tick,started,inside,-⟩ := inside_of_get bounded' found
    exact Option.some.inj ((reads start_tick started inside).symm.trans found)

end
end Player

/-! ### Messages -/

/-- A mismatch at or before the current tick is recorded. -/
theorem recorded_record_mismatch {manager : PredictionManager} (check : manager.rollback_policy.input = .Check)
    (now : Tick)
    (mismatch : Option Tick) :
    (record_mismatch now mismatch manager).rollback_policy = manager.rollback_policy ∧
      ∀ tick ≤ now,(∀ earliest ∈ recorded (record_mismatch now mismatch manager),tick < earliest) →
        (∀ earliest ∈ recorded manager,tick < earliest) ∧ ∀ first ∈ mismatch,tick < first := by
  cases mismatch with
  | none => exact ⟨rfl,fun _ _ early => ⟨early,fun _ isFirst => absurd isFirst (Option.not_mem_none _)⟩⟩
  | some mismatch =>
    unfold record_mismatch
    dsimp only
    by_cases past : mismatch ≤ now
    · rw [if_pos ⟨check,past⟩]
      refine ⟨rfl,fun tick _ early => ?_⟩
      obtain ⟨before,first⟩ := lt_min_iff.mp (early _ rfl)
      refine ⟨fun earliest isEarliest => ?_,fun other isFirst => Option.some.inj isFirst ▸ before⟩
      rw [recorded,Option.mem_def,Option.ite_none_right_eq_some] at isEarliest
      exact Option.some.inj isEarliest.2 ▸ first
    · rw [if_neg (fun both => past both.2)]
      exact ⟨rfl,fun tick atMost early => ⟨early,fun other isFirst =>
        Option.some.inj isFirst ▸ atMost.trans_lt (not_le.mp past)⟩⟩

/-- What holds while messages are received. -/
structure SoundSoFar (now : Tick) (receiving : Receiving State S) : Prop where
  apart : (receiving.players.map Player.entity).Nodup
  check : receiving.prediction_manager.rollback_policy.input = .Check
  consistent : ∀ player ∈ receiving.players,player.Consistent now (recorded receiving.prediction_manager)
  inserted : ∀ command ∈ receiving.inserted,Bounded command.2.input_buffer ∧
    ∀ player ∈ receiving.players,player.entity = command.1 → player.inputs = none

section
variable [DecidableEq S] (backend : ClientBackend Seq State S) (tick_duration : Duration) {now : Tick}
  (p2p_link : Option Entity)
variable {receiving : Receiving State S}

omit [DecidableEq S] in
private theorem Player.Consistent.weaken {player : Player State S} {mismatch mismatch' : Option Tick}
    (consistent : player.Consistent now mismatch)
    (earlier : ∀ tick ≤ now,(∀ earliest ∈ mismatch',tick < earliest) → ∀ earliest ∈ mismatch,tick < earliest) :
    player.Consistent now mismatch' :=
  ⟨consistent.none,fun inputs isInputs => (consistent.agrees inputs isInputs).weaken earlier⟩

omit [DecidableEq S] in
/-- The player that takes the inputs of a target. -/
theorem find_target {players : List (Player State S)} {entity : Entity} {player : Player State S}
    (found : players.find? (fun player => player.entity = entity && !player.marker) = some player) :
    player ∈ players ∧ player.entity = entity := by
  have matched := List.find?_some found
  simp only [Bool.and_eq_true,decide_eq_true_eq] at matched
  exact ⟨List.mem_of_find?_eq_some found,matched.1⟩

omit [DecidableEq S] in
/-- A message that is not stale is later than the last one. -/
theorem fresh_of_not_stale {input_buffer : InputBuffer S} {end_tick : Tick}
    (stale : ¬input_buffer.last_remote_tick.any (end_tick ≤ ·) = true) :
    ∀ last_remote_tick ∈ input_buffer.last_remote_tick,last_remote_tick < end_tick := by
  intro last isLast
  rw [Option.mem_def.mp isLast] at stale
  simpa using stale

theorem SoundSoFar.target (received : SoundSoFar now receiving) {end_tick : Tick} {target_data : PerTargetData Seq}
    (near : end_tick.toNat + 1 < HORIZON) (exist : backend.len target_data.states ≤ end_tick.toNat + 1) :
    SoundSoFar now (receive_target backend tick_duration now p2p_link end_tick target_data receiving) := by
  unfold receive_target
  cases target_entity p2p_link receiving.players target_data.target with
  | none => exact received
  | some entity =>
    dsimp only
    cases found : receiving.players.find? fun player => player.entity = entity && !player.marker with
    | none => exact received
    | some player =>
      obtain ⟨stored,rfl⟩ := find_target found
      dsimp only
      cases isInputs : player.inputs with
      | some inputs =>
        dsimp only
        by_cases stale : inputs.input_buffer.last_remote_tick.any (end_tick ≤ ·) = true
        · rw [if_pos stale]
          exact received
        · rw [if_neg stale]
          have fresh := fresh_of_not_stale stale
          have agrees := (received.consistent player stored).agrees inputs isInputs
          generalize isUpdated :
            update_buffer backend.toActionStateSequence target_data.states inputs.input_buffer end_tick
            tick_duration = updated
          obtain ⟨policy,earlier⟩ := recorded_record_mismatch received.check now updated.1
          have agrees' : Agrees now (recorded (record_mismatch now updated.1 receiving.prediction_manager))
            player.simulated_at
              updated.2 := by
            have := agrees.update_buffer backend.toActionStateSequence target_data.states near exist fresh tick_duration
              (isUpdated ▸ earlier)
            rwa [isUpdated] at this
          refine ⟨?_,policy ▸ received.check,fun other isOther => ?_,fun command isCommand => ?_⟩
          · rw [List.map_map]
            refine (congrArg List.Nodup (List.map_congr_left fun other _ => ?_)).mpr received.apart
            rw [Function.comp_apply]
            split <;> rfl
          · obtain ⟨other,member,rfl⟩ := List.mem_map.mp isOther
            have consistent := received.consistent other member
            split
            · next same =>
              obtain rfl := List.inj_on_of_nodup_map received.apart member stored same
              refine consistent.map_inputs fun before isBefore _ => ?_
              exact agrees'
            · exact consistent.weaken fun tick atMost early => (earlier tick atMost early).1
          · obtain ⟨bounded,empty⟩ := received.inserted command isCommand
            refine ⟨bounded,fun other isOther same => ?_⟩
            obtain ⟨other,member,rfl⟩ := List.mem_map.mp isOther
            split at same
            · rw [if_pos ‹_›,Player.inputs_map_inputs,empty other member same]
              rfl
            · rw [if_neg ‹_›]
              exact empty other member same
      | none =>
        dsimp only
        generalize isUpdated :
          update_buffer backend.toActionStateSequence target_data.states .default end_tick tick_duration = updated
        obtain ⟨policy,earlier⟩ := recorded_record_mismatch received.check now updated.1
        have agrees : Agrees now (recorded (record_mismatch now updated.1 receiving.prediction_manager))
            (fun _ => none) updated.2 := by
          have := (agrees_new now (recorded receiving.prediction_manager) (fun _ => rfl) bounded_default).update_buffer
            backend.toActionStateSequence target_data.states near exist
              (fun _ isLast => absurd isLast (Option.not_mem_none _))
            tick_duration (isUpdated ▸ earlier)
          rwa [isUpdated] at this
        refine ⟨received.apart,policy ▸ received.check,fun other isOther => ?_,fun command isCommand => ?_⟩
        · exact (received.consistent other isOther).weaken fun tick atMost early => (earlier tick atMost early).1
        · rcases List.mem_append.mp isCommand with old | new
          · exact received.inserted command old
          · obtain rfl := List.mem_singleton.mp new
            refine ⟨agrees.bounded,fun other isOther same => ?_⟩
            rw [List.inj_on_of_nodup_map received.apart isOther stored same]
            exact isInputs

/-- What every target of a message keeps holds after the messages of a receiver. -/
theorem receive_keeps (holds : Receiving State S → Prop)
    (kept : ∀ p2p_link end_tick target_data receiving,end_tick.toNat + 1 < HORIZON →
      backend.len target_data.states ≤ end_tick.toNat + 1 → holds receiving →
        holds (receive_target backend tick_duration now p2p_link end_tick target_data receiving))
    {messages : List (InputMessage Seq)} (sendable : ∀ message ∈ messages,Sendable backend message)
    (initially : holds receiving) :
    holds (receive_from_receiver backend tick_duration now p2p_link messages receiving) := by
  unfold receive_from_receiver
  induction messages generalizing receiving with
  | nil => exact initially
  | cons message messages ih =>
    obtain ⟨near,exist⟩ := sendable message List.mem_cons_self
    refine ih (fun other member => sendable other (List.mem_cons_of_mem _ member)) ?_
    unfold receive_message
    generalize message.inputs = inputs at exist
    induction inputs generalizing receiving with
    | nil => exact initially
    | cons data inputs ih' =>
      exact ih' (kept p2p_link _ data receiving near (exist data List.mem_cons_self) initially)
        fun other member => exist other (List.mem_cons_of_mem _ member)

/-- What every target of a message keeps holds after the messages of all links. -/
theorem receivers_keep (holds : Receiving State S → Prop)
    (kept : ∀ p2p_link end_tick target_data receiving,end_tick.toNat + 1 < HORIZON →
      backend.len target_data.states ≤ end_tick.toNat + 1 → holds receiving →
        holds (receive_target backend tick_duration now p2p_link end_tick target_data receiving))
    {messages : Entity → List (InputMessage Seq)} (sendable : ∀ link,∀ message ∈ messages link,Sendable backend message)
    (links : List (Entity × Option Entity)) (initially : holds receiving) :
    holds (links.foldl (fun received link => receive_from_receiver backend tick_duration now link.2
      (messages link.1) received)
      receiving) := by
  induction links generalizing receiving with
  | nil => exact initially
  | cons link links ih => exact ih (receive_keeps backend tick_duration link.2 holds kept (sendable link.1) initially)

omit [DecidableEq S] in
/-- The components of a command are inserted into an entity of which nothing was simulated. -/
theorem consistent_insert {players : List (Player State S)} {mismatch : Option Tick}
    {commands : List (Entity × PlayerInputs State S)}
    (fresh : ∀ command ∈ commands,Bounded command.2.input_buffer ∧ ∀ player ∈ players,player.entity = command.1 →
      player.simulated = [])
    (apart : (players.map Player.entity).Nodup) (consistent : ∀ player ∈ players,player.Consistent now mismatch) :
    ((commands.foldl InputClient.insert players).map Player.entity).Nodup ∧
      ∀ player ∈ commands.foldl InputClient.insert players,player.Consistent now mismatch := by
  induction commands generalizing players with
  | nil => exact ⟨apart,consistent⟩
  | cons command commands ih =>
    have same : (InputClient.insert players command).map Player.entity = players.map Player.entity := by
      rw [InputClient.insert,List.map_map]
      refine List.map_congr_left fun player _ => ?_
      rw [Function.comp_apply]
      split <;> rfl
    obtain ⟨bounded,empty⟩ := fresh command List.mem_cons_self
    refine ih (fun other member => ⟨(fresh other (List.mem_cons_of_mem _ member)).1,fun player isPlayer isEntity => ?_⟩)
      (same ▸ apart) fun player isPlayer => ?_
    all_goals obtain ⟨player,member',rfl⟩ := List.mem_map.mp isPlayer
    · have unused := (fresh other (List.mem_cons_of_mem _ member)).2 player member'
      split at isEntity
      · rw [if_pos ‹_›]
        exact unused isEntity
      · rw [if_neg ‹_›]
        exact unused isEntity
    · split
      · next isEntity =>
        have never := empty player member' isEntity
        refine ⟨fun isNone => absurd isNone (Option.some_ne_none command.2),fun inputs isInputs => ?_⟩
        obtain rfl := Option.some.inj isInputs
        refine agrees_new now mismatch (fun tick => ?_) bounded
        rw [Player.simulated_at,never]
        rfl
      · exact consistent player member'

end

/-! ### Runs -/

private theorem lookup_filter {simulated : List (Tick × S)} {rollback_tick tick : Tick} {input : S}
    (kept : (simulated.filter (·.1 ≤ rollback_tick)).lookup tick = some input) :
    simulated.lookup tick = some input ∧ tick ≤ rollback_tick := by
  induction simulated with
  | nil => cases kept
  | cons entry simulated ih =>
    rw [List.filter_cons] at kept
    by_cases early : entry.1 ≤ rollback_tick
    · rw [if_pos (decide_eq_true early),List.lookup_cons] at kept
      rw [List.lookup_cons]
      by_cases same : tick = entry.1
      · subst same
        rw [beq_self_eq_true] at kept ⊢
        exact ⟨kept,early⟩
      · rw [beq_eq_false_iff_ne.mpr same] at kept ⊢
        exact ih kept
    · rw [if_neg (by simpa using early)] at kept
      obtain ⟨found,atMost⟩ := ih kept
      have other : tick ≠ entry.1 := by
        rintro rfl
        exact early atMost
      rw [List.lookup_cons,beq_eq_false_iff_ne.mpr other]
      exact ⟨found,atMost⟩

private theorem lookup_shift {simulated : List (Tick × S)} {delta : Int}
    (moves : ∀ entry ∈ simulated,Moves delta entry.1.toNat)
    {tick : Tick} {input : S}
    (shifted : (simulated.map fun entry => (entry.1.add_signed delta,entry.2)).lookup tick = some input) :
    ∃ before,tick = before.add_signed delta ∧ Moves delta before.toNat ∧ simulated.lookup before = some input := by
  induction simulated with
  | nil => cases shifted
  | cons entry simulated ih =>
    rw [List.map_cons,List.lookup_cons] at shifted
    have near := moves entry List.mem_cons_self
    by_cases same : tick = entry.1.add_signed delta
    · rw [same,beq_self_eq_true] at shifted
      exact ⟨entry.1,same,near,by rw [List.lookup_cons,beq_self_eq_true]; exact shifted⟩
    · rw [beq_eq_false_iff_ne.mpr same] at shifted
      obtain ⟨before,rfl,isNear,found⟩ := ih (fun other member => moves other (List.mem_cons_of_mem _ member)) shifted
      have other : before ≠ entry.1 := fun isEntry => same (isEntry ▸ rfl)
      exact ⟨before,rfl,isNear,by rw [List.lookup_cons,beq_eq_false_iff_ne.mpr other]; exact found⟩

/-- What holds of the client after every regular step. -/
structure Sound (client : InputClient Seq State S) : Prop where
  apart : (client.players.map Player.entity).Nodup
  near : client.tick.toNat < HORIZON
  check : ∀ manager ∈ client.prediction_manager,manager.rollback_policy.input = .Check
  consistent : ∀ player ∈ client.players,player.Consistent client.tick client.mismatch

section
variable {client : InputClient Seq State S}

private theorem Sound.map (sound : Sound client) {client' : InputClient Seq State S}
    {change : Player State S → Player State S}
    (players : client'.players = client.players.map change) (entity : ∀ player,(change player).entity = player.entity)
    (near : client'.tick.toNat < HORIZON)
    (check : ∀ manager ∈ client'.prediction_manager,manager.rollback_policy.input = .Check)
    (kept : ∀ player ∈ client.players,player.Consistent client.tick client.mismatch →
      (change player).Consistent client'.tick client'.mismatch) : Sound client' := by
  refine ⟨?_,near,check,fun player isPlayer => ?_⟩
  · rw [players,List.map_map]
    exact (congrArg List.Nodup (List.map_congr_left fun player _ => entity player)).mpr sound.apart
  · rw [players] at isPlayer
    obtain ⟨before,member,rfl⟩ := List.mem_map.mp isPlayer
    exact kept before member (sound.consistent before member)

private theorem Sound.check_rollback (sound : Sound client) {rollback_tick : Option Tick}
    (past : rollback_tick.any (client.tick < ·) = false)
    (handled : ∀ mismatch ∈ client.mismatch,∃ tick ∈ rollback_tick,tick < mismatch) :
    Sound (client.check_rollback rollback_tick) := by
  have check : ∀ manager ∈ client.prediction_manager.map ({· with earliest_mismatch_input := ⟨.MAX,false⟩}),
      manager.rollback_policy.input = .Check := by
    intro manager isManager
    obtain ⟨before,isBefore,rfl⟩ := Option.map_eq_some_iff.mp isManager
    exact sound.check before isBefore
  have reset : (client.check_rollback rollback_tick).mismatch = none := by
    have cleared : (client.prediction_manager.map ({· with earliest_mismatch_input := ⟨.MAX,false⟩})).bind recorded =
        none := by
      cases client.prediction_manager <;> rfl
    cases rollback_tick <;> exact cleared
  cases rollback_tick with
  | none =>
    have quiet : client.mismatch = none := by
      rw [Option.eq_none_iff_forall_not_mem]
      intro mismatch isMismatch
      obtain ⟨tick,isTick,-⟩ := handled mismatch isMismatch
      exact absurd isTick (Option.not_mem_none tick)
    refine ⟨sound.apart,sound.near,check,fun player isPlayer => ?_⟩
    have consistent := sound.consistent player isPlayer
    rw [quiet] at consistent
    rw [reset]
    exact consistent
  | some rollback_tick =>
    have atMost : rollback_tick ≤ client.tick := by simpa using past
    refine sound.map rfl (fun _ => rfl) (((Tick.le_iff _ _).mp atMost).trans_lt sound.near)
      check fun player _ consistent => ?_
    refine ⟨fun isNone => ?_,fun inputs isInputs => ?_⟩
    · exact (congrArg (List.filter _) (consistent.none isNone)).trans List.filter_nil
    · rw [reset]
      refine (consistent.agrees inputs isInputs).rollback (fun mismatch isMismatch => ?_) fun tick input =>
        lookup_filter
      obtain ⟨tick,isTick,before⟩ := handled mismatch isMismatch
      exact Option.some.inj isTick ▸ before

private theorem Sound.shift (sound : Sound client) {delta : Int} (quiet : client.mismatch = none)
    (near : Moves delta client.tick.toNat)
    (moves : ∀ player ∈ client.players,MovesPlayer delta player) :
    Sound (client.receive_local_timeline_shift delta) := by
  have place := toNat_moved near
  obtain ⟨low,high⟩ := near
  refine sound.map rfl (fun _ => rfl) (show (client.tick.add_signed delta).toNat < HORIZON by omega) sound.check
    fun player isPlayer consistent => ?_
  obtain ⟨simulated,buffer⟩ := moves player isPlayer
  refine ⟨fun isNone => ?_,fun inputs isInputs => ?_⟩
  · exact (congrArg (List.map _) (consistent.none (Option.map_eq_none_iff.mp isNone))).trans List.map_nil
  · obtain ⟨before,isBefore,rfl⟩ := Option.map_eq_some_iff.mp isInputs
    have agrees := consistent.agrees before isBefore
    rw [quiet] at agrees
    have isShifted := agrees.shift (buffer before isBefore) fun tick input found => lookup_shift simulated found
    exact (show (client.receive_local_timeline_shift delta).mismatch = none from quiet) ▸ isShifted

/-- What holds before the messages are received. -/
theorem Sound.so_far (sound : Sound client) {manager : PredictionManager}
    (isManager : client.prediction_manager = some manager) :
    SoundSoFar client.tick (⟨manager,client.players,[]⟩ : Receiving State S) := by
  have mismatch : client.mismatch = recorded manager := congrArg (Option.bind · recorded) isManager
  exact ⟨sound.apart,sound.check manager isManager,fun player isPlayer => mismatch ▸ sound.consistent player isPlayer,
    fun _ isCommand => absurd isCommand List.not_mem_nil⟩

/-- The ticks that are cleaned are in range. -/
theorem Sound.near_clean (sound : Sound client) (maximum_predicted_ticks : UInt16) :
    (client.tick.sub (InputClient.input_history_depth client.prediction_manager maximum_predicted_ticks)).toNat + 1 <
      HORIZON := by
  have near := sound.near
  have depth : 1 ≤ InputClient.input_history_depth client.prediction_manager maximum_predicted_ticks :=
    le_trans (by decide) (le_max_right _ HISTORY_DEPTH)
  unfold HORIZON at near ⊢
  rw [Tick.toNat_sub]
  omega

/-- The tick of a fixed step is the next one. -/
theorem Applies.next {config : InputConfig} {frame : FixedTick State} (applies : Applies config client frame) :
    (client.tick.add_signed 1).toNat = client.tick.toNat + 1 := by
  have near := applies.near
  unfold HORIZON at near
  rw [Tick.toNat_add_signed]
  omega

variable [DecidableEq S] (backend : ClientBackend Seq State S) (config : InputConfig) (tick_duration : Duration)

private theorem Sound.receive (sound : Sound client) (topology : NetworkTopology)
    {messages : Entity → List (InputMessage Seq)}
    (sendable : ∀ link,∀ message ∈ messages link,Sendable backend message) :
    Sound (client.receive_remote_player_input_messages backend config tick_duration topology messages) := by
  unfold InputClient.receive_remote_player_input_messages
  cases InputRoute.from_topology topology with
  | none => exact sound
  | some route =>
    cases isManager : client.prediction_manager with
    | none => exact sound
    | some manager =>
      have sofar := receivers_keep backend tick_duration (SoundSoFar client.tick)
        (fun p2p_link _ _ _ near exist received => received.target backend tick_duration p2p_link near exist) sendable
        (InputClient.receivers config route) (sound.so_far isManager)
      dsimp only
      generalize (InputClient.receivers config route).foldl _ (⟨manager,client.players,[]⟩ : Receiving State S) =
        receiving at sofar ⊢
      obtain ⟨apart,consistent⟩ := consistent_insert (fun command isCommand => by
        obtain ⟨bounded,empty⟩ := sofar.inserted command isCommand
        exact ⟨bounded,fun player isPlayer same => (sofar.consistent player isPlayer).none
          (empty player isPlayer same)⟩)
        sofar.apart sofar.consistent
      exact ⟨apart,sound.near,fun other isOther => Option.some.inj isOther ▸ sofar.check,consistent⟩

private theorem Sound.fixed_main (sound : Sound client) {frame : FixedTick State}
    (applies : Applies config client frame) :
    Sound (client.fixed_main backend config tick_duration frame) := by
  have next := applies.next
  obtain ⟨near,route,isRoute,notHost,replays,isLocal⟩ := applies
  refine sound.map rfl (fun _ => Player.entity_fixed_main ..)
    (show (client.tick.add_signed 1).toNat < HORIZON by omega) sound.check
    fun player isPlayer consistent => ?_
  have later : client.tick < client.tick.add_signed 1 := by
    rw [Tick.lt_iff]
    omega
  refine consistent.fixed_main backend frame client.rollback.isSome later (by omega) isRoute notHost replays ?_
  intro notRollback undelayed marked
  exact isLocal (by simpa using notRollback) undelayed player isPlayer marked

omit [DecidableEq S] in
private theorem Sound.clean (sound : Sound client) (topology : NetworkTopology) (maximum_predicted_ticks : UInt16) :
    Sound (client.clean_buffers topology maximum_predicted_ticks) := by
  unfold InputClient.clean_buffers
  cases InputRoute.from_topology topology with
  | none => exact sound
  | some route =>
    dsimp only
    split
    · exact sound
    · refine sound.map rfl (fun _ => rfl) sound.near sound.check fun player _ consistent => ?_
      exact consistent.map_inputs fun inputs _ agrees => agrees.pop (sound.near_clean maximum_predicted_ticks)

private theorem Sound.spawn (sound : Sound client) {player : Player State S}
    (isNew : InputClient.is_new client.players player = true) :
    Sound {client with players := client.players ++ [player]} := by
  simp only [InputClient.is_new,Bool.and_eq_true,List.all_eq_true,decide_eq_true_eq,List.isEmpty_iff] at isNew
  obtain ⟨⟨other,never⟩,empty⟩ := isNew
  refine ⟨?_,sound.near,sound.check,fun stored isStored => ?_⟩
  · rw [List.map_append,List.nodup_append]
    refine ⟨sound.apart,List.nodup_singleton _,fun entity isEntity entity' isEntity' => ?_⟩
    obtain ⟨stored,isStored,rfl⟩ := List.mem_map.mp isEntity
    exact List.mem_singleton.mp isEntity' ▸ other stored isStored
  · rcases List.mem_append.mp isStored with old | new
    · exact sound.consistent stored old
    · obtain rfl := List.mem_singleton.mp new
      refine ⟨fun _ => never,fun inputs isInputs => ?_⟩
      rw [Option.mem_def.mp isInputs,Option.all_some,decide_eq_true_eq] at empty
      refine agrees_new _ _ (fun tick => ?_) (empty ▸ bounded_default)
      rw [Player.simulated_at,never]
      rfl

omit [DecidableEq S] in
private theorem Sound.despawn (sound : Sound client) (entity : Entity) :
    Sound {client with players := client.players.filter (·.entity ≠ entity)} :=
  ⟨sound.apart.sublist (List.filter_sublist.map _),sound.near,sound.check,
    fun player isPlayer => sound.consistent player (List.mem_filter.mp isPlayer).1⟩

omit [DecidableEq S] in
/-- A message is prepared from the buffers as they are. -/
theorem prepare_changes (rounds : Nat) (topology : NetworkTopology) (input_delay : UInt16)
    {after : InputClient Seq State S}
    (prepared : client.prepare_input_message backend config tick_duration rounds topology input_delay = some after) :
    ∃ message_buffer,after = {client with message_buffer} := by
  unfold InputClient.prepare_input_message at prepared
  split at prepared
  · exact ⟨_,(Option.some.inj prepared).symm⟩
  · split at prepared
    · exact ⟨_,(Option.some.inj prepared).symm⟩
    · obtain ⟨inputs,-,isAfter⟩ := Option.bind_eq_some_iff.mp prepared
      exact ⟨_,(Option.some.inj isAfter).symm⟩

theorem Sound.step (sound : Sound client) {event : ClientEvent Seq State S} {after : InputClient Seq State S}
    (executed : client.step backend config tick_duration event = some after)
    (regular : Regular backend config client event after) :
    Sound after := by
  cases event with
  | spawn player =>
    obtain ⟨isNew,rfl⟩ := (Option.ite_none_right_eq_some.mp executed).imp_right Option.some.inj
    exact sound.spawn isNew
  | despawn entity =>
    obtain rfl := Option.some.inj executed
    exact sound.despawn entity
  | receive topology messages =>
    obtain ⟨-,rfl⟩ := (Option.ite_none_left_eq_some.mp executed).imp_right Option.some.inj
    refine sound.receive backend config tick_duration topology fun link message isMessage => ?_
    obtain ⟨sent,isSent,rfl⟩ := List.mem_map.mp isMessage
    exact regular sent (List.mem_filter.mp isSent).1
  | check_rollback rollback_tick =>
    obtain ⟨allowed,rfl⟩ := (Option.ite_none_left_eq_some.mp executed).imp_right Option.some.inj
    exact sound.check_rollback (Bool.or_eq_false_iff.mp (Bool.eq_false_iff.mpr allowed)).2 regular
  | fixed_main frame =>
    obtain ⟨-,rfl⟩ := (Option.ite_none_right_eq_some.mp executed).imp_right Option.some.inj
    exact sound.fixed_main backend config tick_duration regular
  | end_rollback =>
    obtain ⟨-,rfl⟩ := (Option.ite_none_right_eq_some.mp executed).imp_right Option.some.inj
    exact ⟨sound.apart,sound.near,sound.check,sound.consistent⟩
  | prepare rounds topology input_delay =>
    dsimp only [InputClient.step] at executed
    split at executed
    · exact Option.some.inj executed ▸ sound
    · obtain ⟨message_buffer,rfl⟩ := prepare_changes backend config tick_duration rounds topology input_delay executed
      exact ⟨sound.apart,sound.near,sound.check,sound.consistent⟩
  | shift delta =>
    obtain ⟨-,rfl⟩ := (Option.ite_none_left_eq_some.mp executed).imp_right Option.some.inj
    exact sound.shift regular.1 regular.2.1 regular.2.2
  | clean topology maximum_predicted_ticks =>
    obtain ⟨-,rfl⟩ := (Option.ite_none_left_eq_some.mp executed).imp_right Option.some.inj
    exact sound.clean topology maximum_predicted_ticks
  | send =>
    obtain rfl := Option.some.inj executed
    exact ⟨sound.apart,sound.near,sound.check,sound.consistent⟩

theorem sound_reached {tick : Tick} (near : tick.toNat < HORIZON)
    (reached : Runs.Reaches (InputClient.step backend config tick_duration) (Regular backend config)
      (.initial tick) client) :
    Sound client := by
  have initial : Sound (.initial tick : InputClient Seq State S) := by
    refine ⟨List.nodup_nil,near,fun manager isManager => ?_,fun player isPlayer => absurd isPlayer List.not_mem_nil⟩
    obtain rfl := Option.some.inj isManager
    rfl
  exact reached.invariant Sound initial fun _ _ _ sound executed regular =>
    sound.step backend config tick_duration executed regular

/-- In every run a tick was simulated last, for each player, with the input that the buffer has for it now, as far back
as the buffer goes; only from a recorded mismatch on this waits for the rollback. -/
theorem simulated_inputs_kept {tick : Tick} (near : tick.toNat < HORIZON)
    (reached : Runs.Reaches (InputClient.step backend config tick_duration) (Regular backend config)
      (.initial tick) client) :
    ∀ player ∈ client.players,∀ inputs ∈ player.inputs,∀ tick input,player.simulated_at tick = some input →
      tick ≤ client.tick ∧ ((∀ mismatch ∈ client.mismatch,tick < mismatch) →
        ∀ start_tick ∈ inputs.input_buffer.start_tick,start_tick ≤ tick →
          inputs.input_buffer.get tick = some input) := by
  have sound := sound_reached backend config tick_duration near reached
  intro player isPlayer inputs isInputs tick input isSimulated
  have agrees := (sound.consistent player isPlayer).agrees inputs isInputs
  exact ⟨agrees.past tick input isSimulated,agrees.reads tick input isSimulated⟩

end

/-- A prediction of two ticks was wrong, and both were simulated again. -/
theorem simulated_inputs_kept_corrected :
    ∃ client : InputClient (NativeStateSequence Nat) (ActionState Nat) (ActionState Nat),
      client.players.map (fun player => (player.simulated_at 6,player.simulated_at 7)) = [(some ⟨2⟩,some ⟨2⟩)] ∧
        ∀ player ∈ client.players,∀ inputs ∈ player.inputs,∀ tick input,player.simulated_at tick = some input →
          tick ≤ client.tick ∧ ((∀ mismatch ∈ client.mismatch,tick < mismatch) →
            ∀ start_tick ∈ inputs.input_buffer.start_tick,start_tick ≤ tick →
              inputs.input_buffer.get tick = some input) := by
  let config : InputConfig := ⟨5,0,false,true⟩
  let frame : FixedTick (ActionState Nat) := ⟨.Client 1,true,0,fun _ state => state⟩
  let message (end_tick : Tick) (states : List (Compressed Nat)) : Entity × InputMessage (NativeStateSequence Nat) :=
    (1,⟨end_tick,[⟨.Entity 9,⟨states⟩⟩]⟩)
  obtain ⟨client,reached,simulated⟩ := Runs.reaches_of_check (InputClient.step (NativeStateSequence.backend 0) config 1)
    (Regular (NativeStateSequence.backend 0) config) (.initial 4)
    (fun client => client.players.map (fun player => (player.simulated_at 6,player.simulated_at 7)) =
      [(some ⟨2⟩,some ⟨2⟩)])
    [.spawn ⟨9,false,none,none,none,[]⟩,.receive (.Client 1) [message 5 [.Input 1]],.fixed_main frame,.fixed_main frame,
      .fixed_main frame,.receive (.Client 1) [message 7 [.Input 2,.SameAsPrecedent]],.check_rollback (some 5),
        .fixed_main frame,
      .fixed_main frame,.end_rollback] (by decide +kernel)
  exact ⟨client,of_decide_eq_true simulated,simulated_inputs_kept _ config 1 (by decide) reached⟩

end Lightyear.Inputs
