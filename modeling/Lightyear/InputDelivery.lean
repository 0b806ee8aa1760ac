import Lightyear.InputRoundTrip
import Lightyear.InputLookahead

/-!
The native inputs of a client on the server. The messages come in any order, lost or
repeated, between the ticks at which the server reads the buffer and removes what is
old. An input that was received before its tick is read there as long as no message
is taken for one that was received, or cuts off a part of the buffer.
-/
namespace Lightyear.Inputs
open Message InputBuffer

/-- The number of past inputs that a host keeps for the other clients. -/
def HISTORY_DEPTH : Nat := 20

/-- The input of a tick, and the buffer after its old inputs were removed. -/
def update_action_state {S : Type} (host_client : Bool) (tick : Tick) (input_buffer : InputBuffer S) :
    Option S × InputBuffer S :=
  let history_depth := if host_client then HISTORY_DEPTH else 1
  (input_buffer.get_predict tick,(input_buffer.pop_keeping_last (tick.sub history_depth)).2)

section
variable {S : Type} {self : InputBuffer S} {start_tick : Tick} {limit : Nat}

private theorem count_toNat {start : Tick} (fits : self.Fits limit) (started : self.start_tick = some start)
    (tick : Tick)
    (after : start.toNat ≤ tick.toNat) (inside : tick.toNat < start.toNat + self.buffer.length) :
    ((tick.add_signed 1).diff start).toNat = (tick.add_signed 1).toNat - start.toNat ∧
      (tick.add_signed 1).toNat - start.toNat ≤ self.buffer.length := by
  obtain ⟨-,inRange,short,-⟩ := fits.room start started
  have next := Tick.toNat_add_signed tick 1
  rw [diff_toNat (by omega) (by omega)]
  omega

theorem InputBuffer.Fits.pop (fits : self.Fits 0) (tick : Tick) : (self.pop tick).2.Fits 0 := by
  cases started : self.start_tick with
  | none =>
    simp only [InputBuffer.pop,started]
    exact fits
  | some start =>
    obtain ⟨positive,inRange,short,-⟩ := fits.room start started
    have next := Tick.toNat_add_signed tick 1
    simp only [InputBuffer.pop,started,Tick.lt_iff,last_tick_toNat positive inRange short]
    split_ifs with before after
    · exact fits
    · refine ⟨fun unset => (nomatch unset),fun start' isStart => ?_⟩
      obtain rfl : tick.add_signed 1 = start' := Option.some.inj isStart
      simp
    · obtain ⟨count,few⟩ := count_toNat fits started tick (by omega) (by omega)
      refine ⟨fun unset => (nomatch unset),fun start' isStart => ?_⟩
      obtain rfl : tick.add_signed 1 = start' := Option.some.inj isStart
      simp only [length_resumed,List.length_drop,count]
      omega

/-- The inputs after the popped ones stay. -/
theorem get_pop (fits : self.Fits 0) {tick later : Tick} (after : tick < later) (inside : ¬Beyond self later) :
    ¬Beyond (self.pop tick).2 later ∧ (self.pop tick).2.get later = self.get later := by
  cases started : self.start_tick with
  | none =>
    have same : self.pop tick = (none,self) := by simp only [InputBuffer.pop,started]
    rw [same]
    exact ⟨inside,rfl⟩
  | some start =>
    obtain ⟨positive,inRange,short,-⟩ := fits.room start started
    have isPopped := fits.pop tick
    have next := Tick.toNat_add_signed tick 1
    have stored := inside
    rw [Tick.lt_iff] at after
    rw [beyond_start fits started] at stored
    simp only [InputBuffer.pop,started,Tick.lt_iff,last_tick_toNat positive inRange short] at isPopped ⊢
    split_ifs at isPopped ⊢ with before beyond
    · exact ⟨inside,rfl⟩
    · omega
    · obtain ⟨count,few⟩ := count_toNat fits started tick (by omega) (by omega)
      rw [beyond_start isPopped rfl,get_eq isPopped rfl,get_eq fits started]
      simp only [length_resumed,List.length_drop,count]
      rw [if_neg (by omega),if_neg (by omega),← value_at_resumed self.buffer
        (by omega : (tick.add_signed 1).toNat - start.toNat ≤ later.toNat - start.toNat)]
      refine ⟨by omega,?_⟩
      congr 1
      omega

theorem pop_keeping_last_eq (self : InputBuffer S) (tick : Tick) :
    ∃ clamped ≤ tick,self.pop_keeping_last tick = self.pop clamped := by
  unfold pop_keeping_last
  split
  · exact ⟨tick,le_rfl,rfl⟩
  · rename_i last_tick _ _
    refine ⟨_,?_,rfl⟩
    split_ifs with after
    · refine le_trans ?_ after
      rw [Tick.le_iff,Tick.toNat_sub]
      omega
    · exact le_rfl

end

section
variable {S : Type}

/-- The inputs that were received for ticks to come are in the buffer. -/
structure Holds (input : Tick → Option S) (received : Tick → Prop) (now : Tick) (input_buffer : InputBuffer S) :
    Prop where
  fits : input_buffer.Fits 0
  exist : ∀ tick, received tick → tick.toNat + 1 < 2 ^ 32
  reads : ∀ tick, now < tick → received tick → ¬Beyond input_buffer tick ∧ input_buffer.get tick = input tick

/-- A message fits into the buffer. Those of its ticks to come that count as received were received, none of its new
inputs is for a tick before the buffer, and it says what the buffer has if an input that was received is for a tick to
come after it. -/
structure Deliverable (received : Tick → Prop) (now : Tick) (input_buffer : InputBuffer S)
    (snapshots : List (Compressed S))
    (end_tick : Tick) : Prop where
  fitting : Fitting input_buffer end_tick snapshots.length
  known : ∀ tick delta,Covers end_tick snapshots.length tick delta → now < tick → ¬Newer input_buffer tick →
    received tick
  in_time : ∀ tick delta,Covers end_tick snapshots.length tick delta → Newer input_buffer tick →
    value_at snapshots delta ≠ none → ∀ start_tick ∈ input_buffer.start_tick,start_tick ≤ tick
  agrees : ∀ later,now < later → received later → end_tick < later →
    ∀ tick delta,Covers end_tick snapshots.length tick delta → Newer input_buffer tick →
      input_buffer.get tick = value_at snapshots delta

variable {input : Tick → Option S} {received : Tick → Prop} {now : Tick} {input_buffer : InputBuffer S}

theorem Holds.mono {received' : Tick → Prop} (holds : Holds input received now input_buffer)
    (fewer : ∀ tick,received' tick → received tick) : Holds input received' now input_buffer :=
  ⟨holds.fits,fun tick isReceived => holds.exist tick (fewer tick isReceived),
    fun tick after isReceived => holds.reads tick after (fewer tick isReceived)⟩

/-- A tick is simulated. -/
theorem Holds.update_action_state (holds : Holds input received now input_buffer) (host_client : Bool) :
    (received (now.add 1) → (Inputs.update_action_state host_client (now.add 1) input_buffer).1 = input (now.add 1)) ∧
      Holds input received (now.add 1) (Inputs.update_action_state host_client (now.add 1) input_buffer).2 := by
  have next := Tick.toNat_add now 1
  refine ⟨fun isReceived => ?_,?_⟩
  · have := holds.exist _ isReceived
    obtain ⟨inside,same⟩ := holds.reads (now.add 1) (by rw [Tick.lt_iff]; omega) isReceived
    exact (get_predict_inside holds.fits inside).trans same
  · obtain ⟨clamped,atMost,popped⟩ :=
      pop_keeping_last_eq input_buffer ((now.add 1).sub (if host_client then HISTORY_DEPTH else 1))
    simp only [Inputs.update_action_state,popped]
    refine ⟨holds.fits.pop clamped,holds.exist,fun tick after isReceived => ?_⟩
    rw [Tick.le_iff,Tick.toNat_sub] at atMost
    rw [Tick.lt_iff] at after
    obtain ⟨inside,same⟩ := holds.reads tick (by rw [Tick.lt_iff]; omega) isReceived
    obtain ⟨still,kept⟩ := get_pop holds.fits (show clamped < tick by rw [Tick.lt_iff]; omega) inside
    exact ⟨still,kept.trans same⟩

variable [DecidableEq S]

/-- A message is delivered. -/
theorem Holds.receive {snapshots : List (Compressed S)} {end_tick : Tick}
    (holds : Holds input received now input_buffer)
    (deliverable : Deliverable received now input_buffer snapshots end_tick)
    (said : ∀ tick delta,Covers end_tick snapshots.length tick delta → value_at snapshots delta = input tick)
    (decay_tick : S → S) :
    Holds input (fun tick => received tick ∨ ∃ delta,Covers end_tick snapshots.length tick delta) now
      {(run decay_tick input_buffer (message_start end_tick snapshots.length) snapshots).input_buffer with
        last_remote_tick := some end_tick} := by
  obtain ⟨fitting,known,in_time,agrees⟩ := deliverable
  have spans := fitting.spans
  have starts := fitting.start_toNat
  have values := (values_iff fitting decay_tick).mpr in_time
  have small := fitting.small
  have exist : ∀ tick,(received tick ∨ ∃ delta,Covers end_tick snapshots.length tick delta) →
      tick.toNat + 1 < 2 ^ 32 := by
    rintro tick (isReceived | ⟨delta,within,place⟩)
    · exact holds.exist tick isReceived
    · omega
  rcases run_reads decay_tick spans fun delta inside ⟨newer,value,start,started,before⟩ =>
    (in_time _ delta ((covers_iff fitting _).mpr ⟨inside,rfl⟩) newer value start started).not_gt before with
    ⟨untouched,covered,-⟩ | ⟨first,written,-,-⟩
  · rw [untouched] at values ⊢
    refine ⟨⟨holds.fits.unset,holds.fits.room⟩,exist,fun tick after isReceived => ?_⟩
    rw [get_remote]
    rcases isReceived with isReceived | ⟨delta,covers⟩
    · exact holds.reads tick after isReceived
    · by_cases newer : Newer input_buffer tick
      · obtain ⟨inside,rfl⟩ := (covers_iff fitting tick).mp covers
        exact ⟨covered delta inside newer,(values _ delta covers newer).trans (said _ delta covers)⟩
      · exact holds.reads tick after (known tick delta covers after newer)
  · have fits := written.fits fitting.fits (by omega) small.le (by have := fitting.short; omega)
    have reads := written.get spans
    have firstAt := spans.tick_toNat written.inside
    obtain ⟨start,started,-,-,wide,-⟩ := written.entries
    -- An input that is after the message would stay, as the message changes nothing then.
    have within : ∀ tick,now < tick → received tick → tick ≤ end_tick := by
      intro later after isReceived
      by_contra beyondEnd
      have inside := (holds.reads later after isReceived).1
      have stored : ∀ delta < snapshots.length,
          ¬Beyond input_buffer (message_tick (message_start end_tick snapshots.length) delta) := by
        intro delta within beyond
        refine inside fun last isLast => (beyond last isLast).trans ?_
        have := spans.tick_toNat within
        rw [Tick.le_iff] at beyondEnd
        rw [Tick.lt_iff]
        omega
      have untouched := run_untouched decay_tick spans (fun delta within _ => stored delta within)
        fun delta within newer => (if_pos ((not_beyond_iff _).mpr (stored delta within))).trans
          (agrees later after isReceived (not_le.mp beyondEnd) _ delta ((covers_iff fitting _).mpr ⟨within,rfl⟩) newer)
      rw [untouched] at started wide
      rw [beyond_start fitting.fits started] at inside
      rw [Tick.le_iff] at beyondEnd
      omega
    have stays : ∀ tick,now < tick → received tick →
        (run decay_tick input_buffer (message_start end_tick snapshots.length) snapshots).input_buffer.get tick =
          input tick := by
      intro tick after isReceived
      obtain ⟨inside,same⟩ := holds.reads tick after isReceived
      have atMost := within tick after isReceived
      by_cases before : tick < message_tick (message_start end_tick snapshots.length) first
      · rw [reads.1 tick before,get_predict_inside fitting.fits inside,same]
      · rw [Tick.lt_iff] at before
        rw [Tick.le_iff] at atMost
        have covers : Covers end_tick snapshots.length tick
            (tick.toNat - (message_start end_tick snapshots.length).toNat) :=
          ⟨by omega,by omega⟩
        obtain ⟨inside,isTick⟩ := (covers_iff fitting tick).mp covers
        rw [← said tick _ covers,← reads.2 _ inside (by omega),isTick]
    refine ⟨⟨fits.unset,fun start isStart => ?_⟩,exist,fun tick after isReceived => ?_⟩
    · obtain ⟨positive,inRange,short,-⟩ := fits.room start isStart
      exact ⟨positive,inRange,short,by omega⟩
    · rw [get_remote]
      have atMost : tick ≤ end_tick := by
        rcases isReceived with isReceived | ⟨delta,inside,place⟩
        · exact within tick after isReceived
        · rw [Tick.le_iff]
          omega
      refine ⟨?_,?_⟩
      · rw [Tick.le_iff] at atMost
        have inside := (beyond_start fits started tick).not.mpr (by omega)
        exact inside
      · rcases isReceived with isReceived | ⟨delta,covers⟩
        · exact stays tick after isReceived
        · by_cases newer : Newer input_buffer tick
          · exact (values tick delta covers newer).trans (said tick delta covers)
          · exact stays tick after (known tick delta covers after newer)

end

/-- The timeline of the server, and its inputs of one player. -/
structure InputServer (A : Type) where
  tick : Tick
  input_buffer : InputBuffer (ActionState A)

/-- A message with states for the player arrives, or the next tick is simulated. -/
inductive InputEvent (A : Type) where
  | receive (end_tick : Tick) (states : NativeStateSequence A)
  | simulate

section
variable {A : Type}

/-- The states of a message are the inputs of the client. -/
def Says (input : Tick → Option (ActionState A)) (end_tick : Tick) (states : NativeStateSequence A) : Prop :=
  ∀ tick delta tick_duration,Covers end_tick states.len tick delta →
    value_at (states.get_snapshots_from_message tick_duration) delta = input tick

/-- The message is built from a buffer with the inputs of the client. -/
def Built (input : Tick → Option (ActionState A)) (end_tick : Tick) (states : NativeStateSequence A) : Prop :=
  ∃ sender num_ticks,NativeStateSequence.build_from_input_buffer sender num_ticks end_tick = some states ∧
    sender.Fits (end_tick.toNat + 1) ∧ end_tick.toNat + 1 < 2 ^ 32 ∧ (end_tick.sub num_ticks).add_signed 1 ≤ end_tick ∧
    ∀ start_tick ∈ sender.start_tick,start_tick ≤ end_tick ∧
      ∀ tick,start_tick ≤ tick → tick ≤ end_tick → sender.get tick = input tick

theorem Built.faithful {input : Tick → Option (ActionState A)} {end_tick : Tick} {states : NativeStateSequence A}
    (built : Built input end_tick states) : Says input end_tick states := by
  obtain ⟨sender,num_ticks,isBuilt,fits,below,requested,holds⟩ := built
  intro tick delta tick_duration covers
  obtain ⟨-,-,same⟩ := NativeStateSequence.built_states fits below requested
    (fun start started => (holds start started).1) isBuilt
    tick_duration
  obtain ⟨inside,value⟩ := same tick delta covers
  rw [value]
  cases started : sender.start_tick with
  | none =>
    rw [NativeStateSequence.build_from_input_buffer,started] at isBuilt
    cases isBuilt
  | some start =>
    obtain ⟨within,place⟩ := covers
    exact (holds start started).2 tick (inside start started) (by rw [Tick.le_iff]; omega)

variable [DecidableEq A]

namespace InputServer

def step (host_client : Bool) (tick_duration : Duration) (self : InputServer A) : InputEvent A → InputServer A
  | .receive end_tick states =>
    {self with input_buffer :=
      receive_input_message NativeStateSequence.native self.tick end_tick states tick_duration self.input_buffer}
  | .simulate =>
    let tick := self.tick.add 1
    ⟨tick,(update_action_state host_client tick self.input_buffer).2⟩

def run (host_client : Bool) (tick_duration : Duration) (self : InputServer A) (events : List (InputEvent A)) :
    InputServer A :=
  events.foldl (step host_client tick_duration) self

end InputServer

section
variable (host_client : Bool) (tick_duration : Duration) (start : InputServer A) (events : List (InputEvent A))

/-- A tick is covered by a message that was accepted. -/
def Received (tick : Tick) : Prop :=
  ∃ before end_tick states after delta,events = before ++ .receive end_tick states :: after ∧
    is_input_within_lookahead end_tick (start.run host_client tick_duration before).tick ∧
    Covers end_tick states.len tick delta

/-- Whenever a tick is simulated that was received before, it is simulated with the input of the client. -/
def Faithful (input : Tick → Option (ActionState A)) : Prop :=
  ∀ before after,events = before ++ .simulate :: after →
    let server := start.run host_client tick_duration before
    let tick := server.tick.add 1
    Received host_client tick_duration start before tick →
      (update_action_state host_client tick server.input_buffer).1 = input tick

/-- Every message that is accepted fits into the buffer. -/
def DeliverableRun : Prop :=
  ∀ before end_tick states after,events = before ++ .receive end_tick states :: after →
    let server := start.run host_client tick_duration before
    is_input_within_lookahead end_tick server.tick →
      Deliverable (Received host_client tick_duration start before) server.tick server.input_buffer
        (states.get_snapshots_from_message tick_duration) end_tick

end

variable {host_client : Bool} {tick_duration : Duration} {start : InputServer A} {events : List (InputEvent A)}

private theorem received_snoc (event : InputEvent A) (tick : Tick) :
    Received host_client tick_duration start (events ++ [event]) tick ↔
      Received host_client tick_duration start events tick ∨
        ∃ end_tick states delta,event = .receive end_tick states ∧
          is_input_within_lookahead end_tick (start.run host_client tick_duration events).tick ∧
          Covers end_tick states.len tick delta := by
  constructor
  · rintro ⟨before,end_tick,states,after,delta,split,accepted,covers⟩
    rcases List.eq_nil_or_concat after with rfl | ⟨after,last,rfl⟩
    · obtain ⟨rfl,same⟩ := List.append_inj' split rfl
      exact .inr ⟨end_tick,states,delta,List.singleton_inj.mp same,accepted,covers⟩
    · rw [List.concat_eq_append,← List.cons_append,← List.append_assoc] at split
      obtain ⟨rfl,-⟩ := List.append_inj' split rfl
      exact .inl ⟨before,end_tick,states,after,delta,rfl,accepted,covers⟩
  · rintro (⟨before,end_tick,states,after,delta,rfl,accepted,covers⟩ | ⟨end_tick,states,delta,rfl,accepted,covers⟩)
    · exact ⟨before,end_tick,states,after ++ [event],delta,by simp,accepted,covers⟩
    · exact ⟨events,end_tick,states,[],delta,rfl,accepted,covers⟩

/-- The inputs that were received for ticks to come are in the buffer after every run. -/
theorem holds_run {input : Tick → Option (ActionState A)} (tick : Tick) (events : List (InputEvent A))
    (said : ∀ end_tick states,.receive end_tick states ∈ events → Says input end_tick states)
    (deliverable : DeliverableRun host_client tick_duration ⟨tick,.default⟩ events) :
    let server := (⟨tick,.default⟩ : InputServer A).run host_client tick_duration events
    Holds input (Received host_client tick_duration ⟨tick,.default⟩ events) server.tick server.input_buffer := by
  induction events using List.reverseRecOn with
  | nil =>
    have none : ∀ later,¬Received host_client tick_duration (⟨tick,.default⟩ : InputServer A) [] later :=
      fun _ ⟨before,_,_,_,_,split,_⟩ => by simp at split
    exact ⟨⟨fun _ => rfl,fun _ isStart => nomatch isStart⟩,fun later isReceived => absurd isReceived (none later),
      fun later _ isReceived => absurd isReceived (none later)⟩
  | append_singleton events event ih =>
    have holds := ih (fun end_tick states member => said end_tick states (List.mem_append_left _ member))
      fun before end_tick states after split => deliverable before end_tick states (after ++ [event]) (by simp [split])
    intro server
    have last : server = ((⟨tick,.default⟩ : InputServer A).run host_client tick_duration events).step host_client
        tick_duration event := by
      simp [server,InputServer.run]
    rw [last]
    cases event with
    | simulate =>
      refine (holds.update_action_state host_client).2.mono fun later isReceived => ?_
      rcases (received_snoc _ later).mp isReceived with isReceived | ⟨_,_,_,isReceive,-⟩
      · exact isReceived
      · exact nomatch isReceive
    | receive end_tick states =>
      simp only [InputServer.step,receive_input_message]
      by_cases accepted : is_input_within_lookahead end_tick
          ((⟨tick,.default⟩ : InputServer A).run host_client tick_duration events).tick
      · have fits := deliverable events end_tick states [] rfl accepted
        have length : (states.get_snapshots_from_message tick_duration).length = states.len :=
          NativeStateSequence.native.length_snapshots states tick_duration
        have delivered := holds.receive fits
          (fun later delta covers => said end_tick states (by simp) later delta tick_duration
            (length ▸ covers)) fun input => input
        rw [if_pos accepted,update_buffer_eq]
        rw [length] at delivered
        refine delivered.mono fun later isReceived => ?_
        rcases (received_snoc _ later).mp isReceived with isReceived | ⟨_,_,delta,same,-,covers⟩
        · exact .inl isReceived
        · obtain ⟨rfl,rfl⟩ := InputEvent.receive.inj same
          exact .inr ⟨delta,covers⟩
      · rw [if_neg accepted]
        refine holds.mono fun later isReceived => ?_
        rcases (received_snoc _ later).mp isReceived with isReceived | ⟨_,_,_,same,isAccepted,-⟩
        · exact isReceived
        · obtain ⟨rfl,rfl⟩ := InputEvent.receive.inj same
          exact absurd isAccepted accepted

/-- If every message that is accepted fits into the buffer, the inputs that were received are simulated as they are. -/
theorem received_inputs_simulated (host_client : Bool) (tick_duration : Duration) (tick : Tick)
    (input : Tick → Option (ActionState A)) (events : List (InputEvent A))
    (said : ∀ end_tick states,.receive end_tick states ∈ events → Says input end_tick states)
    (deliverable : DeliverableRun host_client tick_duration ⟨tick,.default⟩ events) :
    Faithful host_client tick_duration ⟨tick,.default⟩ events input := by
  rintro before after rfl
  have holds := holds_run tick before
    (fun end_tick states member => said end_tick states (List.mem_append_left _ member))
    fun earlier end_tick states rest split => deliverable earlier end_tick states (rest ++ .simulate :: after)
      (by simp [split])
  exact (holds.update_action_state host_client).1

end

/-- The inputs 1, 2 and 3 at the ticks 1, 2 and 3. -/
private def counting (tick : Tick) : Option (ActionState Nat) :=
  if 1 ≤ tick.toNat ∧ tick.toNat ≤ 3 then some ⟨tick.toNat⟩ else none

private theorem built_counting {end_tick : Tick} {states : NativeStateSequence Nat}
    (isBuilt : NativeStateSequence.build_from_input_buffer ⟨some 1,[.Input ⟨1⟩,.Input ⟨2⟩,.Input ⟨3⟩],none⟩ 2 end_tick =
      some states)
    (inside : 2 ≤ end_tick.toNat ∧ end_tick.toNat ≤ 3) : Built counting end_tick states := by
  have requested := Tick.toNat_add_signed (end_tick.sub 2) 1
  refine ⟨_,2,isBuilt,⟨fun unset => (nomatch unset),fun start isStart => ?_⟩,by omega,?_,fun start isStart => ⟨?_,?_⟩⟩
  · obtain rfl : (1 : Tick) = start := Option.some.inj isStart
    simp
    omega
  · rw [Tick.le_iff,requested,Tick.toNat_sub]
    omega
  all_goals obtain rfl : (1 : Tick) = start := Option.some.inj isStart
  · exact (Tick.le_iff _ _).mpr (show 1 ≤ end_tick.toNat by omega)
  · intro tick after before
    have first : 1 ≤ tick.toNat := (Tick.le_iff _ _).mp after
    rw [Tick.le_iff] at before
    obtain same | same | same : tick.toNat = (1 : Tick).toNat ∨ tick.toNat = (2 : Tick).toNat ∨
        tick.toNat = (3 : Tick).toNat := by
      simp
      omega
    all_goals
      obtain rfl := BitVec.eq_of_toNat_eq same
      decide

/-- Two messages that overlap, and the tick of the first input. -/
private def overlapping : List (InputEvent Nat) :=
  [.receive 2 ⟨[.Input 1,.Input 2]⟩,.receive 3 ⟨[.Input 2,.Input 3]⟩,.simulate]

theorem received_inputs_simulated_overlapping : Faithful false 0 ⟨0,.default⟩ overlapping counting := by
  refine received_inputs_simulated false 0 0 counting overlapping ?_ ?_
  · intro end_tick states member
    simp only [overlapping,List.mem_cons,InputEvent.receive.injEq,List.not_mem_nil,or_false,reduceCtorEq] at member
    obtain ⟨rfl,rfl⟩ | ⟨rfl,rfl⟩ := member
    all_goals exact (built_counting rfl (by decide)).faithful
  · have first : Deliverable (Received false 0 (⟨0,.default⟩ : InputServer Nat) []) 0
      (.default : InputBuffer (ActionState Nat))
        [.Input ⟨1⟩,.Input ⟨2⟩] 2 := by
      refine ⟨⟨⟨fun _ => rfl,fun _ isStart => (nomatch isStart)⟩,by decide,by decide,by decide⟩,
        fun _ _ _ _ isKnown => absurd (fun _ isLast => (nomatch isLast)) isKnown,fun _ _ _ _ _ _ isStart =>
          (nomatch isStart),
        fun _ _ ⟨_,_,_,_,_,split,_⟩ => by simp at split⟩
    have second : Deliverable (Received false 0 ⟨0,.default⟩ [.receive 2 ⟨[.Input 1,.Input 2]⟩]) 0
        ⟨some 1,[.Input ⟨1⟩,.Input ⟨2⟩],some 2⟩ [.Input (⟨2⟩ : ActionState Nat),.Input ⟨3⟩] 3 := by
      have received : ∀ tick,Received false 0 ⟨0,.default⟩ [.receive 2 ⟨[.Input 1,.Input 2]⟩] tick ↔
          1 ≤ tick.toNat ∧ tick.toNat ≤ 2 := by
        intro tick
        rw [← List.nil_append [InputEvent.receive _ _],received_snoc]
        constructor
        · rintro (⟨_,_,_,_,_,split,_⟩ | ⟨end_tick,states,delta,same,-,within,place⟩)
          · simp at split
          · obtain ⟨rfl,rfl⟩ := InputEvent.receive.inj same
            simp [NativeStateSequence.len] at within place
            omega
        · rintro ⟨after,before⟩
          exact .inr ⟨2,_,tick.toNat - 1,rfl,by decide,by simp [NativeStateSequence.len]; omega,
            by simp [NativeStateSequence.len]; omega⟩
      refine ⟨⟨⟨fun unset => (nomatch unset),fun start isStart => ?_⟩,by decide,by decide,by decide⟩,
        fun tick delta ⟨within,place⟩ _ isKnown => ?_,fun tick delta ⟨within,place⟩ _ _ start isStart => ?_,
        fun later _ isReceived after => ?_⟩
      · obtain rfl : (1 : Tick) = start := Option.some.inj isStart
        decide
      · refine (received tick).mpr ?_
        have early : ¬(2 : Tick) < tick := fun newer => isKnown fun last isLast => by
          obtain rfl : (2 : Tick) = last := Option.some.inj isLast
          exact newer
        rw [Tick.lt_iff] at early
        simp at early place
        omega
      · obtain rfl : (1 : Tick) = start := Option.some.inj isStart
        rw [Tick.le_iff]
        simp at place ⊢
        omega
      · have := (received later).mp isReceived
        rw [Tick.lt_iff] at after
        simp at after
        omega
    intro before end_tick states after split
    match before,split with
    | [],split =>
      obtain ⟨rfl,rfl⟩ := InputEvent.receive.inj (List.cons.inj split).1
      exact fun _ => first
    | [_],split =>
      obtain ⟨rfl,rest⟩ := List.cons.inj split
      obtain ⟨rfl,rfl⟩ := InputEvent.receive.inj (List.cons.inj rest).1
      exact fun _ => second
    | _ :: _ :: _,split => simp [overlapping,List.cons_eq_append_iff] at split

/-- The message with the ticks 1 and 2 arrives after the one with the ticks 2 and 3. Tick 1 is not after tick 3, so it
is taken for received and has no input. -/
theorem late_message_ignored :
    ¬∀ (input : Tick → Option (ActionState Nat)) (events : List (InputEvent Nat)),
      (∀ end_tick states,.receive end_tick states ∈ events → Built input end_tick states) →
      Faithful false 0 ⟨0,.default⟩ events input := by
  intro faithful
  have read := faithful counting [.receive 3 ⟨[.Input 2,.Input 3]⟩,.receive 2 ⟨[.Input 1,.Input 2]⟩,.simulate]
    (fun end_tick states member => by
      simp only [List.mem_cons,InputEvent.receive.injEq,List.not_mem_nil,or_false,reduceCtorEq] at member
      obtain ⟨rfl,rfl⟩ | ⟨rfl,rfl⟩ := member
      all_goals exact built_counting rfl (by decide))
    [.receive 3 ⟨[.Input 2,.Input 3]⟩,.receive 2 ⟨[.Input 1,.Input 2]⟩] [] rfl
    ⟨[.receive 3 ⟨[.Input 2,.Input 3]⟩],2,⟨[.Input 1,.Input 2]⟩,[],0,rfl,by decide,by decide⟩
  exact absurd read (by decide)

end Lightyear.Inputs
