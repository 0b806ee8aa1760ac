import Lightyear.Ids
import Lightyear.Runs

/-!
`ping/manager.rs` and `ping/store.rs`. A ping is remembered by the instant at which it was sent, in a
slot that it shares with every 128th ping; the slot does not tell whose instant it holds.
-/
namespace Lightyear.Sync
open Lightyear.Ids Lightyear.Ids.WrappingId

abbrev PingId := WrappingId

/-- In nanoseconds. -/
abbrev Instant := Nat
abbrev Duration := Nat

structure SequenceBuffer (T : Type) (N : Nat) where
  buffer : Vector (Option T) N

namespace SequenceBuffer
variable {T : Type} {N : Nat} [NeZero N]

def new : SequenceBuffer T N := ⟨Vector.replicate N none⟩

/-- `key.rem(N)` -/
def index (N : Nat) [NeZero N] (key : WrappingId) : Fin N := Fin.ofNat N key.val.toNat

def push (self : SequenceBuffer T N) (key : WrappingId) (value : T) : SequenceBuffer T N :=
  ⟨self.buffer.set (index N key) (some value)⟩

def get (self : SequenceBuffer T N) (key : WrappingId) : Option T := self.buffer[index N key]

def remove (self : SequenceBuffer T N) (key : WrappingId) : Option T × SequenceBuffer T N :=
  (self.get key,⟨self.buffer.set (index N key) none⟩)

theorem get_new (key : WrappingId) : (new : SequenceBuffer T N).get key = none := by
  simp [new,get]

theorem get_set (self : SequenceBuffer T N) (key other : WrappingId) (value : Option T) :
    (⟨self.buffer.set (index N key) value⟩ : SequenceBuffer T N).get other =
      if index N other = index N key then value else self.get other := by
  rw [get]
  by_cases same : index N other = index N key
  · simp [same]
  · simp only [Fin.getElem_fin,if_neg same]
    exact Vector.getElem_set_ne _ _ fun equal => same (Fin.ext equal.symm)

end SequenceBuffer

abbrev PING_BUFFER_SIZE : Nat := 128

structure PingStore where
  latest_ping_id : PingId
  buffer : SequenceBuffer Instant PING_BUFFER_SIZE

namespace PingStore

def new : PingStore := ⟨zero,.new⟩

def push_new (self : PingStore) (now : Instant) : PingId × PingStore :=
  (self.latest_ping_id,⟨self.latest_ping_id.add_assign 1,self.buffer.push self.latest_ping_id now⟩)

def remove (self : PingStore) (ping_id : PingId) : Option Instant × PingStore :=
  ((self.buffer.remove ping_id).1,{self with buffer := (self.buffer.remove ping_id).2})

end PingStore

structure Pong (FrameTime : Type) where
  ping_id : PingId
  frame_time : FrameTime

/-- The estimator is given by the samples that it gets. -/
structure PingManager where
  ping_interval : Duration
  ping_timer : Duration
  ping_store : PingStore
  most_recent_received_ping : Option PingId
  pings_sent : Nat
  pongs_recv : Nat
  latency_samples : List Duration

namespace PingManager

def new (ping_interval : Duration) : PingManager := ⟨ping_interval,0,.new,none,0,0,[]⟩

def update (self : PingManager) (delta : Duration) : PingManager := {self with ping_timer := self.ping_timer + delta}

def record_rtt_sample (self : PingManager) (rtt_sample : Duration) : PingManager :=
  {self with latency_samples := self.latency_samples ++ [rtt_sample]}

def maybe_prepare_ping (self : PingManager) (now : Instant) : Option PingId × PingManager :=
  if self.ping_interval ≤ self.ping_timer then
    let pushed := self.ping_store.push_new now
    (some pushed.1,{self with ping_timer := 0,ping_store := pushed.2,pings_sent := self.pings_sent + 1})
  else (none,self)

/-- `is_none_or(|latest| pong.ping_id > latest)` -/
def newer (self : PingManager) (ping_id : PingId) :
    Bool := self.most_recent_received_ping.all fun latest => ping_id.gt latest

/-- Differences of times stop at 0. -/
def round_trip_delay (sent received server_process_time : Nat) : Duration := received - sent - server_process_time

def process_pong {FrameTime : Type} (to_duration : FrameTime → Duration → Duration) (self : PingManager)
    (pong : Pong FrameTime) (now : Instant) (tick_duration : Duration) : PingManager :=
  let removed := self.ping_store.remove pong.ping_id
  let counted := {self with ping_store := removed.2,pongs_recv := self.pongs_recv + 1}
  match removed.1 with
  | none => counted
  | some ping_sent_time =>
    if self.newer pong.ping_id then
      {counted with most_recent_received_ping := some pong.ping_id}.record_rtt_sample
        (round_trip_delay ping_sent_time now (to_duration pong.frame_time tick_duration))
    else counted

end PingManager

theorem process_pong_cases {FrameTime : Type} (to_duration : FrameTime → Duration → Duration) (manager : PingManager)
    (pong : Pong FrameTime) (now : Instant) (tick_duration : Duration) :
    (manager.process_pong to_duration pong now tick_duration).ping_store = (manager.ping_store.remove pong.ping_id).2 ∧
      ((manager.ping_store.buffer.get pong.ping_id = none ∨ manager.newer pong.ping_id = false) ∧
          (manager.process_pong to_duration pong now tick_duration).latency_samples = manager.latency_samples ∧
          (manager.process_pong to_duration pong now tick_duration).most_recent_received_ping =
            manager.most_recent_received_ping ∨
        ∃ sent, manager.ping_store.buffer.get pong.ping_id = some sent ∧ manager.newer pong.ping_id = true ∧
          (manager.process_pong to_duration pong now tick_duration).latency_samples = manager.latency_samples ++
            [PingManager.round_trip_delay sent now (to_duration pong.frame_time tick_duration)] ∧
          (manager.process_pong to_duration pong now tick_duration).most_recent_received_ping = some pong.ping_id) := by
  simp only [PingManager.process_pong]
  split
  · next removed => exact ⟨rfl,.inl ⟨.inl removed,rfl,rfl⟩⟩
  · next sent removed =>
    cases newer : manager.newer pong.ping_id with
    | false => exact ⟨rfl,.inl ⟨.inr rfl,rfl,rfl⟩⟩
    | true => exact ⟨rfl,.inr ⟨sent,removed,rfl,rfl,rfl⟩⟩

/-! ### Runs -/

/-- A pong, by the number of the ping that it answers. -/
structure Answer (FrameTime : Type) where
  ping : Nat
  frame_time : FrameTime
  now : Instant
  tick_duration : Duration
deriving DecidableEq

/-- The manager, the instants at which the pings were sent, whose instant is in each slot, and the pongs of
which there is a sample. -/
structure Run (FrameTime : Type) where
  manager : PingManager
  instants : List Instant
  owners : SequenceBuffer Nat PING_BUFFER_SIZE
  answered : List (Answer FrameTime)

inductive Event (FrameTime : Type)
  | update (delta : Duration)
  | maybe_prepare_ping (now : Instant)
  | process_pong (answer : Answer FrameTime)

namespace Run
variable {FrameTime : Type}

def start (ping_interval : Duration) : Run FrameTime := ⟨.new ping_interval,[],.new,[]⟩

/-- A pong answers a ping that was sent. -/
def step (to_duration : FrameTime → Duration → Duration) (self : Run FrameTime) :
    Event FrameTime → Option (Run FrameTime)
  | .update delta => some {self with manager := self.manager.update delta}
  | .maybe_prepare_ping now =>
    match self.manager.maybe_prepare_ping now with
    | (none,manager) => some {self with manager := manager}
    | (some ping_id,manager) =>
      some ⟨manager,self.instants ++ [now],self.owners.push ping_id self.instants.length,self.answered⟩
  | .process_pong answer =>
    if answer.ping < self.instants.length then
      let manager := self.manager.process_pong to_duration
        ⟨ofIndex answer.ping,answer.frame_time⟩ answer.now answer.tick_duration
      some ⟨manager,self.instants,(self.owners.remove (ofIndex answer.ping)).2,
        if manager.latency_samples.length = self.manager.latency_samples.length then self.answered
        else self.answered ++ [answer]⟩
    else none

/-- The slot of the ping that a pong answers does not hold the instant of another ping, or the pong is too
old to be sampled. -/
def Own (self : Run FrameTime) : Event FrameTime → Run FrameTime → Prop
  | .process_pong answer, _ => ∀ other ∈ self.owners.get (ofIndex answer.ping), other ≠ answer.ping →
      self.manager.newer (ofIndex answer.ping) = false
  | _, _ => True

instance (self : Run FrameTime) (event : Event FrameTime) (after : Run FrameTime) :
    Decidable (self.Own event after) := by
  cases event <;> unfold Own <;> infer_instance

/-- The sample of a pong is computed from the instant at which its ping was sent. -/
def Computed (to_duration : FrameTime → Duration → Duration) (self : Run FrameTime) (sample : Duration)
    (answer : Answer FrameTime) : Prop :=
  ∃ sent, self.instants[answer.ping]? = some sent ∧
    sample = PingManager.round_trip_delay sent answer.now (to_duration answer.frame_time answer.tick_duration)

structure Attributed (to_duration : FrameTime → Duration → Duration) (run : Run FrameTime) : Prop where
  samples : List.Forall₂ (run.Computed to_duration) run.manager.latency_samples run.answered
  once : (run.answered.map (·.ping)).Nodup
  increasing : run.answered.Pairwise fun earlier later => earlier.ping < later.ping ∧
    (later.ping < earlier.ping + 2 ^ 15 → (ofIndex later.ping).gt (ofIndex earlier.ping) = true)

/-- The slot of a ping. -/
theorem index_ofIndex (n : Nat) : (SequenceBuffer.index PING_BUFFER_SIZE (ofIndex n)).val = n % PING_BUFFER_SIZE := by
  have reduced : (ofIndex n).val.toNat = n % 2 ^ 16 := by
    simp [ofIndex,Serial.wrap,BitVec.ofInt_natCast]
  rw [SequenceBuffer.index,Fin.val_ofNat,reduced]
  exact Nat.mod_mod_of_dvd n (by decide)

theorem index_eq_iff (n m : Nat) :
    SequenceBuffer.index PING_BUFFER_SIZE (ofIndex n) = SequenceBuffer.index PING_BUFFER_SIZE (ofIndex m) ↔
      n % PING_BUFFER_SIZE = m % PING_BUFFER_SIZE := by
  rw [Fin.ext_iff,index_ofIndex,index_ofIndex]

/-- A slot holds the instant of the last ping that used it, unless a pong has taken it. -/
structure Holds (to_duration : FrameTime → Duration → Duration) (run : Run FrameTime) : Prop where
  next : run.manager.ping_store.latest_ping_id = ofIndex run.instants.length
  slots : ∀ key, run.manager.ping_store.buffer.get key = (run.owners.get key).bind (run.instants[·]?)
  owners : ∀ n owner : Nat, run.owners.get (ofIndex n) = some owner →
    owner < run.instants.length ∧ owner % PING_BUFFER_SIZE = n % PING_BUFFER_SIZE ∧
      ∀ later < run.instants.length, later % PING_BUFFER_SIZE = n % PING_BUFFER_SIZE → later ≤ owner
  samples : List.Forall₂ (run.Computed to_duration) run.manager.latency_samples run.answered
  increasing : run.answered.Pairwise fun earlier later => earlier.ping < later.ping
  recent : run.manager.most_recent_received_ping = run.answered.getLast?.map fun answer => ofIndex answer.ping
  sent : ∀ answer ∈ run.answered, answer.ping < run.instants.length
  taken : ∀ answer ∈ run.answered, run.owners.get (ofIndex answer.ping) ≠ some answer.ping

variable {to_duration : FrameTime → Duration → Duration}

theorem Holds.start (ping_interval : Duration) : Holds to_duration (start ping_interval : Run FrameTime) where
  next := rfl
  slots key := by
    change (SequenceBuffer.new : SequenceBuffer Instant _).get key =
      ((SequenceBuffer.new : SequenceBuffer Nat _).get key).bind _
    rw [SequenceBuffer.get_new key]
    simp
  owners n owner isOwner := by
    change (SequenceBuffer.new : SequenceBuffer Nat _).get _ = _ at isOwner
    rw [SequenceBuffer.get_new] at isOwner
    cases isOwner
  samples := .nil
  increasing := .nil
  recent := rfl
  sent _ mem := by cases mem
  taken _ mem := by cases mem

/-- A sample stays what it is while more pings are sent. -/
theorem Computed.mono {before after : Run FrameTime} (more : before.instants <+: after.instants) {sample : Duration}
    {answer : Answer FrameTime} (computed : before.Computed to_duration sample answer) :
    after.Computed to_duration sample answer := by
  obtain ⟨sent,isSent,value⟩ := computed
  refine ⟨sent,?_,value⟩
  obtain ⟨rest,split⟩ := more
  rw [← split,List.getElem?_append_left (List.getElem?_eq_some_iff.mp isSent).1]
  exact isSent

theorem Holds.ping {self : Run FrameTime} (holds : Holds to_duration self) (now : Instant) (manager : PingManager)
    (store : manager.ping_store = (self.manager.ping_store.push_new now).2)
    (recent : manager.most_recent_received_ping = self.manager.most_recent_received_ping)
    (samples : manager.latency_samples = self.manager.latency_samples) :
    Holds to_duration (⟨manager,self.instants ++ [now],
      self.owners.push (ofIndex self.instants.length) self.instants.length,self.answered⟩ : Run FrameTime) := by
  have owner (key : WrappingId) : (self.owners.push (ofIndex self.instants.length) self.instants.length).get key =
      if SequenceBuffer.index PING_BUFFER_SIZE key = SequenceBuffer.index PING_BUFFER_SIZE
        (ofIndex self.instants.length)
      then some self.instants.length else self.owners.get key :=
    SequenceBuffer.get_set self.owners (ofIndex self.instants.length) key (some self.instants.length)
  refine ⟨?_,fun key => ?_,fun n m isOwner => ?_,?_,holds.increasing,recent.trans holds.recent,fun answer mem => ?_,
    fun answer mem => ?_⟩
  · rw [store,List.length_append]
    change self.manager.ping_store.latest_ping_id.add_assign 1 = _
    rw [holds.next,add_assign_ofIndex]
    simp
  · change manager.ping_store.buffer.get key = ((self.owners.push _ _).get key).bind _
    rw [store,owner]
    change (self.manager.ping_store.buffer.push self.manager.ping_store.latest_ping_id now).get key = _
    rw [SequenceBuffer.push,SequenceBuffer.get_set,holds.next]
    split
    · simp
    · rw [holds.slots key]
      obtain ⟨n,-,rfl⟩ := ofIndex_surjective key
      cases isOwner : self.owners.get (ofIndex n) with
      | none => rfl
      | some m => exact (List.getElem?_append_left (holds.owners n m isOwner).1).symm
  · change (self.owners.push _ _).get _ = _ at isOwner
    rw [owner] at isOwner
    change m < (self.instants ++ [now]).length ∧ _ ∧ ∀ later < (self.instants ++ [now]).length, _
    rw [List.length_append,List.length_singleton]
    split at isOwner
    · next same =>
      cases isOwner
      exact ⟨Nat.lt_succ_self _,((index_eq_iff _ _).mp same).symm,fun later below _ => Nat.le_of_lt_succ below⟩
    · next other =>
      obtain ⟨below,sameSlot,last⟩ := holds.owners n m isOwner
      refine ⟨Nat.lt_succ_of_lt below,sameSlot,fun later below' slot => ?_⟩
      obtain below' | rfl := Nat.lt_succ_iff_lt_or_eq.mp below'
      · exact last later below' slot
      · exact absurd ((index_eq_iff _ _).mpr slot.symm) other
  · change List.Forall₂ _ manager.latency_samples self.answered
    rw [samples]
    exact holds.samples.imp fun _ _ computed => computed.mono ⟨[now],rfl⟩
  · change answer.ping < (self.instants ++ [now]).length
    rw [List.length_append]
    exact Nat.lt_add_right _ (holds.sent answer mem)
  · change (self.owners.push _ _).get _ ≠ _
    rw [owner]
    split
    · exact fun same => absurd (holds.sent answer mem) (by rw [Option.some.inj same]; exact lt_irrefl _)
    · exact holds.taken answer mem

/-- Of two pings within 128 of each other the later one has the greater id. -/
theorem ping_lt_of_gt {earlier later : Nat} (near : earlier < later + PING_BUFFER_SIZE)
    (greater : (ofIndex later).gt (ofIndex earlier) = true) : earlier < later := by
  have size : PING_BUFFER_SIZE = 128 := rfl
  by_contra notLess
  rw [gt_ofIndex (by omega) (by omega)] at greater
  have := of_decide_eq_true greater
  omega

/-- The slot of a ping after a pong, and all other slots. -/
theorem get_remove (owners : SequenceBuffer Nat PING_BUFFER_SIZE) (ping n : Nat) :
    (owners.remove (ofIndex ping)).2.get (ofIndex n) =
      if n % PING_BUFFER_SIZE = ping % PING_BUFFER_SIZE then none else owners.get (ofIndex n) := by
  rw [SequenceBuffer.remove,SequenceBuffer.get_set]
  exact if_congr (index_eq_iff n ping) rfl rfl

theorem Holds.slot_taken {self : Run FrameTime} (holds : Holds to_duration self) (answer : Answer FrameTime)
    (manager : PingManager)
    (answered : List (Answer FrameTime))
    (store : manager.ping_store = (self.manager.ping_store.remove (ofIndex answer.ping)).2)
    (samples : List.Forall₂ (self.Computed to_duration) manager.latency_samples answered)
    (increasing : answered.Pairwise fun earlier later => earlier.ping < later.ping)
    (recent : manager.most_recent_received_ping = answered.getLast?.map fun answer => ofIndex answer.ping)
    (sent : ∀ answer ∈ answered, answer.ping < self.instants.length)
    (taken : ∀ other ∈ answered, self.owners.get (ofIndex other.ping) = some other.ping →
      other.ping % PING_BUFFER_SIZE = answer.ping % PING_BUFFER_SIZE) :
    Holds to_duration
      (⟨manager,self.instants,(self.owners.remove (ofIndex answer.ping)).2,answered⟩ : Run FrameTime) := by
  refine ⟨?_,fun key => ?_,fun n owner isOwner => ?_,samples,increasing,recent,sent,fun other mem => ?_⟩
  · rw [store]
    exact holds.next
  · obtain ⟨n,-,rfl⟩ := ofIndex_surjective key
    rw [store,get_remove]
    change (self.manager.ping_store.buffer.remove _).2.get _ = _
    rw [SequenceBuffer.remove,SequenceBuffer.get_set,holds.slots]
    by_cases same : n % PING_BUFFER_SIZE = answer.ping % PING_BUFFER_SIZE
    · rw [if_pos same,if_pos ((index_eq_iff n answer.ping).mpr same)]
      rfl
    · rw [if_neg same,if_neg fun index => same ((index_eq_iff n answer.ping).mp index)]
  · rw [get_remove] at isOwner
    split at isOwner
    · cases isOwner
    · exact holds.owners n owner isOwner
  · rw [get_remove]
    split
    · simp
    · next elsewhere => exact fun isOwner => elsewhere (taken other mem isOwner)

theorem Holds.pong {self after : Run FrameTime} (holds : Holds to_duration self) {answer : Answer FrameTime}
    (executed : self.step to_duration (.process_pong answer) = some after)
    (own : self.Own (.process_pong answer) after) :
    Holds to_duration after := by
  simp only [step] at executed
  split at executed
  · next below =>
    cases executed
    obtain ⟨store,⟨-,samples,recent⟩ | ⟨sent,found,newer,samples,recent⟩⟩ := process_pong_cases to_duration self.manager
      ⟨ofIndex answer.ping,answer.frame_time⟩ answer.now answer.tick_duration
    · rw [if_pos (by rw [samples])]
      exact holds.slot_taken answer _ _ store (samples ▸ holds.samples) holds.increasing
        (recent.trans holds.recent) holds.sent
        fun other mem isOwner => absurd isOwner (holds.taken other mem)
    · rw [if_neg (by simp [samples])]
      -- the slot holds an instant, which can only be that of the ping itself
      obtain ⟨owner,isOwner,isSent⟩ := Option.bind_eq_some_iff.mp ((holds.slots _).symm.trans found)
      obtain rfl : owner = answer.ping := by
        by_contra other
        exact absurd (own owner isOwner other) (by simp [newer])
      obtain ⟨-,-,last⟩ := holds.owners answer.ping answer.ping isOwner
      have near : ∀ ping < self.instants.length, ping < answer.ping + PING_BUFFER_SIZE := by
        intro ping sent
        by_contra far
        have lower := last (answer.ping + PING_BUFFER_SIZE) (by omega) (Nat.add_mod_right ..)
        have size : PING_BUFFER_SIZE = 128 := rfl
        omega
      have above : ∀ earlier ∈ self.answered, earlier.ping < answer.ping := by
        obtain empty | ⟨before,latest,split⟩ := List.eq_nil_or_concat' self.answered
        · simp [empty]
        · have greater : (ofIndex answer.ping).gt (ofIndex latest.ping) = true := by
            have isRecent := holds.recent
            rw [split,List.getLast?_concat] at isRecent
            simpa [PingManager.newer,isRecent] using newer
          have step := ping_lt_of_gt (near latest.ping (holds.sent latest (by simp [split]))) greater
          have increasing := holds.increasing
          rw [split,List.pairwise_append] at increasing
          intro earlier mem
          rw [split,List.mem_append,List.mem_singleton] at mem
          obtain mem | rfl := mem
          · exact (increasing.2.2 earlier mem latest (List.mem_singleton_self _)).trans step
          · exact step
      refine holds.slot_taken answer _ _ store ?_ ?_ ?_ ?_ ?_
      · rw [samples]
        exact List.rel_append holds.samples (.cons ⟨sent,isSent,rfl⟩ .nil)
      · exact List.pairwise_append.mpr ⟨holds.increasing,List.pairwise_singleton _ _,by simpa using above⟩
      · rw [recent,List.getLast?_concat]
        rfl
      · exact List.forall_mem_append.mpr ⟨holds.sent,by simpa using below⟩
      · refine List.forall_mem_append.mpr ⟨fun other mem isOwner' => absurd isOwner' (holds.taken other mem),?_⟩
        simp
  · cases executed

theorem Holds.step {self after : Run FrameTime} (holds : Holds to_duration self) (event : Event FrameTime)
    (executed : self.step to_duration event = some after) (own : self.Own event after) : Holds to_duration after := by
  cases event with
  | update delta =>
    cases executed
    exact ⟨holds.next,holds.slots,holds.owners,holds.samples,holds.increasing,holds.recent,holds.sent,holds.taken⟩
  | maybe_prepare_ping now =>
    simp only [Run.step,PingManager.maybe_prepare_ping] at executed
    split_ifs at executed
    · cases executed
      have pinged := holds.ping now {self.manager with
        ping_timer := 0,ping_store := (self.manager.ping_store.push_new now).2,
        pings_sent := self.manager.pings_sent + 1} rfl rfl rfl
      rwa [← holds.next] at pinged
    · cases executed
      exact holds
  | process_pong answer => exact holds.pong executed own

theorem Holds.attributed {run : Run FrameTime} (holds : Holds to_duration run) : Attributed to_duration run where
  samples := holds.samples
  once := by
    rw [List.Nodup,List.pairwise_map]
    exact holds.increasing.imp fun less => ne_of_lt less
  increasing := by
    refine holds.increasing.imp fun less => ⟨less,fun near => ?_⟩
    rw [gt_ofIndex (by omega) (by omega)]
    exact decide_eq_true (by omega)

end Run

open Runs in
/-- In a run in which no pong is sampled from the slot of another ping, the samples belong to their pings. A
pong of which that is not true is sampled from the instant of a later ping. -/
theorem pings_attributed {FrameTime : Type} (to_duration : FrameTime → Duration → Duration) (ping_interval : Duration)
    {run : Run FrameTime} (reached : Reaches (Run.step to_duration) Run.Own (.start ping_interval) run) :
    run.Attributed to_duration ∧ ∀ answer after, run.step to_duration (.process_pong answer) = some after →
      ¬ run.Own (.process_pong answer) after →
        ∃ later sent, answer.ping < later ∧ run.instants[later]? = some sent ∧
          after.manager.latency_samples = run.manager.latency_samples ++
            [PingManager.round_trip_delay sent answer.now (to_duration answer.frame_time answer.tick_duration)] := by
  have holds : run.Holds to_duration := reached.invariant (Run.Holds to_duration) (.start ping_interval)
    fun before event after holds executed own => holds.step event executed own
  refine ⟨holds.attributed,fun answer after executed foreign => ?_⟩
  simp only [Run.step] at executed
  split at executed
  · next below =>
    cases executed
    simp only [Run.Own,not_forall] at foreign
    obtain ⟨owner,isOwner,other,newer⟩ := foreign
    obtain ⟨isSent,slot,last⟩ := holds.owners answer.ping owner isOwner
    have found : run.manager.ping_store.buffer.get (ofIndex answer.ping) = run.instants[owner]? := by
      rw [holds.slots,isOwner]
      rfl
    obtain ⟨-,⟨absent | older,-⟩ | ⟨sent,isInstant,-,samples,-⟩⟩ := process_pong_cases to_duration run.manager
      ⟨ofIndex answer.ping,answer.frame_time⟩ answer.now answer.tick_duration
    · exact absurd (absent.symm.trans found) (by simp [isSent])
    · exact absurd older newer
    · exact ⟨owner,sent,lt_of_le_of_ne (last answer.ping below rfl) (Ne.symm other),found.symm.trans isInstant,samples⟩
  · cases executed

open Runs in
/-- Two pings, the pong of the second, and then that of the first. -/
theorem pings_attributed_two :
    ∃ run : Run Unit, Reaches (Run.step fun _ _ => 5) Run.Own (.start 0) run ∧ run.manager.latency_samples = [15] ∧
      run.Attributed fun _ _ => 5 := by
  obtain ⟨run,reached,samples⟩ := reaches_of_check (Run.step fun _ _ => 5) Run.Own (Run.start 0 : Run Unit)
    (fun run => decide (run.manager.latency_samples = [15]))
    [.maybe_prepare_ping 10,.maybe_prepare_ping 20,.process_pong ⟨1,(),40,0⟩,.process_pong ⟨0,(),50,0⟩]
      (by decide +kernel)
  exact ⟨run,reached,of_decide_eq_true samples,(pings_attributed (fun _ _ => 5) 0 reached).1⟩

open Runs in
/-- The pong of the first of 129 pings. -/
theorem late_pong_misattributed :
    ¬ ∀ run : Run Unit, Reaches (Run.step fun _ _ => 0) (fun _ _ _ => True) (.start 0) run →
      run.Attributed fun _ _ => 0 := by
  intro always
  obtain ⟨run,reached,wrong⟩ := reaches_of_check (Run.step fun _ _ => 0) (fun _ _ _ => True) (Run.start 0 : Run Unit)
    (fun run => decide (run.manager.latency_samples = [72] ∧ run.answered = [⟨0,(),200,0⟩] ∧ run.instants[0]? = some 0))
    ((List.range 129).map (.maybe_prepare_ping ·) ++ [.process_pong ⟨0,(),200,0⟩]) (by decide +kernel)
  obtain ⟨samples,answered,first⟩ := of_decide_eq_true wrong
  have computed := (always run reached).samples
  rw [samples,answered] at computed
  cases computed with
  | cons computed _ =>
    obtain ⟨sent,isSent,value⟩ := computed
    cases first.symm.trans isSent
    exact absurd value (by decide)

end Lightyear.Sync
