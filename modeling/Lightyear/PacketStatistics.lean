import Lightyear.ReadyBuffer
import Lightyear.Runs
import Lightyear.Sorted

/-!
`packet/stats_manager.rs`. Sent packets and their outcomes are counted in the frame in which they are
recorded, and the counts are added up over the frames of a window.
-/
namespace Lightyear.PacketStatistics
open Utils

/-- In nanoseconds. -/
abbrev Duration := Nat

/-- The counters are `u32`. -/
@[ext] structure PacketStats where
  num_sent_ack_eliciting_packets : Nat
  num_sent_packets_acked : Nat
  num_sent_packets_lost : Nat
  num_received_packets : Nat
deriving DecidableEq

namespace PacketStats

instance : Zero PacketStats := ⟨⟨0,0,0,0⟩⟩

instance : Add PacketStats where
  add a b := ⟨a.num_sent_ack_eliciting_packets + b.num_sent_ack_eliciting_packets,
    a.num_sent_packets_acked + b.num_sent_packets_acked,a.num_sent_packets_lost + b.num_sent_packets_lost,
    a.num_received_packets + b.num_received_packets⟩

instance : AddCommMonoid PacketStats where
  add_assoc _ _ _ := PacketStats.ext (Nat.add_assoc ..) (Nat.add_assoc ..) (Nat.add_assoc ..) (Nat.add_assoc ..)
  zero_add _ := PacketStats.ext (Nat.zero_add _) (Nat.zero_add _) (Nat.zero_add _) (Nat.zero_add _)
  add_zero _ := rfl
  add_comm _ _ := PacketStats.ext (Nat.add_comm ..) (Nat.add_comm ..) (Nat.add_comm ..) (Nat.add_comm ..)
  nsmul := nsmulRec

theorem add_eq (a b : PacketStats) : a + b = ⟨a.num_sent_ack_eliciting_packets + b.num_sent_ack_eliciting_packets,
    a.num_sent_packets_acked + b.num_sent_packets_acked,a.num_sent_packets_lost + b.num_sent_packets_lost,
    a.num_received_packets + b.num_received_packets⟩ := rfl

/-- `+=`, which panics when a counter overflows. -/
def add_assign (self other : PacketStats) : Option PacketStats :=
  if (self + other).num_sent_ack_eliciting_packets < 2 ^ 32 ∧ (self + other).num_sent_packets_acked < 2 ^ 32 ∧
      (self + other).num_sent_packets_lost < 2 ^ 32 ∧ (self + other).num_received_packets < 2 ^ 32
  then some (self + other) else none

/-- `-=`, which panics when a counter underflows. -/
def sub_assign (self other : PacketStats) : Option PacketStats :=
  if other.num_sent_ack_eliciting_packets ≤ self.num_sent_ack_eliciting_packets ∧
      other.num_sent_packets_acked ≤ self.num_sent_packets_acked ∧
      other.num_sent_packets_lost ≤ self.num_sent_packets_lost ∧ other.num_received_packets ≤ self.num_received_packets
  then some ⟨self.num_sent_ack_eliciting_packets - other.num_sent_ack_eliciting_packets,
    self.num_sent_packets_acked - other.num_sent_packets_acked,self.num_sent_packets_lost - other.num_sent_packets_lost,
    self.num_received_packets - other.num_received_packets⟩
  else none

theorem sub_assign_add (self other : PacketStats) : (self + other).sub_assign self = some other := by
  rw [add_eq,sub_assign,if_pos ⟨Nat.le_add_right ..,Nat.le_add_right ..,Nat.le_add_right ..,Nat.le_add_right ..⟩]
  simp

theorem add_assign_eq {self other after : PacketStats} (added : self.add_assign other = some after) :
    after = self + other := by
  rw [add_assign] at added
  split at added
  · exact (Option.some.inj added).symm
  · cases added

end PacketStats

abbrev PacketStatsBuffer := ReadyBuffer Duration PacketStats

/-- The loss is a `f32`; here it is exact. -/
structure PacketStatsManager where
  stats_buffer : PacketStatsBuffer
  rolling_stats : PacketStats
  current_stats : PacketStats
  stats_buffer_duration : Duration
  packet_loss : ℚ

namespace PacketStatsManager

def new (stats_buffer_duration : Duration) : PacketStatsManager := ⟨.new,0,0,stats_buffer_duration,0⟩

/-- The loop of `update`, which pops an entry in every round. -/
def retire (oldest_retained : Duration) :
    Nat → PacketStatsBuffer → PacketStats → Option (PacketStatsBuffer × PacketStats)
  | 0, stats_buffer, rolling_stats => some (stats_buffer,rolling_stats)
  | rounds + 1, stats_buffer, rolling_stats =>
    match stats_buffer.pop_item oldest_retained with
    | (none,_) => some (stats_buffer,rolling_stats)
    | (some (_,stats),stats_buffer) => do
      let rolling_stats ← rolling_stats.sub_assign stats
      retire oldest_retained rounds stats_buffer rolling_stats

def compute_stats (self : PacketStatsManager) : PacketStatsManager :=
  if 0 < self.rolling_stats.num_sent_ack_eliciting_packets then
    {self with
      packet_loss := self.rolling_stats.num_sent_packets_lost / self.rolling_stats.num_sent_ack_eliciting_packets}
  else self

theorem compute_stats_eq (self : PacketStatsManager) :
    self.compute_stats = {self with
      packet_loss := if 0 < self.rolling_stats.num_sent_ack_eliciting_packets then
        (self.rolling_stats.num_sent_packets_lost : ℚ) / self.rolling_stats.num_sent_ack_eliciting_packets
        else self.packet_loss} := by
  rw [compute_stats]
  split <;> rfl

def update (self : PacketStatsManager) (real : Duration) : Option PacketStatsManager := do
  let (stats_buffer,rolling_stats) ←
    retire (real - self.stats_buffer_duration) self.stats_buffer.len self.stats_buffer self.rolling_stats
  let rolling_stats ← rolling_stats.add_assign self.current_stats
  some (compute_stats {self with
    stats_buffer := stats_buffer.push real self.current_stats
    rolling_stats := rolling_stats
    current_stats := 0})

/-- One more of something in the current frame. -/
def count (self : PacketStatsManager) (stats : PacketStats) : Option PacketStatsManager := do
  let current_stats ← self.current_stats.add_assign stats
  some {self with current_stats := current_stats}

def sent_ack_eliciting_packet (self : PacketStatsManager) : Option PacketStatsManager := self.count ⟨1,0,0,0⟩
def sent_ack_only_packet (self : PacketStatsManager) : Option PacketStatsManager := some self
def sent_packet_lost (self : PacketStatsManager) : Option PacketStatsManager := self.count ⟨0,0,1,0⟩
def sent_packet_acked (self : PacketStatsManager) : Option PacketStatsManager := self.count ⟨0,1,0,0⟩
def received_packet (self : PacketStatsManager) : Option PacketStatsManager := self.count ⟨0,0,0,1⟩

end PacketStatsManager

/-! ### Runs of a transport -/

/-- The packets that were recorded in a frame. -/
structure Frame where
  sent : List Nat
  acked : List Nat
  lost : List Nat
  received : Nat

def Frame.stats (self : Frame) : PacketStats := ⟨self.sent.length,self.acked.length,self.lost.length,self.received⟩

/-- The manager, the frames that have ended with their times, the current one, the number of packets that
were sent, and those whose outcome is known. -/
structure Run where
  manager : PacketStatsManager
  frames : List (Duration × Frame)
  current : Frame
  packets : Nat
  settled : List Nat

inductive Event
  | sent_ack_eliciting_packet
  | sent_ack_only_packet
  | sent_packet_lost (packet : Nat)
  | sent_packet_acked (packet : Nat)
  | received_packet
  | update (real : Duration)

namespace Run

def start (stats_buffer_duration : Duration) : Run := ⟨.new stats_buffer_duration,[],⟨[],[],[],0⟩,0,[]⟩

/-- A packet has one outcome after it was sent, and the times do not decrease. -/
def step (self : Run) : Event → Option Run
  | .sent_ack_eliciting_packet => do
    let manager ← self.manager.sent_ack_eliciting_packet
    some {self with
      manager := manager
      current := {self.current with sent := self.current.sent ++ [self.packets]}
      packets := self.packets + 1}
  | .sent_ack_only_packet => do
    let manager ← self.manager.sent_ack_only_packet
    some {self with manager := manager}
  | .sent_packet_lost packet =>
    if packet < self.packets ∧ packet ∉ self.settled then do
      let manager ← self.manager.sent_packet_lost
      some {self with
        manager := manager
        current := {self.current with lost := self.current.lost ++ [packet]}
        settled := self.settled ++ [packet]}
    else none
  | .sent_packet_acked packet =>
    if packet < self.packets ∧ packet ∉ self.settled then do
      let manager ← self.manager.sent_packet_acked
      some {self with
        manager := manager
        current := {self.current with acked := self.current.acked ++ [packet]}
        settled := self.settled ++ [packet]}
    else none
  | .received_packet => do
    let manager ← self.manager.received_packet
    some {self with manager := manager,current := {self.current with received := self.current.received + 1}}
  | .update real =>
    if ∀ frame ∈ self.frames, frame.1 ≤ real then do
      let manager ← self.manager.update real
      some {self with manager := manager,frames := self.frames ++ [(real,self.current)],current := ⟨[],[],[],0⟩}
    else none

theorem step_update {run after : Run} {real : Duration} (executed : run.step (.update real) = some after) :
    (∀ frame ∈ run.frames, frame.1 ≤ real) ∧ ∃ manager, run.manager.update real = some manager ∧
      after = ⟨manager,run.frames ++ [(real,run.current)],⟨[],[],[],0⟩,run.packets,run.settled⟩ := by
  simp only [step] at executed
  split at executed
  · next later =>
    simp only [Option.bind_eq_bind,Option.bind_eq_some_iff,Option.some.injEq] at executed
    obtain ⟨manager,updated,rfl⟩ := executed
    exact ⟨later,manager,updated,rfl⟩
  · cases executed

/-- The frames that an update adds up. -/
def window (self : Run) (real : Duration) : List Frame :=
  (self.frames.filter fun frame => real - self.manager.stats_buffer_duration < frame.1).map (·.2) ++ [self.current]

def sent (self : Run) (real : Duration) : List Nat := (self.window real).flatMap (·.sent)
def lost (self : Run) (real : Duration) : List Nat := (self.window real).flatMap (·.lost)

/-- When packets were sent in the window, those of them that are not lost there are no fewer than the packets
lost there that were sent before. -/
def Covered (self : Run) : Event → Run → Prop
  | .update real, _ => self.sent real ≠ [] →
      ((self.lost real).filter (· ∉ self.sent real)).length ≤ ((self.sent real).filter (· ∉ self.lost real)).length
  | _, _ => True

instance (self : Run) (event : Event) (after : Run) : Decidable (self.Covered event after) := by
  cases event <;> unfold Covered <;> infer_instance

end Run

/-- Every entry that is old enough is taken off, and no counter underflows. -/
theorem retire_sorted {heap : List (Duration × PacketStats)} (sorted : heap.Pairwise fun a b => a.1 ≤ b.1)
    (oldest_retained : Duration) :
    PacketStatsManager.retire oldest_retained heap.length ⟨heap⟩ (heap.map (·.2)).sum =
      some (⟨heap.dropWhile (·.1 ≤ oldest_retained)⟩,((heap.dropWhile (·.1 ≤ oldest_retained)).map (·.2)).sum) := by
  induction heap with
  | nil => rfl
  | cons first rest ih =>
    rw [List.length_cons,PacketStatsManager.retire,ReadyBuffer.pop_item_cons sorted]
    by_cases old : first.1 ≤ oldest_retained
    · rw [if_pos old,List.map_cons,List.sum_cons]
      simp only [PacketStats.sub_assign_add,Option.bind_eq_bind,Option.bind_some,ih (List.pairwise_cons.mp sorted).2,
        List.dropWhile_cons,old,decide_true,if_true]
    · rw [if_neg old,List.dropWhile_cons_of_neg (by simpa using old)]

/-- The counts of an entry of the buffer. -/
def entry (frame : Duration × Frame) : Duration × PacketStats := (frame.1,frame.2.stats)

namespace Run

/-- All the frames of a run. -/
def all_frames (self : Run) : List Frame := self.frames.map (·.2) ++ [self.current]

/-- The buffer holds the frames from some time on. -/
structure Holds (run : Run) : Prop where
  retained : ∃ retired kept, run.frames = retired ++ kept ∧ run.manager.stats_buffer.heap = kept.map entry ∧
    ∀ real, (∀ frame ∈ run.frames, frame.1 ≤ real) →
      ∀ frame ∈ retired, frame.1 ≤ real - run.manager.stats_buffer_duration
  sorted : run.frames.Pairwise fun a b => a.1 ≤ b.1
  rolling : run.manager.rolling_stats = (run.manager.stats_buffer.heap.map (·.2)).sum
  current : run.manager.current_stats = run.current.stats
  sent : (run.all_frames.flatMap (·.sent)).Nodup
  below : ∀ packet ∈ run.all_frames.flatMap (·.sent), packet < run.packets
  lost : (run.all_frames.flatMap (·.lost)).Nodup
  settled : ∀ packet ∈ run.all_frames.flatMap (·.lost), packet ∈ run.settled

/-- The packets that were sent, or lost, in a frame that has ended or in the current one. -/
theorem flatMap_all_frames (run : Run) (packets : Frame → List Nat) :
    run.all_frames.flatMap packets = (run.frames.map (·.2)).flatMap packets ++ packets run.current := by
  simp [all_frames]

theorem Holds.start (stats_buffer_duration : Duration) : Holds (start stats_buffer_duration) where
  retained := ⟨[],[],rfl,rfl,fun _ _ _ mem => by cases mem⟩
  sorted := .nil
  rolling := rfl
  current := rfl
  sent := by simp [Run.start,all_frames]
  below := by simp [Run.start,all_frames]
  lost := by simp [Run.start,all_frames]
  settled := by simp [Run.start,all_frames]

theorem entries_sorted {frames : List (Duration × Frame)} (sorted : frames.Pairwise fun a b => a.1 ≤ b.1) :
    (frames.map entry).Pairwise fun a b => a.1 ≤ b.1 :=
  List.pairwise_map.mpr sorted

/-- The frames up to some time come before the others. -/
theorem filter_sorted {frames : List (Duration × Frame)} (sorted : frames.Pairwise fun a b => a.1 ≤ b.1)
    (oldest : Duration) :
    (frames.filter fun frame => frame.1 ≤ oldest) ++ frames.filter (fun frame => oldest < frame.1) = frames := by
  have split : _ ∧ frames.dropWhile (fun frame => decide (frame.1 ≤ oldest)) = _ :=
    Sorted.takeWhile_eq_filter sorted fun a b less passes => decide_eq_true (le_trans less (of_decide_eq_true passes))
  have newer : (fun frame : Duration × Frame => decide (oldest < frame.1)) =
      fun frame => !decide (frame.1 ≤ oldest) := by
    funext frame
    rw [← decide_not,decide_eq_decide,not_le]
  rw [newer,← split.1,← split.2,List.takeWhile_append_dropWhile]

/-- What is left of the buffer are the frames of the window that have ended. -/
theorem Holds.dropWhile_eq {run : Run} (holds : Holds run) {real : Duration}
    (later : ∀ frame ∈ run.frames, frame.1 ≤ real) :
    run.manager.stats_buffer.heap.dropWhile (·.1 ≤ real - run.manager.stats_buffer_duration) =
      (run.frames.filter fun frame => real - run.manager.stats_buffer_duration < frame.1).map entry := by
  obtain ⟨retired,kept,split,heap,old⟩ := holds.retained
  have sorted : kept.Pairwise fun a b => a.1 ≤ b.1 := (List.pairwise_append.mp (split ▸ holds.sorted)).2.1
  have gone : retired.filter (fun frame => decide (real - run.manager.stats_buffer_duration < frame.1)) = [] :=
    List.filter_eq_nil_iff.mpr fun frame mem => by simpa using old real later frame mem
  rw [heap,(Sorted.takeWhile_eq_filter (entries_sorted sorted) fun a b less passes =>
      decide_eq_true (le_trans less (of_decide_eq_true passes))).2,split,
    List.filter_append,gone,List.nil_append,List.filter_map]
  congr 2
  funext frame
  by_cases old : frame.1 ≤ real - run.manager.stats_buffer_duration
  · simp [entry,old]
  · simp [entry,old,not_le.mp old]

theorem Holds.heap_sorted {run : Run} (holds : Holds run) :
    run.manager.stats_buffer.heap.Pairwise fun a b => a.1 ≤ b.1 := by
  obtain ⟨retired,kept,split,heap,-⟩ := holds.retained
  rw [heap]
  exact entries_sorted (List.pairwise_append.mp (split ▸ holds.sorted)).2.1

/-- An update adds up the frames of the window. -/
theorem Holds.update_spec {run : Run} (holds : Holds run) {real : Duration}
    (later : ∀ frame ∈ run.frames, frame.1 ≤ real)
    {manager : PacketStatsManager} (executed : run.manager.update real = some manager) :
    manager.stats_buffer.heap =
      (run.frames.filter fun frame => real - run.manager.stats_buffer_duration < frame.1).map entry ++
        [(real,run.current.stats)] ∧
      manager.rolling_stats = ((run.window real).map Frame.stats).sum ∧ manager.current_stats = 0 ∧
      manager.stats_buffer_duration = run.manager.stats_buffer_duration ∧
      manager.packet_loss = if 0 < manager.rolling_stats.num_sent_ack_eliciting_packets then
        (manager.rolling_stats.num_sent_packets_lost : ℚ) / manager.rolling_stats.num_sent_ack_eliciting_packets
        else run.manager.packet_loss := by
  have retired := retire_sorted holds.heap_sorted (real - run.manager.stats_buffer_duration)
  rw [← holds.rolling,holds.dropWhile_eq later] at retired
  rw [PacketStatsManager.update,ReadyBuffer.len,retired] at executed
  simp only [Option.bind_eq_bind,Option.bind_some,Option.bind_eq_some_iff] at executed
  obtain ⟨rolling,added,isManager⟩ := executed
  have total := PacketStats.add_assign_eq added
  have window : rolling = ((run.window real).map Frame.stats).sum := by
    rw [total,holds.current,window]
    simp [entry,Function.comp_def]
  rw [PacketStatsManager.compute_stats_eq] at isManager
  cases isManager
  exact ⟨by rw [← holds.current]; rfl,window,rfl,rfl,rfl⟩

theorem Holds.counted {run : Run} (holds : Holds run) {stats : PacketStats} {manager : PacketStatsManager}
    (counted : run.manager.count stats = some manager) {current : Frame}
    (isStats : current.stats = run.current.stats + stats)
    {packets : Nat} {settled : List Nat}
    (sent : ((run.frames.map (·.2)).flatMap (·.sent) ++ current.sent).Nodup)
    (below : ∀ packet ∈ (run.frames.map (·.2)).flatMap (·.sent) ++ current.sent, packet < packets)
    (lost : ((run.frames.map (·.2)).flatMap (·.lost) ++ current.lost).Nodup)
    (known : ∀ packet ∈ (run.frames.map (·.2)).flatMap (·.lost) ++ current.lost, packet ∈ settled) :
    Holds ⟨manager,run.frames,current,packets,settled⟩ := by
  rw [PacketStatsManager.count] at counted
  simp only [Option.bind_eq_bind,Option.bind_eq_some_iff,Option.some.injEq] at counted
  obtain ⟨current_stats,added,rfl⟩ := counted
  refine ⟨holds.retained,holds.sorted,holds.rolling,?_,?_,?_,?_,?_⟩
  · change current_stats = current.stats
    rw [PacketStats.add_assign_eq added,holds.current,isStats]
  all_goals rw [flatMap_all_frames]; assumption

/-- A packet whose outcome is recorded is not among those recorded before. -/
theorem Holds.settle {run : Run} (holds : Holds run) {packet : Nat} (fresh : packet ∉ run.settled) :
    ((run.frames.map (·.2)).flatMap (·.lost) ++ (run.current.lost ++ [packet])).Nodup ∧
      ∀ other ∈ (run.frames.map (·.2)).flatMap (·.lost) ++ (run.current.lost ++ [packet]), other ∈ run.settled ++
        [packet] := by
  have lost := holds.lost
  have settled := holds.settled
  rw [flatMap_all_frames] at lost settled
  rw [← List.append_assoc]
  constructor
  · exact lost.append (List.nodup_singleton _) fun other mem isPacket =>
      fresh (List.mem_singleton.mp isPacket ▸ settled other mem)
  · intro other mem
    rw [List.mem_append] at mem ⊢
    exact mem.imp (settled other) id

theorem Holds.update {run : Run} (holds : Holds run) {real : Duration} (later : ∀ frame ∈ run.frames, frame.1 ≤ real)
    {manager : PacketStatsManager} (executed : run.manager.update real = some manager) :
    Holds ⟨manager,run.frames ++ [(real,run.current)],⟨[],[],[],0⟩,run.packets,run.settled⟩ := by
  obtain ⟨heap,rolling,current,duration,-⟩ := holds.update_spec later executed
  have same (packets : Frame → List Nat) (none : packets ⟨[],[],[],0⟩ = []) :
      (⟨manager,run.frames ++ [(real,run.current)],⟨[],[],[],0⟩,run.packets,run.settled⟩ : Run).all_frames.flatMap
        packets =
        run.all_frames.flatMap packets := by
    simp [all_frames,none]
  refine ⟨⟨run.frames.filter fun frame => frame.1 ≤ real - run.manager.stats_buffer_duration,
    run.frames.filter (fun frame => real - run.manager.stats_buffer_duration < frame.1) ++ [(real,run.current)],
      ?_,?_,?_⟩,
    ?_,?_,current,?_,?_,?_,?_⟩
  · rw [← List.append_assoc,filter_sorted holds.sorted]
  · rw [heap,List.map_append]
    rfl
  · intro other latest frame mem
    have old := of_decide_eq_true (List.mem_filter.mp mem).2
    have order := latest (real,run.current) (by simp)
    rw [duration]
    exact old.trans (Nat.sub_le_sub_right order _)
  · exact List.pairwise_append.mpr ⟨holds.sorted,List.pairwise_singleton _ _,by simpa using later⟩
  · rw [rolling,heap,window]
    simp [entry,Function.comp_def]
  · rw [same _ rfl]
    exact holds.sent
  · rw [same _ rfl]
    exact holds.below
  · rw [same _ rfl]
    exact holds.lost
  · rw [same _ rfl]
    exact holds.settled

theorem Holds.step {run after : Run} (holds : Holds run) (event : Event) (executed : run.step event = some after) :
    Holds after := by
  have sent := holds.sent
  have below := holds.below
  have lost := holds.lost
  have settled := holds.settled
  rw [flatMap_all_frames] at sent below lost settled
  cases event with
  | sent_ack_eliciting_packet =>
    simp only [Run.step,Option.bind_eq_bind,Option.bind_eq_some_iff,Option.some.injEq] at executed
    obtain ⟨manager,counted,rfl⟩ := executed
    refine holds.counted counted ?_ ?_ ?_ lost settled
    · simp [Frame.stats,PacketStats.add_eq]
    · rw [← List.append_assoc]
      exact sent.append (List.nodup_singleton _) fun packet mem isNext =>
        absurd (below packet mem) (by rw [List.mem_singleton.mp isNext]; exact lt_irrefl _)
    · rw [← List.append_assoc]
      exact List.forall_mem_append.mpr ⟨fun packet mem => Nat.lt_succ_of_lt (below packet mem),by simp⟩
  | sent_ack_only_packet =>
    cases executed
    exact holds
  | sent_packet_lost packet =>
    simp only [Run.step] at executed
    split at executed
    · next fresh =>
      simp only [Option.bind_eq_bind,Option.bind_eq_some_iff,Option.some.injEq] at executed
      obtain ⟨manager,counted,rfl⟩ := executed
      obtain ⟨lost,known⟩ := holds.settle fresh.2
      exact holds.counted counted (by simp [Frame.stats,PacketStats.add_eq]) sent below lost known
    · cases executed
  | sent_packet_acked packet =>
    simp only [Run.step] at executed
    split at executed
    · simp only [Option.bind_eq_bind,Option.bind_eq_some_iff,Option.some.injEq] at executed
      obtain ⟨manager,counted,rfl⟩ := executed
      exact holds.counted counted (by simp [Frame.stats,PacketStats.add_eq]) sent below lost
        fun other mem => List.mem_append_left _ (settled other mem)
    · cases executed
  | received_packet =>
    simp only [Run.step,Option.bind_eq_bind,Option.bind_eq_some_iff,Option.some.injEq] at executed
    obtain ⟨manager,counted,rfl⟩ := executed
    exact holds.counted counted (by simp [Frame.stats,PacketStats.add_eq]) sent below lost settled
  | update real =>
    obtain ⟨later,manager,updated,rfl⟩ := step_update executed
    exact holds.update later updated

/-! ### Losses in a window -/

/-- Of two sets the one without the other's elements shows which is larger. -/
theorem length_le_iff {sent lost : List Nat} (sentOnce : sent.Nodup) (lostOnce : lost.Nodup) :
    lost.length ≤ sent.length ↔ (lost.filter (· ∉ sent)).length ≤ (sent.filter (· ∉ lost)).length := by
  have difference (a b : List Nat) (once : a.Nodup) : (a.filter (· ∉ b)).length = (a.toFinset \ b.toFinset).card := by
    rw [← List.toFinset_card_of_nodup (once.filter _)]
    congr 1
    ext packet
    simp
  rw [difference lost sent lostOnce,difference sent lost sentOnce,Finset.card_sdiff_le_card_sdiff_iff,
    List.toFinset_card_of_nodup lostOnce,List.toFinset_card_of_nodup sentOnce]

theorem sum_stats (frames : List Frame) :
    ((frames.map Frame.stats).sum).num_sent_ack_eliciting_packets = (frames.flatMap (·.sent)).length ∧
      ((frames.map Frame.stats).sum).num_sent_packets_lost = (frames.flatMap (·.lost)).length := by
  induction frames with
  | nil => exact ⟨rfl,rfl⟩
  | cons frame frames ih =>
    rw [List.map_cons,List.sum_cons,PacketStats.add_eq,List.flatMap_cons,List.flatMap_cons,List.length_append,
      List.length_append,← ih.1,← ih.2]
    exact ⟨rfl,rfl⟩

theorem window_sublist (run : Run) (real : Duration) (packets : Frame → List Nat) :
    ((run.window real).flatMap packets).Sublist (run.all_frames.flatMap packets) := by
  have frames : (run.window real).Sublist run.all_frames := (List.filter_sublist.map _).append (List.Sublist.refl _)
  exact frames.flatMap packets

/-- What is counted as lost in a window is at most what is counted as sent, exactly when the window is covered. -/
theorem Holds.covered_iff {run after : Run} (holds : Holds run) {real : Duration}
    (executed : run.step (.update real) = some after) :
    (0 < after.manager.rolling_stats.num_sent_ack_eliciting_packets →
      after.manager.rolling_stats.num_sent_packets_lost ≤
        after.manager.rolling_stats.num_sent_ack_eliciting_packets) ↔ run.Covered (.update real) after := by
  obtain ⟨later,manager,updated,rfl⟩ := step_update executed
  obtain ⟨-,rolling,-⟩ := holds.update_spec later updated
  obtain ⟨sent,lost⟩ := sum_stats (run.window real)
  have exact := length_le_iff (holds.sent.sublist (run.window_sublist real (·.sent)))
    (holds.lost.sublist (run.window_sublist real (·.lost)))
  dsimp only
  rw [rolling,sent,lost,exact,List.length_pos_iff]
  rfl

theorem count_loss {manager after : PacketStatsManager} {stats : PacketStats}
    (counted : manager.count stats = some after) :
    after.packet_loss = manager.packet_loss := by
  simp only [PacketStatsManager.count,Option.bind_eq_bind,Option.bind_eq_some_iff,Option.some.injEq] at counted
  obtain ⟨-,-,rfl⟩ := counted
  rfl

/-- A step with a covered window reports no loss above 1. -/
theorem loss_step {run after : Run} (holds : Holds run) (bounded : run.manager.packet_loss ≤ 1) (event : Event)
    (executed : run.step event = some after) (covered : run.Covered event after) : after.manager.packet_loss ≤ 1 := by
  cases event with
  | sent_ack_eliciting_packet =>
    simp only [Run.step,Option.bind_eq_bind,Option.bind_eq_some_iff,Option.some.injEq] at executed
    obtain ⟨manager,counted,rfl⟩ := executed
    exact (count_loss counted).trans_le bounded
  | sent_ack_only_packet =>
    cases executed
    exact bounded
  | sent_packet_lost packet =>
    simp only [Run.step,Option.ite_none_right_eq_some,Option.bind_eq_bind,Option.bind_eq_some_iff,
      Option.some.injEq] at executed
    obtain ⟨-,manager,counted,rfl⟩ := executed
    exact (count_loss counted).trans_le bounded
  | sent_packet_acked packet =>
    simp only [Run.step,Option.ite_none_right_eq_some,Option.bind_eq_bind,Option.bind_eq_some_iff,
      Option.some.injEq] at executed
    obtain ⟨-,manager,counted,rfl⟩ := executed
    exact (count_loss counted).trans_le bounded
  | received_packet =>
    simp only [Run.step,Option.bind_eq_bind,Option.bind_eq_some_iff,Option.some.injEq] at executed
    obtain ⟨manager,counted,rfl⟩ := executed
    exact (count_loss counted).trans_le bounded
  | update real =>
    have fewer := (holds.covered_iff executed).mpr covered
    obtain ⟨later,manager,updated,rfl⟩ := step_update executed
    obtain ⟨-,-,-,-,loss⟩ := holds.update_spec later updated
    dsimp only at fewer ⊢
    rw [loss]
    split
    · next some =>
      rw [div_le_one (by exact_mod_cast some)]
      exact_mod_cast fewer some
    · exact bounded

end Run

open Runs in
/-- In every run the rolling counts are those of the frames in the window, and no subtraction underflows. The
loss is at most 1 where the window is covered, and exactly there. -/
theorem packet_window (stats_buffer_duration : Duration) :
    (∀ run, Reaches Run.step (fun _ _ _ => True) (.start stats_buffer_duration) run →
      run.manager.rolling_stats = (run.manager.stats_buffer.heap.map (·.2)).sum ∧
      (∀ oldest_retained, (PacketStatsManager.retire oldest_retained run.manager.stats_buffer.len
        run.manager.stats_buffer
        run.manager.rolling_stats).isSome = true) ∧
      ∀ real after, run.step (.update real) = some after →
        after.manager.rolling_stats = ((run.window real).map Frame.stats).sum ∧
        ((0 < after.manager.rolling_stats.num_sent_ack_eliciting_packets →
          after.manager.rolling_stats.num_sent_packets_lost ≤
          after.manager.rolling_stats.num_sent_ack_eliciting_packets) ↔ run.Covered (.update real) after)) ∧
      ∀ run, Reaches Run.step Run.Covered (.start stats_buffer_duration) run → run.manager.packet_loss ≤ 1 := by
  refine ⟨fun run reached => ?_,fun run reached => ?_⟩
  · have holds : run.Holds := reached.invariant Run.Holds (.start stats_buffer_duration)
      fun before event after holds executed _ => holds.step event executed
    refine ⟨holds.rolling,fun oldest_retained => ?_,fun real after executed => ⟨?_,holds.covered_iff executed⟩⟩
    · have retired := retire_sorted holds.heap_sorted oldest_retained
      rw [← holds.rolling] at retired
      rw [ReadyBuffer.len,retired]
      rfl
    · obtain ⟨later,manager,updated,rfl⟩ := Run.step_update executed
      exact (holds.update_spec later updated).2.1
  · exact (reached.invariant (fun run => run.Holds ∧ run.manager.packet_loss ≤ 1)
      ⟨.start stats_buffer_duration,zero_le_one⟩
      fun before event after holds executed covered =>
        ⟨holds.1.step event executed,Run.loss_step holds.1 holds.2 event executed covered⟩).2

open Runs in
theorem packet_window_half : ∃ run : Run, run.manager.packet_loss = 1 / 2 ∧ run.manager.packet_loss ≤ 1 := by
  obtain ⟨run,reached,loss⟩ :=
    reaches_of_check Run.step Run.Covered (.start 5) (fun run => decide (run.manager.packet_loss = 1 / 2))
    [.sent_ack_eliciting_packet,.sent_ack_eliciting_packet,.update 1,.sent_packet_lost 0,.update 2] (by decide +kernel)
  exact ⟨run,of_decide_eq_true loss,(packet_window 5).2 run reached⟩

open Runs in
/-- Two packets are lost in a window in which another one was sent. -/
theorem loss_above_one : ¬ ∀ run :
    Run, Reaches Run.step (fun _ _ _ => True) (.start 5) run → run.manager.packet_loss ≤ 1 := by
  intro always
  obtain ⟨run,reached,loss⟩ := reaches_of_check Run.step (fun _ _ _ => True) (.start 5)
    (fun run => decide (run.manager.packet_loss = 2))
    [.sent_ack_eliciting_packet,.sent_ack_eliciting_packet,.update 1,.sent_ack_eliciting_packet,.sent_packet_lost 0,
      .sent_packet_lost 1,.update 7] (by decide +kernel)
  have bounded := always run reached
  rw [of_decide_eq_true loss] at bounded
  exact absurd bounded (by norm_num)

end Lightyear.PacketStatistics
