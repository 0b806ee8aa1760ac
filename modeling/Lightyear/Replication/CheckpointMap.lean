import Lightyear.Maps
import Lightyear.Tick

/-!
The table of `checkpoint.rs` from the ticks of replication to those of the simulation. It keeps
the entries that were created last, and the latest checkpoint that has been confirmed.
-/
namespace Lightyear.Checkpoint
open Message Maps

def MAX_STORED_CHECKPOINTS : Nat := 256

structure ReplicationCheckpointMap (K : Type) [DecidableEq K] where
  entries : Map K Tick
  order : List K
  last_confirmed_replicon_tick : Option K
  last_confirmed_tick : Option Tick

namespace ReplicationCheckpointMap
variable {K : Type} [DecidableEq K]

def default : ReplicationCheckpointMap K := ⟨∅,[],none,none⟩

def get (self : ReplicationCheckpointMap K) (replicon_tick : K) : Option Tick := self.entries.lookup replicon_tick

/-- A new key goes to the back of the queue, and the key at the front is dropped when there are too many. -/
def enqueue (self : ReplicationCheckpointMap K) (replicon_tick : K) : ReplicationCheckpointMap K :=
  if MAX_STORED_CHECKPOINTS < self.order.length + 1 then
    match self.order ++ [replicon_tick] with
    | oldest :: order => {self with order := order,entries := self.entries.erase oldest}
    | [] => {self with order := []}
  else {self with order := self.order ++ [replicon_tick]}

def record (self : ReplicationCheckpointMap K) (replicon_tick : K) (authoritative_tick : Tick) :
    ReplicationCheckpointMap K :=
  let self := if (self.get replicon_tick).isNone then self.enqueue replicon_tick else self
  {self with entries := self.entries.insert replicon_tick authoritative_tick}

def record_last_confirmed_tick (self : ReplicationCheckpointMap K) (replicon_tick : K) :
    Option Tick × ReplicationCheckpointMap K :=
  match self.get replicon_tick with
  | none => (none,self)
  | some tick =>
    let confirmed := {self with last_confirmed_replicon_tick := some replicon_tick,last_confirmed_tick := some tick}
    match self.last_confirmed_tick with
    | none => (some tick,confirmed)
    | some existing => (some tick,if existing ≤ tick then confirmed else self)

def clear (_ : ReplicationCheckpointMap K) : ReplicationCheckpointMap K := ⟨∅,[],none,none⟩

end ReplicationCheckpointMap

inductive Call (K : Type) where
  | record (replicon_tick : K) (authoritative_tick : Tick)
  | record_last_confirmed_tick (replicon_tick : K)
  | clear

/-- The map, and what has been recorded since it was cleared. -/
structure Run (K : Type) [DecidableEq K] where
  map : ReplicationCheckpointMap K
  records : List (K × Tick)

section
variable {K : Type} [DecidableEq K]

namespace Run

def start : Run K := ⟨.default,[]⟩

def step (self : Run K) : Call K → Run K
  | .record replicon_tick authoritative_tick =>
    ⟨self.map.record replicon_tick authoritative_tick,self.records ++ [(replicon_tick,authoritative_tick)]⟩
  | .record_last_confirmed_tick replicon_tick =>
    {self with map := (self.map.record_last_confirmed_tick replicon_tick).2}
  | .clear => ⟨self.map.clear,[]⟩

def run (calls : List (Call K)) : Run K := calls.foldl step start

end Run

/-- The last ones, at most as many as the limit. -/
def lastOf (limit : Nat) (keys : List K) : List K := keys.drop (keys.length - limit)

/-- The keys that are stored. -/
def newest (keys : List K) : List K := lastOf MAX_STORED_CHECKPOINTS keys

/-- A key is created, again when it was before, once it is not among the newest. -/
def create (created : List K) (key : K) : List K := if key ∈ newest created then created else created ++ [key]

/-- The keys in the order in which their entries were created. -/
def created (records : List (K × Tick)) : List K := (records.map (·.1)).foldl create []

/-- The tick that was recorded last for a key. -/
def latest (records : List (K × Tick)) (key : K) : Option Tick := (records.reverse.find? (·.1 = key)).map (·.2)

/-- The keys are those of the queue, without duplicates and not too many: the ones that were created
last, each with its latest tick. -/
structure Stored (run : Run K) : Prop where
  order : run.map.order = newest (created run.records)
  nodup : run.map.order.Nodup
  short : run.map.order.length ≤ MAX_STORED_CHECKPOINTS
  keys : ∀ key, key ∈ run.map.order ↔ (run.map.get key).isSome
  values : ∀ key tick, run.map.get key = some tick → latest run.records key = some tick

omit [DecidableEq K] in
theorem lastOf_snoc {limit : Nat} (positive : 0 < limit) (keys : List K) (key : K) :
    lastOf limit (keys ++ [key]) = (lastOf limit keys ++ [key]).drop ((lastOf limit keys).length + 1 - limit) := by
  simp only [lastOf,List.length_append,List.length_singleton,List.length_drop]
  by_cases few : keys.length < limit
  · simp [show keys.length - limit = 0 by omega,show keys.length + 1 - limit = 0 by omega]
  · rw [show keys.length - (keys.length - limit) + 1 - limit = 1 by omega,
      ← List.drop_append_of_le_length (by omega),List.drop_drop]
    congr 1
    omega

omit [DecidableEq K] in
theorem newest_snoc (keys : List K) (key : K) :
    newest (keys ++ [key]) = (newest keys ++ [key]).drop ((newest keys).length + 1 - MAX_STORED_CHECKPOINTS) :=
  lastOf_snoc (by decide) keys key

/-- The queue never drops the key that has just come. -/
theorem fits {length : Nat} (_ : length ≤ MAX_STORED_CHECKPOINTS) : length + 1 - MAX_STORED_CHECKPOINTS ≤ length := by
  have positive : 0 < MAX_STORED_CHECKPOINTS := by decide
  omega

theorem created_snoc (records : List (K × Tick)) (record : K × Tick) :
    created (records ++ [record]) = create (created records) record.1 := by
  simp only [created,List.map_append,List.foldl_append,List.map_cons,List.map_nil,List.foldl_cons,List.foldl_nil]

theorem latest_snoc (records : List (K × Tick)) (replicon_tick key : K) (tick : Tick) :
    latest (records ++ [(replicon_tick,tick)]) key = if key = replicon_tick then some tick else latest records key := by
  by_cases same : key = replicon_tick
  · simp [latest,same]
  · simp [latest,same,Ne.symm same]

theorem latest_mem {records : List (K × Tick)} {key : K} {tick : Tick} (found : latest records key = some tick) :
    (key,tick) ∈ records := by
  simp only [latest,Option.map_eq_some_iff] at found
  obtain ⟨⟨key',tick'⟩,record,rfl⟩ := found
  have isKey : key' = key := by simpa using List.find?_some record
  exact isKey ▸ List.mem_reverse.mp (List.mem_of_find?_eq_some record)

omit [DecidableEq K] in
theorem mem_drop_iff {keys : List K} (nodup : keys.Nodup) (count : Nat) (key : K) :
    key ∈ keys.drop count ↔ key ∈ keys ∧ key ∉ keys.take count := by
  have split := List.take_append_drop count keys
  constructor
  · intro kept
    refine ⟨List.mem_of_mem_drop kept,fun dropped => ?_⟩
    exact (List.disjoint_of_nodup_append (split.symm ▸ nodup)) dropped kept
  · rintro ⟨mem,notDropped⟩
    rw [← split] at mem
    exact (List.mem_append.mp mem).resolve_left notDropped

/-- What no longer fits leaves the queue at its front, and its entry goes with it. -/
theorem enqueue_spec {map : ReplicationCheckpointMap K} (short : map.order.length ≤ MAX_STORED_CHECKPOINTS) (key : K) :
    (map.enqueue key).order = (map.order ++ [key]).drop (map.order.length + 1 - MAX_STORED_CHECKPOINTS) ∧
      ∀ other, (map.enqueue key).get other =
        if other ∈ (map.order ++ [key]).take (map.order.length + 1 - MAX_STORED_CHECKPOINTS) then none
          else map.get other := by
  rw [ReplicationCheckpointMap.enqueue]
  by_cases full : MAX_STORED_CHECKPOINTS < map.order.length + 1
  · rw [if_pos full,show map.order.length + 1 - MAX_STORED_CHECKPOINTS = 1 by omega]
    cases queue : map.order ++ [key] with
    | nil => simp at queue
    | cons oldest order =>
      refine ⟨rfl,fun other => ?_⟩
      simp only [ReplicationCheckpointMap.get,List.take_succ_cons,List.take_zero,List.mem_singleton]
      exact lookup_erase_ite map.entries oldest other
  · rw [if_neg full,show map.order.length + 1 - MAX_STORED_CHECKPOINTS = 0 by omega]
    exact ⟨rfl,fun other => by simp [ReplicationCheckpointMap.get]⟩

theorem get_record (map : ReplicationCheckpointMap K) (replicon_tick : K) (tick : Tick) (key : K) :
    (map.record replicon_tick tick).get key = if key = replicon_tick then some tick else
      (if (map.get replicon_tick).isNone then map.enqueue replicon_tick else map).get key :=
  lookup_insert_ite _ replicon_tick key tick

theorem Stored.start : Stored (Run.start : Run K) where
  order := by simp [Run.start,ReplicationCheckpointMap.default,created,newest,lastOf]
  nodup := List.nodup_nil
  short := Nat.zero_le MAX_STORED_CHECKPOINTS
  keys key := by simp [Run.start,ReplicationCheckpointMap.default,ReplicationCheckpointMap.get]
  values key tick found := by simp [Run.start,ReplicationCheckpointMap.default,ReplicationCheckpointMap.get] at found

/-- A new key: the queue and the entries drop the same keys. -/
theorem Stored.record_new {run : Run K} (stored : Stored run) (replicon_tick : K) (tick : Tick)
    (unknown : run.map.get replicon_tick = none) : Stored (run.step (.record replicon_tick tick)) := by
  obtain ⟨queue,kept⟩ := enqueue_spec stored.short replicon_tick
  have absent : replicon_tick ∉ run.map.order := by
    rw [stored.keys,unknown]
    simp
  have nodup : (run.map.order ++ [replicon_tick]).Nodup :=
    stored.nodup.append (List.nodup_singleton _) (by simpa using absent)
  have order : (run.map.record replicon_tick tick).order = (run.map.enqueue replicon_tick).order := by
    simp [ReplicationCheckpointMap.record,unknown]
  have entries (key : K) : (run.map.record replicon_tick tick).get key = if key = replicon_tick then some tick else
      if key ∈ (run.map.order ++ [replicon_tick]).take (run.map.order.length + 1 - MAX_STORED_CHECKPOINTS) then none
      else run.map.get key := by
    rw [get_record,unknown,Option.isNone_none,if_pos rfl,kept]
  refine ⟨?_,?_,?_,fun key => ?_,fun key found entry => ?_⟩
  · change (run.map.record replicon_tick tick).order = newest (created (run.records ++ [(replicon_tick,tick)]))
    rw [order,queue,created_snoc,create,if_neg (stored.order ▸ absent),newest_snoc,← stored.order]
  · change (run.map.record replicon_tick tick).order.Nodup
    rw [order,queue]
    exact nodup.sublist (List.drop_sublist _ _)
  · change (run.map.record replicon_tick tick).order.length ≤ _
    rw [order,queue,List.length_drop,List.length_append,List.length_singleton]
    omega
  · change key ∈ (run.map.record replicon_tick tick).order ↔ ((run.map.record replicon_tick tick).get key).isSome
    rw [order,entries,queue]
    by_cases same : key = replicon_tick
    · rw [if_pos same,List.drop_append_of_le_length (fits stored.short)]
      simp [same]
    · rw [if_neg same,mem_drop_iff nodup]
      by_cases dropped : key ∈ (run.map.order ++ [replicon_tick]).take
        (run.map.order.length + 1 - MAX_STORED_CHECKPOINTS)
      · simp [dropped]
      · simp [dropped,same,stored.keys key]
  · change (run.map.record replicon_tick tick).get key = some found at entry
    change latest (run.records ++ [(replicon_tick,tick)]) key = some found
    rw [entries] at entry
    rw [latest_snoc]
    by_cases same : key = replicon_tick
    · rwa [if_pos same] at entry ⊢
    · rw [if_neg same] at entry ⊢
      split at entry
      · cases entry
      · exact stored.values key found entry

theorem Stored.record_again {run : Run K} (stored : Stored run) (replicon_tick : K) (tick earlier : Tick)
    (known : run.map.get replicon_tick = some earlier) : Stored (run.step (.record replicon_tick tick)) := by
  have queued : replicon_tick ∈ run.map.order := by
    rw [stored.keys,known]
    rfl
  have order : (run.map.record replicon_tick tick).order = run.map.order := by
    simp [ReplicationCheckpointMap.record,known]
  have entries (key : K) : (run.map.record replicon_tick tick).get key =
      if key = replicon_tick then some tick else run.map.get key := by
    simp [get_record,known]
  refine ⟨?_,order ▸ stored.nodup,order ▸ stored.short,fun key => ?_,fun key found entry => ?_⟩
  · change (run.map.record replicon_tick tick).order = newest (created (run.records ++ [(replicon_tick,tick)]))
    rw [order,created_snoc,create,if_pos (stored.order ▸ queued),stored.order]
  · change key ∈ (run.map.record replicon_tick tick).order ↔ ((run.map.record replicon_tick tick).get key).isSome
    rw [order,entries]
    by_cases same : key = replicon_tick
    · simp [same,queued]
    · rw [if_neg same,stored.keys]
  · change (run.map.record replicon_tick tick).get key = some found at entry
    change latest (run.records ++ [(replicon_tick,tick)]) key = some found
    rw [entries] at entry
    rw [latest_snoc]
    by_cases same : key = replicon_tick
    · rwa [if_pos same] at entry ⊢
    · rw [if_neg same] at entry ⊢
      exact stored.values key found entry

/-! ### The latest confirmed checkpoint -/

/-- A checkpoint is confirmed when none is yet, or its tick is not below that of the confirmed one. -/
theorem record_last_confirmed_cases (map : ReplicationCheckpointMap K) (replicon_tick : K) :
    ((map.record_last_confirmed_tick replicon_tick).2 = map ∧
        ∀ tick, map.get replicon_tick = some tick → ∃ existing, map.last_confirmed_tick = some existing ∧
          tick < existing) ∨
      ∃ tick, map.get replicon_tick = some tick ∧
        (∀ existing, map.last_confirmed_tick = some existing → existing ≤ tick) ∧
        (map.record_last_confirmed_tick replicon_tick).2 =
          {map with last_confirmed_replicon_tick := some replicon_tick,last_confirmed_tick := some tick} := by
  rw [ReplicationCheckpointMap.record_last_confirmed_tick]
  cases found : map.get replicon_tick with
  | none => exact .inl ⟨rfl,by simp⟩
  | some tick =>
    cases confirmed : map.last_confirmed_tick with
    | none => exact .inr ⟨tick,rfl,by simp,rfl⟩
    | some existing =>
      by_cases later : existing ≤ tick
      · exact .inr ⟨tick,rfl,by simpa using later,by simp [later]⟩
      · exact .inl ⟨by simp [later],by simpa using later⟩

/-- The queue and the entries after the confirmation of a checkpoint. -/
theorem record_last_confirmed_frame (map : ReplicationCheckpointMap K) (replicon_tick : K) :
    (map.record_last_confirmed_tick replicon_tick).2.order = map.order ∧
      (map.record_last_confirmed_tick replicon_tick).2.entries = map.entries := by
  obtain ⟨unchanged,-⟩ | ⟨tick,-,-,confirmed⟩ := record_last_confirmed_cases map replicon_tick
  · rw [unchanged]
    exact ⟨rfl,rfl⟩
  · rw [confirmed]
    exact ⟨rfl,rfl⟩

theorem Stored.step {run : Run K} (stored : Stored run) (call : Call K) : Stored (run.step call) := by
  cases call with
  | record replicon_tick tick =>
    cases found : run.map.get replicon_tick with
    | none => exact stored.record_new replicon_tick tick found
    | some earlier => exact stored.record_again replicon_tick tick earlier found
  | record_last_confirmed_tick replicon_tick =>
    obtain ⟨order,entries⟩ := record_last_confirmed_frame run.map replicon_tick
    have get (key : K) : (run.map.record_last_confirmed_tick replicon_tick).2.get key = run.map.get key :=
      congrArg (·.lookup key) entries
    exact ⟨order.trans stored.order,order.symm ▸ stored.nodup,order.symm ▸ stored.short,
      fun key => by rw [Run.step,order,get]; exact stored.keys key,
      fun key tick found => stored.values key tick ((get key).symm.trans found)⟩
  | clear => exact .start

theorem Stored.run (calls : List (Call K)) : Stored (Run.run calls) := by
  induction calls using List.reverseRecOn with
  | nil => exact .start
  | append_singleton calls call ih =>
    rw [Run.run,List.foldl_append]
    exact ih.step call

/-- The confirmed checkpoint has been recorded since the map was cleared. -/
def Confirmed (run : Run K) : Prop :=
  run.map.last_confirmed_replicon_tick = none ∧ run.map.last_confirmed_tick = none ∨
    ∃ replicon_tick tick, run.map.last_confirmed_replicon_tick = some replicon_tick ∧
      run.map.last_confirmed_tick = some tick ∧ (replicon_tick,tick) ∈ run.records

/-- Recording a checkpoint does not confirm one. -/
theorem record_frame (map : ReplicationCheckpointMap K) (replicon_tick : K) (tick : Tick) :
    (map.record replicon_tick tick).last_confirmed_replicon_tick = map.last_confirmed_replicon_tick ∧
      (map.record replicon_tick tick).last_confirmed_tick = map.last_confirmed_tick := by
  have enqueued : (map.enqueue replicon_tick).last_confirmed_replicon_tick = map.last_confirmed_replicon_tick ∧
      (map.enqueue replicon_tick).last_confirmed_tick = map.last_confirmed_tick := by
    rw [ReplicationCheckpointMap.enqueue]
    split
    · split <;> exact ⟨rfl,rfl⟩
    · exact ⟨rfl,rfl⟩
  rw [ReplicationCheckpointMap.record]
  split
  · exact enqueued
  · exact ⟨rfl,rfl⟩

theorem Confirmed.step {run : Run K} (stored : Stored run) (confirmed : Confirmed run) (call : Call K) :
    Confirmed (run.step call) := by
  cases call with
  | record replicon_tick tick =>
    obtain ⟨sameKey,sameTick⟩ := record_frame run.map replicon_tick tick
    rw [Confirmed,Run.step,sameKey,sameTick]
    obtain none | ⟨k,t,isKey,isTick,recorded⟩ := confirmed
    · exact .inl none
    · exact .inr ⟨k,t,isKey,isTick,List.mem_append_left _ recorded⟩
  | record_last_confirmed_tick replicon_tick =>
    rw [Confirmed,Run.step]
    obtain ⟨unchanged,-⟩ | ⟨tick,found,-,changed⟩ := record_last_confirmed_cases run.map replicon_tick
    · rw [unchanged]
      exact confirmed
    · rw [changed]
      exact .inr ⟨replicon_tick,tick,rfl,rfl,latest_mem (stored.values _ _ found)⟩
  | clear => exact .inl ⟨rfl,rfl⟩

theorem Confirmed.run (calls : List (Call K)) : Confirmed (Run.run calls) := by
  induction calls using List.reverseRecOn with
  | nil => exact .inl ⟨rfl,rfl⟩
  | append_singleton calls call ih =>
    rw [Run.run,List.foldl_append]
    exact ih.step (.run calls) call

/-- Something that is there stays there and does not decrease. -/
def Kept {A : Type} [LE A] (before after : Option A) : Prop :=
  ∀ earlier, before = some earlier → ∃ later, after = some later ∧ earlier ≤ later

theorem Kept.trans {A : Type} [LE A] (trans : ∀ a b c : A, a ≤ b → b ≤ c → a ≤ c) {first second third : Option A}
    (before : Kept first second) (after : Kept second third) : Kept first third := by
  intro a isFirst
  obtain ⟨b,isSecond,ab⟩ := before a isFirst
  obtain ⟨c,isThird,bc⟩ := after b isSecond
  exact ⟨c,isThird,trans a b c ab bc⟩

/-- A later checkpoint has no earlier tick; two checkpoints may share one. -/
def MonotoneRecords [LE K] (records : List (K × Tick)) : Prop :=
  ∀ record ∈ records, ∀ other ∈ records, record.1 ≤ other.1 → record.2 ≤ other.2

/-- A checkpoint that shares the tick of the confirmed one is confirmed in its order. -/
def TieKept [LE K] (map : ReplicationCheckpointMap K) (call : Call K) : Prop :=
  ∀ confirmed replicon_tick, map.last_confirmed_replicon_tick = some confirmed →
    call = .record_last_confirmed_tick replicon_tick → map.get replicon_tick = map.last_confirmed_tick →
      confirmed ≤ replicon_tick

theorem tick_kept (run : Run K) {call : Call K} (kept : call ≠ .clear) :
    Kept run.map.last_confirmed_tick (run.step call).map.last_confirmed_tick := by
  cases call with
  | record replicon_tick tick =>
    rw [Run.step,(record_frame run.map replicon_tick tick).2]
    exact fun earlier confirmed => ⟨earlier,confirmed,le_rfl⟩
  | record_last_confirmed_tick replicon_tick =>
    rw [Run.step]
    obtain ⟨unchanged,-⟩ | ⟨tick,-,later,changed⟩ := record_last_confirmed_cases run.map replicon_tick
    · rw [unchanged]
      exact fun earlier confirmed => ⟨earlier,confirmed,le_rfl⟩
    · rw [changed]
      exact fun earlier confirmed => ⟨tick,rfl,later earlier confirmed⟩
  | clear => exact absurd rfl kept

section
variable [LE K]

/-- Where the ticks differ, the records order the checkpoints; where they agree, nothing does. -/
theorem replicon_tick_kept (total : ∀ a b : K, a ≤ b ∨ b ≤ a) {run : Run K} (stored : Stored run)
    (confirmed : Confirmed run)
    {call : Call K} (kept : call ≠ .clear) (monotone : MonotoneRecords (run.step call).records) :
    Kept run.map.last_confirmed_replicon_tick (run.step call).map.last_confirmed_replicon_tick ↔
      TieKept run.map call := by
  have refl (a : K) : a ≤ a := (total a a).elim id id
  cases call with
  | record replicon_tick tick =>
    rw [Run.step,(record_frame run.map replicon_tick tick).1]
    exact iff_of_true (fun earlier isKey => ⟨earlier,isKey,refl earlier⟩) (fun _ _ _ other => by cases other)
  | record_last_confirmed_tick replicon_tick =>
    rw [Run.step]
    obtain ⟨unchanged,below⟩ | ⟨tick,found,later,changed⟩ := record_last_confirmed_cases run.map replicon_tick
    · rw [unchanged]
      refine iff_of_true (fun earlier isKey => ⟨earlier,isKey,refl earlier⟩) ?_
      rintro key _ isKey ⟨⟩ tie
      obtain ⟨none,-⟩ | ⟨_,existing,-,isTick,-⟩ := confirmed
      · cases isKey.symm.trans none
      · obtain ⟨_,isTick',lower⟩ := below existing (tie.trans isTick)
        exact absurd (Option.some.inj (isTick.symm.trans isTick')) (ne_of_lt lower)
    · rw [changed]
      obtain ⟨none,-⟩ | ⟨key,existing,isKey,isTick,recorded⟩ := confirmed
      · exact iff_of_true (fun _ isKey => by cases isKey.symm.trans none)
          (fun _ _ isKey => by cases isKey.symm.trans none)
      · have target : (replicon_tick,tick) ∈ run.records := latest_mem (stored.values _ _ found)
        constructor
        · rintro notBelow key' _ isKey' ⟨⟩ -
          obtain ⟨_,⟨⟩,le⟩ := notBelow key' isKey'
          exact le
        · intro tieKept key' isKey'
          refine ⟨replicon_tick,rfl,?_⟩
          by_cases tie : existing = tick
          · exact tieKept key' replicon_tick isKey' rfl (by rw [found,isTick,tie])
          · cases Option.some.inj (isKey.symm.trans isKey')
            -- the recorded ticks differ, so the checkpoints cannot be the other way round
            refine (total key replicon_tick).resolve_right fun above => ?_
            exact tie (le_antisymm (later existing isTick) (monotone _ target _ recorded above))
  | clear => exact absurd rfl kept

omit [LE K] in
theorem mem_records {run : Run K} {call : Call K} (kept : call ≠ .clear) {record : K × Tick}
    (mem : record ∈ run.records) :
    record ∈ (run.step call).records := by
  cases call with
  | record replicon_tick tick => exact List.mem_append_left _ mem
  | record_last_confirmed_tick replicon_tick => exact mem
  | clear => exact absurd rfl kept

theorem checkpoint_map_upkeep (total : ∀ a b : K, a ≤ b ∨ b ≤ a) (calls : List (Call K)) :
    Stored (Run.run calls) ∧
      (∀ call, call ≠ .clear →
        Kept (Run.run calls).map.last_confirmed_tick (Run.run (calls ++ [call])).map.last_confirmed_tick ∧
        (MonotoneRecords (Run.run (calls ++ [call])).records →
          (Kept (Run.run calls).map.last_confirmed_replicon_tick
            (Run.run (calls ++ [call])).map.last_confirmed_replicon_tick ↔ TieKept (Run.run calls).map call))) ∧
      ∀ later, .clear ∉ later →
        Kept (Run.run calls).map.last_confirmed_tick (Run.run (calls ++ later)).map.last_confirmed_tick ∧
        ((∀ a b c : K, a ≤ b → b ≤ c → a ≤ c) → MonotoneRecords (Run.run (calls ++ later)).records →
          (∀ done call rest, later = done ++ call :: rest → TieKept (Run.run (calls ++ done)).map call) →
            Kept (Run.run calls).map.last_confirmed_replicon_tick
              (Run.run (calls ++ later)).map.last_confirmed_replicon_tick) := by
  have snoc (calls : List (Call K)) (call : Call K) : Run.run (calls ++ [call]) = (Run.run calls).step call := by
    rw [Run.run,List.foldl_append]
    rfl
  refine ⟨.run calls,fun call kept => ?_,fun later kept => ?_⟩
  · rw [snoc]
    exact ⟨tick_kept _ kept,replicon_tick_kept total (.run calls) (.run calls) kept⟩
  · induction later using List.reverseRecOn with
    | nil =>
      rw [List.append_nil]
      exact ⟨fun earlier confirmed => ⟨earlier,confirmed,le_rfl⟩,
        fun _ _ _ earlier isKey => ⟨earlier,isKey,(total earlier earlier).elim id id⟩⟩
    | append_singleton later call ih =>
      have notClear : call ≠ .clear := fun isClear => kept (by simp [isClear])
      obtain ⟨tickKept,repliconKept⟩ := ih fun cleared => kept (List.mem_append_left _ cleared)
      rw [← List.append_assoc,snoc]
      refine ⟨tickKept.trans (fun _ _ _ => le_trans) (tick_kept _ notClear),fun trans monotone ties => ?_⟩
      have monotone' : MonotoneRecords (Run.run (calls ++ later)).records := fun record mem other mem' =>
        monotone record (mem_records notClear mem) other (mem_records notClear mem')
      have before := repliconKept trans monotone' fun done call' rest split =>
        ties done call' (rest ++ [call]) (by simp [split])
      exact before.trans trans
        ((replicon_tick_kept total (.run _) (.run _) notClear monotone).mpr (ties later call [] rfl))

end
end

/-- Three checkpoints, two of them at one tick and confirmed in their order. -/
theorem checkpoint_map_upkeep_tie :
    Kept (some 9) (Run.run [.record 9 100,.record 10 100,.record_last_confirmed_tick 9,.record_last_confirmed_tick 10]
      : Run Nat).map.last_confirmed_replicon_tick := by
  refine ((checkpoint_map_upkeep (fun a b => Nat.le_total a b)
    [.record 9 100,.record 10 100,.record_last_confirmed_tick 9]).2.2 [.record_last_confirmed_tick 10] (by simp)).2
    (fun _ _ _ => Nat.le_trans) ?_ ?_
  · unfold MonotoneRecords
    decide
  · intro done call rest split confirmed replicon_tick isKey isCall _
    cases done with
    | nil =>
      obtain ⟨rfl,-⟩ := List.cons.inj split
      cases isCall
      have nine : (Run.run [.record 9 100,.record 10 100,.record_last_confirmed_tick 9]
        : Run Nat).map.last_confirmed_replicon_tick = some 9 := by decide
      cases isKey.symm.trans nine
      decide
    | cons _ done => simp at split

/-- Two checkpoints of one tick, the later one confirmed first. -/
theorem checkpoint_goes_back :
    ¬ ∀ (calls : List (Call Nat))
      (call : Call Nat), call ≠ .clear → MonotoneRecords (Run.run (calls ++ [call])).records →
      Kept (Run.run calls).map.last_confirmed_replicon_tick
        (Run.run (calls ++ [call])).map.last_confirmed_replicon_tick := by
  intro never
  obtain ⟨later,isLater,le⟩ :=
    never [.record 9 100,.record 10 100,.record_last_confirmed_tick 10] (.record_last_confirmed_tick 9)
    (by simp) (by unfold MonotoneRecords; decide) 10 (by decide)
  have nine : (Run.run [.record 9 100,.record 10 100,.record_last_confirmed_tick 10,.record_last_confirmed_tick 9]
    : Run Nat).map.last_confirmed_replicon_tick = some 9 := by decide
  cases isLater.symm.trans nine
  exact absurd le (by decide)

end Lightyear.Checkpoint
