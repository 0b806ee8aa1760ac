import Lightyear.HistoryBuffer
import Lightyear.Maps
import Lightyear.Xor

/-!
The checksums of a tick, `checksum.rs`: a client hashes what its prediction histories
have for the tick, the server its components, and both combine the hashes by exclusive
or. Values that occur twice cancel, and a client's checksum of 0 is never reported.
-/
namespace Lightyear.Checksum
open Message Lightyear.Core Maps

/-- The type of a kind of component, and the function that hashes it, a `seahash::SeaHasher` in the end. -/
structure HashFns (Kind : Type) (Component : Kind → Type) where
  hash_component : (kind : Kind) → Component kind → BitVec 64

/-- The entities of an archetype with the marker `Deterministic`, each with its components that have a hash function:
their values on the server, their prediction histories on a client. -/
structure ChecksumArchetype (Kind : Type) (Stored : Kind → Type) where
  entities : List (List (Σ kind,Stored kind))

variable {Kind : Type} {Component Stored : Kind → Type}

/-- Hashes the value of a history at a tick, if it has one. -/
def pop_until_tick_and_hash (hash_fns : HashFns Kind Component) {kind : Kind} (history : HistoryBuffer (Component kind))
    (tick : Tick) :
    Option (BitVec 64) :=
  (history.get tick).map (hash_fns.hash_component kind)

def compute_history_checksum (hash_fns : HashFns Kind Component)
    (world : List (ChecksumArchetype Kind fun kind => HistoryBuffer (Component kind))) (tick : Tick) : BitVec 64 :=
  world.foldl (fun checksum archetype =>
    archetype.entities.foldl (fun checksum entity =>
      entity.foldl (fun checksum history =>
        match pop_until_tick_and_hash hash_fns history.2 tick with
        | some hash => checksum ^^^ hash
        | none => checksum) checksum) checksum) 0

/-- The checksum of `compute_and_store_checksum`. -/
def compute_checksum (hash_fns : HashFns Kind Component) (world : List (ChecksumArchetype Kind Component)) :
    BitVec 64 :=
  world.foldl (fun checksum archetype =>
    archetype.entities.foldl (fun checksum entity =>
      entity.foldl (fun checksum component => checksum ^^^ hash_fns.hash_component component.1 component.2) checksum)
        checksum) 0

structure ChecksumMessage where
  tick : Tick
  checksum : BitVec 64

/-- The checksums of the server. -/
abbrev ChecksumHistory := Map Tick (BitVec 64)

def compute_and_store_checksum (hash_fns : HashFns Kind Component) (world : List (ChecksumArchetype Kind Component))
    (tick : Tick)
    (history : ChecksumHistory) : ChecksumHistory :=
  history.insert tick (compute_checksum hash_fns world)

/-- What is logged for a message. -/
inductive Report where
  | checksum_match
  | checksum_mismatch (expected got : BitVec 64)
deriving DecidableEq

def receive_checksum_message (history : ChecksumHistory) (message : ChecksumMessage) : Option Report :=
  match history.lookup message.tick with
  | none => none
  | some expected =>
    if expected = message.checksum then some .checksum_match else
    if message.checksum ≠ 0 then some (.checksum_mismatch expected message.checksum) else none

/-- The components of a world in the order of the loops. -/
def components (world : List (ChecksumArchetype Kind Stored)) : List (Σ kind,Stored kind) :=
  world.flatMap fun archetype => archetype.entities.flatten

/-- The values that a client has for a tick. -/
def history_values (world : List (ChecksumArchetype Kind fun kind => HistoryBuffer (Component kind))) (tick : Tick) :
    Multiset (Σ kind,Component kind) :=
  ((components world).filterMap fun history => (history.2.get tick).map (Sigma.mk history.1) : List _)

/-- The values of the server. -/
def live_values (world : List (ChecksumArchetype Kind Component)) :
    Multiset (Σ kind,Component kind) := (components world : List _)

/-- The hash of a value. -/
def HashFns.hash (self : HashFns Kind Component) (value : Σ kind,Component kind) :
    BitVec 64 := self.hash_component value.1 value.2

private theorem foldl_components (step : BitVec 64 → (Σ kind,Stored kind) → BitVec 64)
    (world : List (ChecksumArchetype Kind Stored))
    (init : BitVec 64) :
    world.foldl (fun checksum archetype =>
      archetype.entities.foldl (fun checksum entity => entity.foldl step checksum) checksum) init =
      (components world).foldl step init := by
  rw [components,List.foldl_flatMap]
  simp only [List.foldl_flatten]

/-- The checksum of a client combines the hashes of the values that its histories have. -/
theorem compute_history_checksum_eq (hash_fns : HashFns Kind Component)
    (world : List (ChecksumArchetype Kind fun kind => HistoryBuffer (Component kind))) (tick : Tick) :
    compute_history_checksum hash_fns world tick = Xor.all ((history_values world tick).map hash_fns.hash) := by
  have hashed (items : List (Σ kind,HistoryBuffer (Component kind))) (init : BitVec 64) :
      items.foldl (fun checksum history =>
        match pop_until_tick_and_hash hash_fns history.2 tick with
        | some hash => checksum ^^^ hash
        | none => checksum) init =
      (items.filterMap fun history => (history.2.get tick).map (Sigma.mk history.1)).foldl
        (fun checksum value => checksum ^^^ hash_fns.hash value) init := by
    induction items generalizing init with
    | nil => rfl
    | cons history items ih =>
      rw [List.foldl_cons,ih,List.filterMap_cons,pop_until_tick_and_hash]
      cases history.2.get tick <;> rfl
  rw [compute_history_checksum,foldl_components,hashed]
  refine (Xor.foldl_eq hash_fns.hash (fun _ _ => rfl) _ _).trans ?_
  simp [history_values]

theorem compute_checksum_eq (hash_fns : HashFns Kind Component) (world : List (ChecksumArchetype Kind Component)) :
    compute_checksum hash_fns world = Xor.all ((live_values world).map hash_fns.hash) := by
  rw [compute_checksum,foldl_components]
  refine (Xor.foldl_eq hash_fns.hash (fun _ _ => rfl) _ _).trans ?_
  simp [live_values]

/-- A client that differs is reported unless its checksum is 0. -/
theorem receive_checksum_message_stored (hash_fns : HashFns Kind Component)
    (world : List (ChecksumArchetype Kind Component))
    (tick : Tick) (history : ChecksumHistory) (checksum : BitVec 64) :
    receive_checksum_message (compute_and_store_checksum hash_fns world tick history) ⟨tick,checksum⟩ =
        some (.checksum_mismatch (compute_checksum hash_fns world) checksum) ↔
      checksum ≠ compute_checksum hash_fns world ∧ checksum ≠ 0 := by
  simp only [receive_checksum_message,compute_and_store_checksum,AList.lookup_insert]
  by_cases same : compute_checksum hash_fns world = checksum
  · simp [same]
  · by_cases zero : checksum = 0
    · simp [zero]
    · simp [same,Ne.symm same]

variable [DecidableEq (Σ kind,Component kind)]

/-- Two checksums are the same exactly if the hashes of the values with an odd number of occurrences on both sides
together cancel. A mismatch is reported exactly if they differ and that of the client is not 0. -/
theorem desync_detected (hash_fns : HashFns Kind Component) (tick : Tick)
    (client : List (ChecksumArchetype Kind fun kind => HistoryBuffer (Component kind)))
    (server : List (ChecksumArchetype Kind Component)) (history : ChecksumHistory)
    (injective : Set.InjOn hash_fns.hash {value | value ∈ history_values client tick ∨ value ∈ live_values server}) :
    let got := compute_history_checksum hash_fns client tick
    let expected := compute_checksum hash_fns server
    (got = expected ↔ Xor.all ((Xor.odd (history_values client tick + live_values server)).val.map hash_fns.hash) = 0) ∧
      (history_values client tick = live_values server → got = expected) ∧
      (∀ value value' rest,history_values client tick = value ::ₘ rest → live_values server = value' ::ₘ rest →
        value ≠ value' →
        got ≠ expected) ∧
      (∀ value,history_values client tick = value ::ₘ live_values server ∨
        live_values server = value ::ₘ history_values client tick →
        (got ≠ expected ↔ hash_fns.hash value ≠ 0)) ∧
      (receive_checksum_message (compute_and_store_checksum hash_fns server tick history) ⟨tick,got⟩ =
        some (.checksum_mismatch expected got) ↔ got ≠ expected ∧ got ≠ 0) := by
  intro got expected
  have isGot : got = Xor.all ((history_values client tick).map hash_fns.hash) :=
    compute_history_checksum_eq hash_fns client tick
  have isExpected : expected = Xor.all ((live_values server).map hash_fns.hash) := compute_checksum_eq hash_fns server
  refine ⟨?_,fun same => ?_,fun value value' rest before after differ same => ?_,fun value one => ?_,
    receive_checksum_message_stored ..⟩
  · rw [Xor.eq_iff_xor,isGot,isExpected,← Xor.all_add,← Multiset.map_add,Xor.all_odd]
  · rw [isGot,isExpected,same]
  · rw [isGot,isExpected,before,after,Multiset.map_cons,Multiset.map_cons,Xor.all_cons,Xor.all_cons] at same
    exact differ (injective (.inl (by simp [before])) (.inr (by simp [after])) ((BitVec.xor_left_inj _).mp same))
  · rw [isGot,isExpected]
    rcases one with more | fewer
    · rw [more,Multiset.map_cons,Xor.all_cons,ne_eq,ne_eq,not_iff_not,Xor.eq_iff_xor,BitVec.xor_assoc,BitVec.xor_self,
        BitVec.xor_zero]
    · rw [fewer,Multiset.map_cons,Xor.all_cons,ne_comm,ne_eq,ne_eq,not_iff_not,Xor.eq_iff_xor,BitVec.xor_assoc,
        BitVec.xor_self,
        BitVec.xor_zero]

/-- A component that is its own hash. -/
private def identity : HashFns Unit fun _ => BitVec 64 := ⟨fun _ value => value⟩

/-- Entities with one component each, on the server and on a client that has simulated tick 3. -/
private def spawned (values : List (BitVec 64)) :
    List (ChecksumArchetype Unit fun _ => BitVec 64) := [⟨values.map fun value => [⟨(),value⟩]⟩]

private def simulated (values : List (BitVec 64)) : List (ChecksumArchetype Unit fun _ => HistoryBuffer (BitVec 64)) :=
  [⟨values.map fun value => [⟨(),⟨[(3,.Updated value)]⟩⟩]⟩]

private theorem identity_injective (values : Set (Σ _ : Unit,BitVec 64)) : Set.InjOn identity.hash values :=
  fun _ _ _ _ same => Sigma.ext rfl (heq_of_eq same)

/-- One of two entities has diverged. -/
theorem desync_detected_one :
    receive_checksum_message (compute_and_store_checksum identity (spawned [1,2]) 3 ∅)
      ⟨3,compute_history_checksum identity (simulated [1,3]) 3⟩ =
        some (.checksum_mismatch (compute_checksum identity (spawned [1,2]))
          (compute_history_checksum identity (simulated [1,3]) 3)) :=
  (desync_detected identity 3 (simulated [1,3]) (spawned [1,2]) ∅ (identity_injective _)).2.2.2.2.mpr (by decide)

/-- Two entities that hold the same value diverge in the same way, and both checksums are 0. -/
theorem equal_values_cancel :
    ¬∀ (client : List (ChecksumArchetype Unit fun _ => HistoryBuffer (BitVec 64)))
      (server : List (ChecksumArchetype Unit fun _ => BitVec 64))
      (tick : Tick),Set.InjOn identity.hash {value | value ∈ history_values client tick ∨ value ∈ live_values server} →
      history_values client tick ≠ live_values server →
      compute_history_checksum identity client tick ≠ compute_checksum identity server := by
  intro sensitive
  exact sensitive (simulated [1,1]) (spawned [2,2]) 3 (identity_injective _) (by decide) (by decide)

end Lightyear.Checksum
