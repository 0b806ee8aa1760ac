import Lightyear.Netcode.Crypto

/-!
`replay.rs`. A window that was given some sequence numbers does not take another one for
received, unless it is too old for the window.
-/
namespace Lightyear.Netcode
open Calls

abbrev REPLAY_PROTECTION_BUFFER_SIZE : Nat := 256
def UNRECEIVED : UInt64 := 0xFFFFFFFFFFFFFFFF

structure ReplayProtection where
  most_recent_sequence : UInt64
  received_packet : Vector UInt64 REPLAY_PROTECTION_BUFFER_SIZE
deriving DecidableEq, Repr

namespace ReplayProtection

def new : ReplayProtection := ⟨0,Vector.replicate REPLAY_PROTECTION_BUFFER_SIZE UNRECEIVED⟩

/-- The slot of a sequence number. -/
def index (sequence : UInt64) : Fin REPLAY_PROTECTION_BUFFER_SIZE :=
  ⟨sequence.toNat % REPLAY_PROTECTION_BUFFER_SIZE,Nat.mod_lt _ (by decide)⟩

def advance_sequence (self : ReplayProtection) (sequence : UInt64) : ReplayProtection :=
  { most_recent_sequence := if sequence > self.most_recent_sequence then sequence else self.most_recent_sequence
    received_packet := self.received_packet.set (index sequence) sequence }

def is_already_received {ε : Type} (self : ReplayProtection) (sequence : UInt64) : Fallible ε Bool := do
  let end_of_window ← checked_add sequence (UInt64.ofNat REPLAY_PROTECTION_BUFFER_SIZE)
  if end_of_window ≤ self.most_recent_sequence then
    pure true
  else if self.received_packet[index sequence] = UNRECEIVED then
    pure false
  else
    pure (decide (self.received_packet[index sequence] ≥ sequence))

/-- The window that was given these sequence numbers, one after the other. -/
def of (seen : List UInt64) : ReplayProtection := seen.foldl advance_sequence new

/-- What a window knows is part of its history. -/
structure Knows (window : ReplayProtection) (seen : List UInt64) : Prop where
  most_recent : window.most_recent_sequence = 0 ∨ window.most_recent_sequence ∈ seen
  slot : ∀ i : Fin REPLAY_PROTECTION_BUFFER_SIZE, window.received_packet[i] = UNRECEIVED ∨
    window.received_packet[i] ∈ seen ∧ index window.received_packet[i] = i

theorem knows_new : Knows new [] := by
  refine ⟨.inl rfl,fun i => .inl ?_⟩
  simp [new]

theorem advance_sequence_slot (self : ReplayProtection) (sequence : UInt64) (i : Fin REPLAY_PROTECTION_BUFFER_SIZE) :
    (self.advance_sequence sequence).received_packet[i] =
      if index sequence = i then sequence else self.received_packet[i] := by
  simp [advance_sequence,Vector.getElem_set,Fin.ext_iff]

theorem Knows.advance {self : ReplayProtection} {seen : List UInt64} (knows : self.Knows seen) (sequence : UInt64) :
    (self.advance_sequence sequence).Knows (seen ++ [sequence]) := by
  have here : sequence ∈ seen ++ [sequence] := by simp
  refine ⟨?_,fun i => ?_⟩
  · unfold advance_sequence
    dsimp only
    split
    · exact .inr here
    · exact knows.most_recent.imp_right (List.mem_append_left _)
  · rw [advance_sequence_slot]
    split
    · next same => exact .inr ⟨here,same⟩
    · exact (knows.slot i).imp_right (fun ⟨member,same⟩ => ⟨List.mem_append_left _ member,same⟩)

theorem knows_of (seen : List UInt64) : (of seen).Knows seen := by
  have general : ∀ (later : List UInt64) (self : ReplayProtection) (earlier : List UInt64), self.Knows earlier →
      (later.foldl advance_sequence self).Knows (earlier ++ later) := by
    intro later
    induction later with
    | nil => intro self earlier knows; simpa using knows
    | cons sequence later ih =>
      intro self earlier knows
      have advanced := ih _ _ (knows.advance sequence)
      rwa [List.append_assoc] at advanced
  exact general seen new [] knows_new

/-- Two numbers of one slot are far apart. -/
theorem not_newer {other sequence : UInt64} (same : index other = index sequence) (differs : other ≠ sequence)
    (recent : other.toNat < sequence.toNat + REPLAY_PROTECTION_BUFFER_SIZE) : ¬other ≥ sequence := by
  intro newer
  have order : sequence.toNat ≤ other.toNat := UInt64.le_iff_toNat_le.mp newer
  have slots : other.toNat % 256 = sequence.toNat % 256 := Fin.ext_iff.mp same
  have bound : other.toNat < sequence.toNat + 256 := recent
  exact differs (UInt64.toNat_inj.mp (by omega))

/-- The check, of a number that does not overflow. -/
theorem is_already_received_eq {ε : Type} {self : ReplayProtection} {sequence : UInt64}
    (fits : sequence.toNat + REPLAY_PROTECTION_BUFFER_SIZE < 2 ^ 64) :
    (self.is_already_received sequence : Fallible ε Bool) =
      .ok (decide (sequence.toNat + REPLAY_PROTECTION_BUFFER_SIZE ≤ self.most_recent_sequence.toNat) ||
        decide (self.received_packet[index sequence] ≠ UNRECEIVED) && decide
          (sequence ≤ self.received_packet[index sequence])) := by
  have size : (UInt64.ofNat REPLAY_PROTECTION_BUFFER_SIZE).toNat = REPLAY_PROTECTION_BUFFER_SIZE := rfl
  have added : (checked_add sequence (UInt64.ofNat REPLAY_PROTECTION_BUFFER_SIZE) : Fallible ε UInt64) =
      .ok (sequence + UInt64.ofNat REPLAY_PROTECTION_BUFFER_SIZE) := if_pos (by rwa [size])
  have window : sequence + UInt64.ofNat REPLAY_PROTECTION_BUFFER_SIZE ≤ self.most_recent_sequence ↔
      sequence.toNat + REPLAY_PROTECTION_BUFFER_SIZE ≤ self.most_recent_sequence.toNat := by
    rw [UInt64.le_iff_toNat_le,UInt64.toNat_add,size,Nat.mod_eq_of_lt fits]
  unfold is_already_received
  rw [added]
  change (if _ then _ else _) = _
  simp only [window]
  split
  next tooOld => rw [decide_eq_true tooOld]; rfl
  next recent =>
  rw [decide_eq_false recent]
  split
  next unreceived => rw [decide_eq_false (not_not.mpr unreceived)]; rfl
  next received => rw [decide_eq_true (show self.received_packet[index sequence] ≠ UNRECEIVED from received)]; rfl

/-- A number that is not part of what the window knows, and is not `REPLAY_PROTECTION_BUFFER_SIZE` or more behind one
that is, is not taken for received. The last numbers of all overflow. -/
theorem Knows.not_received {ε : Type} {self : ReplayProtection} {seen : List UInt64} {sequence : UInt64}
    (knows : self.Knows seen)
    (unseen : sequence ∉ seen) (recent : ∀ other ∈ seen, other.toNat < sequence.toNat + REPLAY_PROTECTION_BUFFER_SIZE)
    (fits : sequence.toNat + REPLAY_PROTECTION_BUFFER_SIZE < 2 ^ 64) :
    (self.is_already_received sequence : Fallible ε Bool) = .ok false := by
  have newest : ¬sequence.toNat + REPLAY_PROTECTION_BUFFER_SIZE ≤ self.most_recent_sequence.toNat := by
    rcases knows.most_recent with isZero | member
    · rw [isZero]
      exact Nat.not_le.mpr (Nat.lt_add_left _ (by decide))
    · exact Nat.not_le.mpr (recent _ member)
  rw [is_already_received_eq fits,decide_eq_false newest,Bool.false_or]
  by_cases received : self.received_packet[index sequence] = UNRECEIVED
  · rw [decide_eq_false (not_not.mpr received),Bool.false_and]
  · obtain ⟨member,same⟩ := (knows.slot (index sequence)).resolve_left received
    have older := not_newer same (fun equal => unseen (equal ▸ member)) (recent _ member)
    rw [decide_eq_false older,Bool.and_false]

/-- Of what was given to a window the unseen numbers are not taken for received. -/
theorem not_received {ε : Type} {seen : List UInt64} {sequence : UInt64} (unseen : sequence ∉ seen)
    (recent : ∀ other ∈ seen, other.toNat < sequence.toNat + REPLAY_PROTECTION_BUFFER_SIZE)
    (fits : sequence.toNat + REPLAY_PROTECTION_BUFFER_SIZE < 2 ^ 64) :
    (is_already_received (of seen) sequence : Fallible ε Bool) = .ok false :=
  (knows_of seen).not_received unseen recent fits

/-- Only the last `REPLAY_PROTECTION_BUFFER_SIZE` sequence numbers overflow. -/
theorem is_already_received_panic_iff {ε : Type} {self : ReplayProtection} {sequence : UInt64} {panic : Panic} :
    (self.is_already_received sequence : Fallible ε Bool) = .error (.Panic panic) ↔
      panic = .Overflow ∧ 2 ^ 64 ≤ sequence.toNat + REPLAY_PROTECTION_BUFFER_SIZE := by
  have size : (UInt64.ofNat REPLAY_PROTECTION_BUFFER_SIZE).toNat = REPLAY_PROTECTION_BUFFER_SIZE := rfl
  unfold is_already_received checked_add
  rw [size]
  split
  · next fits =>
    change (if _ then _ else _) = _ ↔ _
    rw [iff_false_right (by omega)]
    split
    · simp [pure,Except.pure]
    · split <;> simp [pure,Except.pure]
  · next overflows =>
    change (.error (.Panic .Overflow) : Fallible ε Bool) = _ ↔ _
    simp only [Except.error.injEq,Failure.Panic.injEq]
    exact ⟨fun same => ⟨same.symm,not_lt.mp overflows⟩,fun same => same.1.symm⟩

/-- The window of some accepted numbers, each of them once. Each one that is too recent to be out of the window is
covered by its slot. -/
structure Remembers (window : ReplayProtection) (accepted : List UInt64) : Prop where
  knows : window.Knows accepted
  distinct : accepted.Nodup
  newest : ∀ sequence ∈ accepted,sequence ≤ window.most_recent_sequence
  covered : ∀ sequence ∈ accepted,window.received_packet[index sequence] ≠ UNRECEIVED ∧
    sequence ≤ window.received_packet[index sequence]

end ReplayProtection

end Lightyear.Netcode
