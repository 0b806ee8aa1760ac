import Lightyear.Netcode.PacketRead
import Lightyear.Snoc

/-!
The window of `replay.rs` over a run of packets: it accepts a sequence number exactly if
it has not accepted it before and it is less than `REPLAY_PROTECTION_BUFFER_SIZE` behind
the greatest one that it has accepted.
-/
namespace Lightyear.Netcode
open Calls

namespace ReplayProtection
variable {ε : Type}

/-- What `Packet::read` does to the window. A number that is not known is advanced to once its packet is decrypted. -/
def check_then_advance (authentic : Bool) (sequence : UInt64) (self : ReplayProtection) :
    Fallible ε (Bool × ReplayProtection) := do
  let received ← self.is_already_received sequence
  if received || !authentic then pure (false,self) else pure (true,self.advance_sequence sequence)

/-- Such operations, with the sequence numbers that they accept. -/
def run (self : ReplayProtection) : List (UInt64 × Bool) → Fallible ε (List UInt64 × ReplayProtection)
  | [] => pure ([],self)
  | (sequence,authentic) :: operations => do
    let (accepted,next) ← self.check_then_advance authentic sequence
    let (later,last) ← next.run operations
    pure (if accepted then sequence :: later else later,last)

/-- What the window accepts next, given what it has accepted. -/
def Acceptable (accepted : List UInt64) (sequence : UInt64) : Prop :=
  sequence ∉ accepted ∧ ∀ other ∈ accepted,other.toNat < sequence.toNat + REPLAY_PROTECTION_BUFFER_SIZE

instance (accepted : List UInt64) (sequence : UInt64) :
    Decidable (Acceptable accepted sequence) := inferInstanceAs (Decidable (_ ∧ _))

variable {self : ReplayProtection} {accepted : List UInt64} {sequence : UInt64}

/-- The check accepts what is acceptable, and nothing else. -/
theorem Remembers.check (remembers : self.Remembers accepted)
    (fits : sequence.toNat + REPLAY_PROTECTION_BUFFER_SIZE < 2 ^ 64) :
    (self.is_already_received sequence : Fallible ε Bool) = .ok !decide (Acceptable accepted sequence) := by
  by_cases acceptable : Acceptable accepted sequence
  · rw [decide_eq_true acceptable]
    exact remembers.knows.not_received acceptable.1 acceptable.2 fits
  rw [decide_eq_false acceptable,is_already_received_eq fits]
  refine congrArg Except.ok (Bool.or_eq_true_iff.mpr ?_)
  by_cases member : sequence ∈ accepted
  · obtain ⟨set,covers⟩ := remembers.covered sequence member
    exact Or.inr (Bool.and_eq_true_iff.mpr ⟨decide_eq_true set,decide_eq_true covers⟩)
  · have tooOld : ∃ other ∈ accepted,¬other.toNat < sequence.toNat + REPLAY_PROTECTION_BUFFER_SIZE := by
      by_contra recent
      push Not at recent
      exact acceptable ⟨member,recent⟩
    obtain ⟨other,isOther,notRecent⟩ := tooOld
    have newest := UInt64.le_iff_toNat_le.mp (remembers.newest other isOther)
    exact Or.inl (decide_eq_true ((not_lt.mp notRecent).trans newest))

/-- What is accepted is remembered. -/
theorem Remembers.accept (remembers : self.Remembers accepted)
    (fits : sequence.toNat + REPLAY_PROTECTION_BUFFER_SIZE < 2 ^ 64)
    (acceptable : Acceptable accepted sequence) :
    (self.advance_sequence sequence).Remembers (accepted ++ [sequence]) := by
  have checked := remembers.check (ε := Unit) fits
  rw [decide_eq_true acceptable,is_already_received_eq fits] at checked
  have older := (Bool.or_eq_false_iff.mp (Except.ok.inj checked)).2
  refine ⟨remembers.knows.advance sequence,?_,fun other member => ?_,fun other member => ?_⟩
  · exact Snoc.nodup_snoc remembers.distinct acceptable.1
  · rw [UInt64.le_iff_toNat_le]
    have most_recent : (self.advance_sequence sequence).most_recent_sequence.toNat =
        max sequence.toNat self.most_recent_sequence.toNat := by
      unfold advance_sequence
      dsimp only
      split
      next newer => exact (max_eq_left (UInt64.lt_iff_toNat_lt.mp newer).le).symm
      next older => exact (max_eq_right (not_lt.mp fun newer => older (UInt64.lt_iff_toNat_lt.mpr newer))).symm
    rw [most_recent]
    rcases List.mem_append.mp member with old | new
    · exact le_max_of_le_right (UInt64.le_iff_toNat_le.mp (remembers.newest other old))
    · exact le_max_of_le_left (List.mem_singleton.mp new ▸ le_rfl)
  · rw [advance_sequence_slot]
    split
    next same =>
      have set : sequence ≠ UNRECEIVED := by
        rintro rfl
        exact absurd fits (by decide)
      refine ⟨set,?_⟩
      rcases List.mem_append.mp member with old | new
      · obtain ⟨isSet,covers⟩ := remembers.covered other old
        have slots : self.received_packet[index other] = self.received_packet[index sequence] := by simp only [same]
        rw [slots] at isSet covers
        rw [decide_eq_true isSet,Bool.true_and] at older
        exact UInt64.le_trans covers (UInt64.le_of_lt (UInt64.not_le.mp (of_decide_eq_false older)))
      · exact UInt64.le_of_eq (List.mem_singleton.mp new)
    next differs =>
      rcases List.mem_append.mp member with old | new
      · exact remembers.covered other old
      · exact absurd (congrArg index (List.mem_singleton.mp new)).symm differs

theorem remembers_new : new.Remembers [] :=
  ⟨knows_new,List.nodup_nil,fun _ member => (nomatch member),fun _ member => (nomatch member)⟩

/-- One operation accepts what is acceptable and authentic. -/
theorem Remembers.operation (remembers : self.Remembers accepted)
    (fits : sequence.toNat + REPLAY_PROTECTION_BUFFER_SIZE < 2 ^ 64)
    (authentic : Bool) : ∃ window : ReplayProtection,
    (self.check_then_advance authentic sequence : Fallible ε _) =
      .ok (decide (Acceptable accepted sequence) && authentic,window) ∧
      window.Remembers (accepted ++ if decide (Acceptable accepted sequence) && authentic then [sequence] else []) := by
  have checked := remembers.check (ε := ε) fits
  unfold check_then_advance
  rw [checked]
  by_cases acceptable : Acceptable accepted sequence
  · rw [decide_eq_true acceptable]
    cases authentic with
    | true => exact ⟨self.advance_sequence sequence,rfl,remembers.accept fits acceptable⟩
    | false => exact ⟨self,rfl,by rwa [if_neg (by decide),List.append_nil]⟩
  · rw [decide_eq_false acceptable]
    exact ⟨self,rfl,by rwa [if_neg (by simp),List.append_nil]⟩

theorem Remembers.run {self : ReplayProtection} {before : List UInt64} (remembers : self.Remembers before)
    {operations : List (UInt64 × Bool)}
    (fits : ∀ operation ∈ operations,operation.1.toNat + REPLAY_PROTECTION_BUFFER_SIZE < 2 ^ 64) :
    ∃ accepted window,(self.run operations : Fallible ε _) = .ok (accepted,window) ∧
      window.Remembers (before ++ accepted) := by
  induction operations generalizing self before with
  | nil => exact ⟨[],self,rfl,by rwa [List.append_nil]⟩
  | cons operation operations ih =>
    obtain ⟨sequence,authentic⟩ := operation
    obtain ⟨next,executed,remembers⟩ := remembers.operation (ε := ε) (fits _ List.mem_cons_self) authentic
    obtain ⟨later,window,rest,remembers⟩ :=
      ih remembers fun operation member => fits operation (List.mem_cons_of_mem _ member)
    refine ⟨if decide (Acceptable before sequence) && authentic then sequence :: later else later,window,?_,?_⟩
    · rw [ReplayProtection.run,executed]
      change next.run operations >>= _ = _
      rw [rest]
      rfl
    · rw [List.append_assoc] at remembers
      split at remembers
      next accepts => rwa [if_pos accepts]
      next rejects => rwa [if_neg rejects]

/-- The operations of a run accept each sequence number at most once, and the next one accepts every number that was not
accepted and is more recent than the greatest accepted one less `REPLAY_PROTECTION_BUFFER_SIZE`, and no other. -/
theorem replay_window (operations : List (UInt64 × Bool))
    (inRange : ∀ operation ∈ operations,operation.1.toNat ≤ 2 ^ 64 - 257) :
    ∃ accepted window,(new.run operations : Fallible ε _) = .ok (accepted,window) ∧ accepted.Nodup ∧
      ∀ sequence : UInt64,sequence.toNat ≤ 2 ^ 64 - 257 → ∃ next : ReplayProtection,
        (window.check_then_advance true sequence : Fallible ε _) =
          .ok (decide (Acceptable accepted sequence),next) := by
  obtain ⟨accepted,window,executed,remembers⟩ := remembers_new.run (ε := ε)
    fun operation member => (Nat.add_le_add_right (inRange operation member) _).trans_lt (by decide)
  rw [List.nil_append] at remembers
  refine ⟨accepted,window,executed,remembers.distinct,fun sequence inRange => ?_⟩
  have fits : sequence.toNat + REPLAY_PROTECTION_BUFFER_SIZE < 2 ^ 64 :=
    (Nat.add_le_add_right inRange _).trans_lt (by decide)
  obtain ⟨next,executed,-⟩ := remembers.operation (ε := ε) fits true
  rw [Bool.and_true] at executed
  exact ⟨next,executed⟩

/-- A duplicate, a number a whole ring ahead, and what is then too old. -/
theorem replay_window_ring : ∃ accepted window,
    (new.run [(5,true),(5,true),(7,false),(300,true),(7,true),(44,true)] : Fallible Unit _) = .ok (accepted,window) ∧
      accepted.Nodup ∧
      ∀ sequence : UInt64,sequence.toNat ≤ 2 ^ 64 - 257 → ∃ next : ReplayProtection,
        (window.check_then_advance true sequence : Fallible Unit _) =
          .ok (decide (Acceptable accepted sequence),next) :=
  replay_window _ (by simp)

end ReplayProtection

end Lightyear.Netcode
