import Lightyear.FragmentPanics
import Lightyear.Reassembly

/-!
Fragments that are rejected. `receive_fragment` makes the constructor of a new message, sets its compression and the
time
before it has checked the size of the fragment, and it forgets a complete message before it is decompressed.
-/
namespace Lightyear.FragmentPanics
open Maps
open Lightyear.Ids Lightyear.Message Lightyear.Compression Lightyear.Fragments

/-- The same reassembly state: the order of a hash map cannot be observed. -/
structure Same (a b : FragmentReceiver) : Prop where
  size : a.fragment_size = b.fragment_size
  lookup : ∀ id,a.fragment_messages.lookup id = b.fragment_messages.lookup id

/-- What a receiver returns for each fragment of some events, until the program is aborted. -/
def answers (lz4 : Lz4) :
    FragmentReceiver → List Event → List (Except Abrupt (Except ChannelReceiveError (Option (Tick × Bytes))))
  | _,[] => []
  | self,.Receive grants fragment remote_sent_tick current_time compression :: events =>
    match FragmentReceiver.receive_fragment lz4 grants self fragment remote_sent_tick current_time compression with
    | .error abrupt => [.error abrupt]
    | .ok (after,answer) => .ok answer :: answers lz4 after events
  | self,.Cleanup cleanup_time :: events => answers lz4 (self.cleanup cleanup_time) events

/-- A fragment left no trace: neither in the state, nor in what is returned for any later events. -/
def Intact (lz4 : Lz4) (self after : FragmentReceiver) : Prop :=
  Same after self ∧ ∀ later,answers lz4 after later = answers lz4 self later

section
variable {lz4 : Lz4} {grants : Nat → Bool} {a b : FragmentReceiver} {fragment : FragmentData} {tick : Tick}
  {time : Option Duration} {config : CompressionConfig}

theorem Same.insert (same : Same a b) (id : MessageId) (c : FragmentConstructor) :
    Same { a with fragment_messages := a.fragment_messages.insert id c }
      { b with fragment_messages := b.fragment_messages.insert id c } :=
  ⟨same.size,fun other => by simp only [lookup_insert_ite,same.lookup]⟩

theorem Same.erase (same : Same a b) (id : MessageId) :
    Same { a with fragment_messages := a.fragment_messages.erase id }
      { b with fragment_messages := b.fragment_messages.erase id } :=
  ⟨same.size,fun other => by simp only [lookup_erase_ite,same.lookup]⟩

theorem Same.cleanup (same : Same a b) (cleanup_time : Duration) :
    Same (a.cleanup cleanup_time) (b.cleanup cleanup_time) :=
  ⟨same.size,fun other => by simp only [Fragments.FragmentReceiver.cleanup,lookup_retain,same.lookup]⟩

theorem Same.entry (same : Same a b) (id : MessageId) (num_fragments : Nat) :
    FragmentReceiver.entry grants a id tick num_fragments = FragmentReceiver.entry grants b id tick num_fragments := by
  unfold FragmentReceiver.entry
  rw [same.lookup,same.size]

/-- Two results that cannot be told apart. -/
def Alike {α : Type} : Except Abrupt (FragmentReceiver × α) → Except Abrupt (FragmentReceiver × α) → Prop
  | .error abrupt,.error other => abrupt = other
  | .ok (after,answer),.ok (after',answer') => Same after after' ∧ answer = answer'
  | _,_ => False

/-- The same state returns the same, and is the same afterwards. -/
theorem Same.receive_fragment (same : Same a b) :
    Alike (FragmentReceiver.receive_fragment lz4 grants a fragment tick time config)
      (FragmentReceiver.receive_fragment lz4 grants b fragment tick time config) := by
  unfold FragmentReceiver.receive_fragment
  simp only [same.entry]
  by_cases empty : fragment.num_fragments = 0
  · rw [if_pos empty,if_pos empty]
    exact ⟨same,rfl⟩
  rw [if_neg empty,if_neg empty]
  by_cases outside : fragment.fragment_id ≥ fragment.num_fragments
  · rw [if_pos outside,if_pos outside]
    exact ⟨same,rfl⟩
  rw [if_neg outside,if_neg outside]
  by_cases large : fragment.num_fragments > usize_max
  · rw [if_pos large,if_pos large]
    exact ⟨same,rfl⟩
  rw [if_neg large,if_neg large]
  cases FragmentReceiver.entry grants b fragment.message_id tick fragment.num_fragments with
  | error abrupt => exact rfl
  | ok made =>
    cases made with
    | error error => exact ⟨same,rfl⟩
    | ok c =>
      simp only [ok_bind]
      cases Fragments.FragmentReceiver.prepare c fragment with
      | mk c₁ prepared =>
        cases prepared with
        | error error => exact ⟨same.insert _ _,rfl⟩
        | ok _ =>
          dsimp only
          cases FragmentConstructor.receive_fragment c₁ fragment.fragment_id fragment.bytes time with
          | error abrupt => exact rfl
          | ok received =>
            obtain ⟨c₂,result⟩ := received
            cases result with
            | error error => exact ⟨same.insert _ _,rfl⟩
            | ok completed =>
              cases completed with
              | none => exact ⟨same.insert _ _,rfl⟩
              | some payload =>
                simp only [ok_bind]
                cases c₂.compression with
                | none => exact ⟨same.insert _ _,rfl⟩
                | some compression => exact ⟨same.erase _,rfl⟩

/-- And so for all later events. -/
theorem Same.answers (same : Same a b) (later : List Event) : answers lz4 a later = answers lz4 b later := by
  induction later generalizing a b with
  | nil => rfl
  | cons event later ih =>
    cases event with
    | Receive grants fragment tick time config =>
      have alike : Alike (FragmentReceiver.receive_fragment lz4 grants a fragment tick time config)
          (FragmentReceiver.receive_fragment lz4 grants b fragment tick time config) := same.receive_fragment
      unfold FragmentPanics.answers
      unfold Alike at alike
      split at alike
      next first second => rw [first,second,alike]
      next first second =>
        obtain ⟨same,rfl⟩ := alike
        rw [first,second]
        dsimp only
        rw [ih same]
      next => exact alike.elim
    | Cleanup cleanup_time => exact ih (same.cleanup cleanup_time)

theorem intact_iff : Intact lz4 a b ↔ Same b a :=
  ⟨fun intact => intact.1,fun same => ⟨same,fun later => same.answers later⟩⟩

end

/-! ### What a rejected fragment does to its constructor -/

/-- The compression of the fragment is missing, or is not that of the fragments before it. -/
def Contradicts (c : FragmentConstructor) (fragment : FragmentData) : Prop :=
  match fragment.compression with
  | some given => c.compression ≠ none ∧ c.compression ≠ some given
  | none => fragment.fragment_id = 0

section
variable {lz4 : Lz4} {grants : Nat → Bool} {self after : FragmentReceiver} {fragment : FragmentData} {tick : Tick}
  {time : Option Duration} {config : CompressionConfig} {c c' : FragmentConstructor} {error : ChannelReceiveError}

theorem prepare_error (prepared : FragmentReceiver.prepare c fragment = (c',.error error)) :
    c' = c ∧ (c.num_fragments ≠ fragment.num_fragments ∨ Contradicts c fragment) := by
  unfold FragmentReceiver.prepare at prepared
  unfold Contradicts
  split at prepared
  next differs =>
    cases prepared
    exact ⟨rfl,.inl differs⟩
  next =>
  cases isGiven : fragment.compression with
  | some given =>
    rw [isGiven] at prepared
    dsimp only at prepared ⊢
    unfold FragmentConstructor.set_compression at prepared
    split at prepared
    next expected known =>
      split at prepared
      next differs =>
        cases prepared
        exact ⟨rfl,.inr ⟨known ▸ Option.some_ne_none _,fun same => differs (Option.some.inj (known.symm.trans same))⟩⟩
      next => cases prepared
    next => cases prepared
  | none =>
    rw [isGiven] at prepared
    dsimp only at prepared ⊢
    split at prepared
    next first =>
      cases prepared
      exact ⟨rfl,.inr first⟩
    next => cases prepared

theorem prepare_ok (prepared : FragmentReceiver.prepare c fragment = (c',.ok ())) :
    c' = { c with compression := fragment.compression.or c.compression } ∧ c.num_fragments = fragment.num_fragments ∧
      ¬Contradicts c fragment := by
  unfold FragmentReceiver.prepare at prepared
  unfold Contradicts
  split at prepared
  next => cases prepared
  next counts =>
  rw [not_not] at counts
  split at prepared
  next given isGiven =>
    rw [isGiven]
    unfold FragmentConstructor.set_compression at prepared
    split at prepared
    next expected known =>
      split at prepared
      next => cases prepared
      next same =>
        rw [not_not] at same
        cases prepared
        refine ⟨?_,counts,fun contradicts => contradicts.2 (known.trans (congrArg some same))⟩
        rw [Option.some_or,← same,← known]
    next unknown =>
      cases prepared
      exact ⟨rfl,counts,fun contradicts => contradicts.1 unknown⟩
  next isGiven =>
    rw [isGiven]
    split at prepared
    next => cases prepared
    next later =>
      cases prepared
      exact ⟨rfl,counts,later⟩

theorem outcome_error {fragment_index : Nat} {bytes : Bytes}
    (received : outcome c fragment_index bytes time = (c',.error error)) :
    c' = { c with last_received := time } ∧ WrongSize c fragment_index bytes := by
  unfold outcome at received
  dsimp only at received
  split at received
  next wrong =>
    cases received
    exact ⟨rfl,wrong⟩
  next =>
  split at received
  next => cases received
  next =>
  split at received <;> cases received

theorem outcome_complete {fragment_index : Nat} {bytes : Bytes} {payload : Tick × Bytes}
    (received : outcome c fragment_index bytes time = (c',.ok (some payload))) :
    c.num_received_fragments + 1 = c.num_fragments ∧ ¬WrongSize c fragment_index bytes := by
  unfold outcome at received
  dsimp only at received
  split at received
  next => cases received
  next right =>
  split at received
  next => cases received
  next =>
  split at received
  next complete => exact ⟨complete,right⟩
  next => cases received

/-- The fragment is refused before anything is written. Of a new message that is one whose size overflows, or which
consists of this fragment alone; of a known one it is a fragment that does not fit to those before it, or has the wrong
size and came at the same time. -/
def RefusedEarly (self : FragmentReceiver) (fragment : FragmentData) (time : Option Duration) : Prop :=
  fragment.num_fragments ≤ fragment.fragment_id ∨ usize_max < fragment.num_fragments ∨
    match self.fragment_messages.lookup fragment.message_id with
    | none => usize_max < fragment.num_fragments * self.fragment_size ∨
        fragment.num_fragments = 1 ∧ fragment.compression ≠ none ∧ fragment.bytes.length ≤ self.fragment_size
    | some c => c.num_fragments ≠ fragment.num_fragments ∨ Contradicts c fragment ∨
        (fragment.compression = none ∨ fragment.compression = c.compression) ∧
          WrongSize c fragment.fragment_id fragment.bytes ∧ c.last_received = time

/-- A rejected fragment, by what it leaves of its message. -/
inductive Rejection (self : FragmentReceiver) (fragment : FragmentData) (tick : Tick) (time : Option Duration) :
    Option FragmentConstructor → Prop where
  | header (bad : fragment.num_fragments ≤ fragment.fragment_id ∨ usize_max < fragment.num_fragments) :
    Rejection self fragment tick time (self.fragment_messages.lookup fragment.message_id)
  | size (fits : fragment.fragment_id < fragment.num_fragments ∧ fragment.num_fragments ≤ usize_max)
    (absent : self.fragment_messages.lookup fragment.message_id = none)
    (large : usize_max < fragment.num_fragments * self.fragment_size) : Rejection self fragment tick time none
  | refused {c : FragmentConstructor}
    (fits : fragment.fragment_id < fragment.num_fragments ∧ fragment.num_fragments ≤ usize_max)
    (isEntry : self.entry fragment.message_id tick fragment.num_fragments = .ok c)
    (bad : c.num_fragments ≠ fragment.num_fragments ∨ Contradicts c fragment) :
      Rejection self fragment tick time (some c)
  | wrong {c : FragmentConstructor}
    (fits : fragment.fragment_id < fragment.num_fragments ∧ fragment.num_fragments ≤ usize_max)
    (isEntry : self.entry fragment.message_id tick fragment.num_fragments = .ok c)
    (counts : c.num_fragments = fragment.num_fragments) (agrees : ¬Contradicts c fragment)
    (wrong : WrongSize c fragment.fragment_id fragment.bytes) :
    Rejection self fragment tick time
      (some { c with compression := fragment.compression.or c.compression, last_received := time })
  | undecodable {c : FragmentConstructor}
    (fits : fragment.fragment_id < fragment.num_fragments ∧ fragment.num_fragments ≤ usize_max)
    (isEntry : self.entry fragment.message_id tick fragment.num_fragments = .ok c)
    (counts : c.num_fragments = fragment.num_fragments) (agrees : ¬Contradicts c fragment)
    (complete : c.num_received_fragments + 1 = c.num_fragments)
    (right : ¬WrongSize c fragment.fragment_id fragment.bytes) : Rejection self fragment tick time none

theorem Receives.rejection (receives : Receives self) (granted : ¬Denied grants self fragment)
    (failed : self.receive_fragment lz4 fragment tick time config = (after,.error error)) :
    Rejection self fragment tick time (after.fragment_messages.lookup fragment.message_id) := by
  unfold Fragments.FragmentReceiver.receive_fragment at failed
  dsimp only at failed
  split at failed
  next empty =>
    cases failed
    exact .header (.inl (empty ▸ Nat.zero_le _))
  next =>
  split at failed
  next outside =>
    cases failed
    exact .header (.inl outside)
  next inside =>
  split at failed
  next large =>
    cases failed
    exact .header (.inr large)
  next few =>
  have fits := And.intro (not_le.mp inside) (not_lt.mp few)
  split at failed
  next made =>
    cases failed
    unfold Fragments.FragmentReceiver.entry at made
    split at made
    next => cases made
    next absent =>
    rw [absent]
    refine .size fits absent (not_le.mp fun counted => ?_)
    rw [Fragments.FragmentConstructor.new,checked_mul_some counted] at made
    cases made
  next c isEntry =>
  have sound := receives.entry (not_le.mp inside) granted isEntry
  split at failed
  next c₁ error prepares =>
    cases failed
    obtain ⟨rfl,bad⟩ := prepare_error prepares
    rw [lookup_insert_ite,if_pos rfl]
    exact .refused fits isEntry bad
  next c₁ prepares =>
  obtain ⟨sound,ready⟩ := sound.prepare prepares
  obtain ⟨counted,flagged⟩ := ready rfl
  obtain ⟨isPrepared,counts,agrees⟩ := prepare_ok prepares
  have inside : fragment.fragment_id < c₁.num_fragments := counted ▸ not_le.mp inside
  have size : ∀ bytes,WrongSize c₁ fragment.fragment_id bytes ↔ WrongSize c fragment.fragment_id bytes :=
    fun bytes => by
    rw [isPrepared]
    rfl
  rw [(sound.receive_eq inside).1] at failed
  split at failed
  next c₂ error received =>
    cases failed
    obtain ⟨rfl,wrong⟩ := outcome_error received
    rw [lookup_insert_ite,if_pos rfl,isPrepared]
    exact .wrong fits isEntry counts agrees ((size _).mp wrong)
  next => cases failed
  next c₂ _ payload received =>
    obtain ⟨complete,right⟩ := outcome_complete received
    split at failed
    next missing =>
      rcases sound.outcome inside flagged received with ⟨_,compressed⟩ | ⟨incomplete,_⟩
      · exact absurd missing compressed
      · exact absurd rfl (incomplete _)
    next =>
      have gone := congrArg (·.1.fragment_messages.lookup fragment.message_id) failed
      simp only [lookup_erase_ite,↓reduceIte] at gone
      rw [← gone]
      rw [isPrepared] at complete
      exact .undecodable fits isEntry counts agrees complete ((size _).not.mp right)

/-- The constructor of a message: the known one, or a new one. -/
theorem entry_cases (isEntry : self.entry fragment.message_id tick fragment.num_fragments = .ok c) :
    self.fragment_messages.lookup fragment.message_id = some c ∨
      self.fragment_messages.lookup fragment.message_id = none ∧ fragment.num_fragments * self.fragment_size ≤
        usize_max ∧
        c.num_fragments = fragment.num_fragments ∧ c.fragment_size = self.fragment_size ∧ c.num_received_fragments = 0 ∧
        c.compression = none := by
  unfold Fragments.FragmentReceiver.entry at isEntry
  split at isEntry
  next constructor known =>
    cases isEntry
    exact .inl known
  next absent =>
    refine .inr ⟨absent,?_⟩
    unfold Fragments.FragmentConstructor.new checked_mul at isEntry
    split at isEntry
    next => cases isEntry
    next made =>
      split at made
      next counted =>
        cases isEntry
        exact ⟨counted,rfl,rfl,rfl,rfl⟩
      next => cases made

/-- A rejected fragment leaves its message as it was exactly if it was refused early. -/
theorem Rejection.unchanged_iff {left : Option FragmentConstructor}
    (rejection : Rejection self fragment tick time left) :
    left = self.fragment_messages.lookup fragment.message_id ↔ RefusedEarly self fragment time := by
  unfold RefusedEarly
  cases rejection with
  | header bad => exact iff_of_true rfl (bad.imp_right .inl)
  | size fits absent large =>
    rw [absent]
    exact iff_of_true rfl (.inr (.inr (.inl large)))
  | refused fits isEntry bad =>
    rw [or_iff_right (not_le.mpr fits.1),or_iff_right (not_lt.mpr fits.2)]
    rcases entry_cases isEntry with known | ⟨absent,counted,counts,-,-,unset⟩
    · rw [known]
      exact iff_of_true rfl (bad.imp_right .inl)
    · rw [absent]
      refine iff_of_false (fun same => nomatch same) (not_or.mpr ⟨not_lt.mpr counted,fun ⟨_,given,_⟩ => ?_⟩)
      have contradicts := bad.resolve_left (not_not.mpr counts)
      unfold Contradicts at contradicts
      split at contradicts
      next => exact contradicts.1 unset
      next missing => exact given missing
  | @wrong c fits isEntry counts agrees wrong =>
    rw [or_iff_right (not_le.mpr fits.1),or_iff_right (not_lt.mpr fits.2)]
    rcases entry_cases isEntry with known | ⟨absent,counted,-,size,-,-⟩
    · rw [known]
      dsimp only
      rw [or_iff_right (not_not.mpr counts),or_iff_right agrees,Option.some.injEq]
      have flag : fragment.compression.or c.compression = c.compression ↔
          fragment.compression = none ∨ fragment.compression = c.compression := by
        cases fragment.compression <;> simp
      rw [← flag]
      constructor
      · intro same
        exact ⟨congrArg FragmentConstructor.compression same,wrong,
          (congrArg FragmentConstructor.last_received same).symm⟩
      · rintro ⟨same,_,rfl⟩
        rw [same]
    · rw [absent]
      refine iff_of_false (fun same => nomatch same) (not_or.mpr ⟨not_lt.mpr counted,fun ⟨single,_,short⟩ => ?_⟩)
      have isLast : fragment.fragment_id = c.num_fragments - 1 := by
        have inside := fits.1
        rw [counts]
        rw [single] at inside ⊢
        exact Nat.lt_one_iff.mp inside
      rw [WrongSize,if_pos isLast,size] at wrong
      exact wrong.not_ge short
  | undecodable fits isEntry counts agrees complete right =>
    rw [or_iff_right (not_le.mpr fits.1),or_iff_right (not_lt.mpr fits.2)]
    rcases entry_cases isEntry with known | ⟨absent,counted,-,size,none_yet,-⟩
    · rw [known]
      refine iff_of_false (fun same => nomatch same) ?_
      rintro (differs | contradicts | ⟨_,wrong,_⟩)
      · exact differs counts
      · exact agrees contradicts
      · exact right wrong
    · rw [absent]
      refine iff_of_true rfl (.inr ?_)
      have single : fragment.num_fragments = 1 := by rw [← counts,← complete,none_yet]
      have first : fragment.fragment_id = 0 := Nat.lt_one_iff.mp (single ▸ fits.1)
      refine ⟨single,fun missing => agrees ?_,?_⟩
      · rw [Contradicts,missing]
        exact first
      · rw [WrongSize,if_pos (by rw [counts,single,first]),size] at right
        exact not_lt.mp right

end

/-! ### Runs -/

/-- A fragment that is rejected leaves no trace exactly if it is refused early. -/
theorem rejected_intact_iff (lz4 : Lz4) (size : Nat) (positive : 0 < size) (self : FragmentReceiver)
    (reached : Runs.Reaches (step lz4) (fun _ _ _ => True) (.new size positive) self) (grants : Nat → Bool)
    (fragment : FragmentData) (tick : Tick) (time : Option Duration) (config : CompressionConfig)
    (after : FragmentReceiver)
    (error : ChannelReceiveError)
    (failed : FragmentReceiver.receive_fragment lz4 grants self fragment tick time config = .ok (after,.error error)) :
    Intact lz4 self after ↔ RefusedEarly self fragment time := by
  have receives := receives_reached reached
  have granted := (receive_fragment_returns lz4 reached grants fragment tick time config).mp ⟨_,failed⟩
  rw [receives.receive_fragment_eq granted] at failed
  replace failed := Except.ok.inj failed
  have state : (self.receive_fragment lz4 fragment tick time config).1 = after := congrArg Prod.fst failed
  rw [intact_iff,← (receives.rejection granted failed).unchanged_iff]
  constructor
  · exact fun same => same.lookup _
  · intro unchanged
    refine ⟨?_,fun id => ?_⟩
    · rw [← state]
      exact Reassembly.receive_fragment_size ..
    · by_cases isMessage : id = fragment.message_id
      · rw [isMessage]
        exact unchanged
      · rw [← state]
        exact Reassembly.receive_fragment_other lz4 self fragment tick time config isMessage

section Refusal
variable {ε δ σ α : Type} {result : Except ε (σ × Except δ α)}

private def refusal : Except ε (σ × Except δ α) → Option δ
  | .ok (_,.error error) => some error
  | _ => none

private theorem error_of_refusal {error : δ} (refuses : refusal result = some error) :
    ∃ after, result = .ok (after,.error error) := by
  rcases result with _ | ⟨after,other | _⟩
  · cases refuses
  · exact ⟨after,by rw [Option.some.inj refuses]⟩
  · cases refuses

end Refusal

/-- A fragment of another count, for a message that waits for its second fragment. -/
theorem rejected_intact_count : ∃ self after error,
    Runs.Reaches (step .literals) (fun _ _ _ => True) (.new 2 (by decide)) self ∧
      FragmentReceiver.receive_fragment .literals (fun _ => true) self ⟨⟨7⟩,1,3,none,[1,2]⟩ 0 none .DISABLED =
        .ok (after,.error error) ∧
      error = .FragmentCountMismatch 2 3 ∧
        (Intact .literals self after ↔ RefusedEarly self ⟨⟨7⟩,1,3,none,[1,2]⟩ none) := by
  obtain ⟨self,reached,refuses⟩ := Runs.reaches_of_check (step .literals) (fun _ _ _ => True) (.new 2 (by decide))
    (fun self => decide (refusal
      (FragmentReceiver.receive_fragment .literals (fun _ => true) self ⟨⟨7⟩,1,3,none,[1,2]⟩ 0 none .DISABLED) =
      some (.FragmentCountMismatch 2 3)))
    [.Receive (fun _ => true) ⟨⟨7⟩,0,2,some .None,[1,2]⟩ 0 none .DISABLED] (by decide +kernel)
  obtain ⟨after,failed⟩ := error_of_refusal (of_decide_eq_true refuses)
  exact ⟨self,after,_,reached,failed,rfl,
    rejected_intact_iff .literals 2 (by decide) self reached _ _ 0 none .DISABLED after _ failed⟩

/-- A fragment of a wrong size that announces 1000 fragments: the message of two fragments that follows is refused. -/
theorem wrong_size_leaves_count : ∃ fragment after error,
    FragmentReceiver.receive_fragment .literals (fun _ => true) (.new 2 (by decide)) fragment 0 none .DISABLED =
      .ok (after,.error error) ∧
      ¬Intact .literals (.new 2 (by decide)) after := by
  refine ⟨⟨⟨7⟩,0,1000,some .None,[1]⟩,_,_,rfl,fun intact => ?_⟩
  have later := intact.2 [.Receive (fun _ => true) ⟨⟨7⟩,0,2,some .None,[1,2]⟩ 0 none .DISABLED]
  revert later
  decide

end Lightyear.FragmentPanics
