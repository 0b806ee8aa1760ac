import Lightyear.Allocation
import Lightyear.Calls
import Lightyear.Fragments
import Lightyear.Runs
import Lightyear.Serde

/-!
`channel/fragments/receive.rs` with the operations that panic or ask for memory. In the states of a receiver none of
them
fails, except the buffers of a new message: they are announced to be larger than a `Vec` can be, as `checked_mul` only
compares the size with `usize::MAX`, or larger than what the allocator grants.
-/
namespace Lightyear.FragmentPanics
open Calls (Panic)
open Allocation (Granted)
open Maps
open Lightyear.Ids Lightyear.Message Lightyear.Compression Lightyear.Fragments

/-- How the program is aborted: it panics, or the allocator fails. -/
inductive Abrupt where
  | Panic (panic : Panic)
  | AllocError
deriving DecidableEq, Repr

section
variable {α β : Type}

@[simp] theorem ok_bind (a : α) (next : α → Except Abrupt β) : ((.ok a : Except Abrupt α) >>= next) = next a := rfl

@[simp] theorem error_bind (abrupt : Abrupt) (next : α → Except Abrupt β) :
    ((.error abrupt : Except Abrupt α) >>= next) = .error abrupt := rfl

/-- `vec![value; n]`, of elements of one byte, with the capacity overflow. The allocator decides on what a
`Vec` can have. -/
def vec (grants : Nat → Bool) (value : α) (n : Nat) : Except Abrupt (List α) :=
  if n > isize_max then .error (.Panic .Overflow)
  else if n = 0 ∨ grants n = true then .ok (List.replicate n value)
  else .error .AllocError

theorem vec_granted {grants : Nat → Bool} {n : Nat} (granted : Granted grants n) (value : α) :
    vec grants value n = .ok (List.replicate n value) := by
  rw [vec,if_neg (Nat.not_lt.mpr granted.1),if_pos granted.2]

theorem vec_denied {grants : Nat → Bool} {n : Nat} (denied : ¬Granted grants n) (value : α) :
    ∃ abrupt, vec grants value n = .error abrupt := by
  unfold vec
  split
  next => exact ⟨_,rfl⟩
  next small =>
    rw [if_neg fun given => denied ⟨Nat.not_lt.mp small,given⟩]
    exact ⟨_,rfl⟩

/-- `+` on `usize` -/
def add (a b : Nat) : Except Abrupt Nat := if a + b ≤ usize_max then .ok (a + b) else .error (.Panic .Overflow)

/-- `-` on `usize` -/
def sub (a b : Nat) : Except Abrupt Nat := if b ≤ a then .ok (a - b) else .error (.Panic .Overflow)

/-- `xs[i]` -/
def index (xs : List α) (i : Nat) : Except Abrupt α :=
  match xs[i]? with
  | some x => .ok x
  | none => .error (.Panic .Index)

/-- `Vec::resize`, of elements of one byte. It asks for no memory here: the buffer was made for all fragments. -/
def resize (buffer : List α) (len : Nat) (fill : α) : Except Abrupt (List α) :=
  if len ≤ isize_max then .ok (Chunks.resize buffer len fill) else .error (.Panic .Overflow)

/-- `buffer[start..stop].copy_from_slice(part)` -/
def copy_from_slice (buffer : List α) (start stop : Nat) (part : List α) : Except Abrupt (List α) :=
  if start ≤ stop ∧ stop ≤ buffer.length ∧ part.length = stop - start then .ok (Chunks.splice buffer start part)
  else .error (.Panic .Index)

end

namespace FragmentConstructor

def new (grants : Nat → Bool) (tick : Tick) (num_fragments fragment_size : Nat) :
    Except Abrupt (Except ChannelReceiveError FragmentConstructor) :=
  match checked_mul num_fragments fragment_size with
  | none => pure (.error .FragmentedMessageSizeOverflow)
  | some max_message_size => do
    let received ← vec grants false num_fragments
    let bytes ← vec grants 0 max_message_size
    pure (.ok { num_fragments,fragment_size,num_received_fragments := 0,received,bytes,tick,compression := none,
                last_received := none })

/-- The bytes of the message, resized for its last fragment. -/
def room (self : FragmentConstructor) (fragment_index last : Nat) (bytes : Bytes) : Except Abrupt (Option Bytes) :=
  if fragment_index = last then
    match (checked_mul last self.fragment_size).bind (checked_add · bytes.length) with
    | none => pure none
    | some len => do
      let buffer ← resize self.bytes len 0
      pure (some buffer)
  else pure (some self.bytes)

/-- The branch of `receive_fragment` for a fragment that is not received yet. -/
def store (self : FragmentConstructor) (fragment_index : Nat) (bytes : Bytes) :
    Except Abrupt (FragmentConstructor × Except ChannelReceiveError Unit) := do
  let num_received_fragments ← add self.num_received_fragments 1
  let self := { self with received := self.received.set fragment_index true,num_received_fragments }
  let last ← sub self.num_fragments 1
  match ← room self fragment_index last bytes with
  | none => pure (self,.error .FragmentedMessageSizeOverflow)
  | some buffer =>
    let self := { self with bytes := buffer }
    match checked_mul fragment_index self.fragment_size with
    | none => pure (self,.error .FragmentedMessageSizeOverflow)
    | some start =>
      match checked_add start bytes.length with
      | none => pure (self,.error .FragmentedMessageSizeOverflow)
      | some stop => do
        let buffer ← copy_from_slice self.bytes start stop bytes
        pure ({ self with bytes := buffer },.ok ())

def receive_fragment (self : FragmentConstructor) (fragment_index : Nat) (bytes : Bytes)
    (received_time : Option Duration) :
    Except Abrupt (FragmentConstructor × Except ChannelReceiveError (Option (Tick × Bytes))) := do
  let self := { self with last_received := received_time }
  let last ← sub self.num_fragments 1
  if fragment_index ≠ last ∧ bytes.length ≠ self.fragment_size then
    pure (self,.error (.InvalidNonFinalFragmentSize bytes.length self.fragment_size))
  else if fragment_index = last ∧ bytes.length > self.fragment_size then
    pure (self,.error (.InvalidFinalFragmentSize bytes.length self.fragment_size))
  else do
    let received ← index self.received fragment_index
    match ← if received then pure (self,.ok ()) else store self fragment_index bytes with
    | (self,.error error) => pure (self,.error error)
    | (self,.ok ()) =>
      if self.num_received_fragments = self.num_fragments then
        pure ({ self with bytes := [] },.ok (some (self.tick,self.bytes)))
      else pure (self,.ok none)

end FragmentConstructor

namespace FragmentReceiver

def entry (grants : Nat → Bool) (self : FragmentReceiver) (message_id : MessageId) (remote_sent_tick : Tick)
    (num_fragments : Nat) : Except Abrupt (Except ChannelReceiveError FragmentConstructor) :=
  match self.fragment_messages.lookup message_id with
  | some constructor => pure (.ok constructor)
  | none => FragmentConstructor.new grants remote_sent_tick num_fragments self.fragment_size

def receive_fragment (lz4 : Lz4) (grants : Nat → Bool) (self : FragmentReceiver) (fragment : FragmentData)
    (remote_sent_tick : Tick) (current_time : Option Duration) (compression : CompressionConfig) :
    Except Abrupt (FragmentReceiver × Except ChannelReceiveError (Option (Tick × Bytes))) :=
  let num_fragments := fragment.num_fragments
  let fragment_index := fragment.fragment_id
  if num_fragments = 0 then pure (self,.error (.InvalidFragmentCount num_fragments))
  else if fragment_index ≥ num_fragments then pure (self,.error (.InvalidFragmentIndex fragment_index num_fragments))
  else if num_fragments > usize_max then pure (self,.error .FragmentedMessageSizeOverflow)
  else do
    let message_id := fragment.message_id
    let keep (c : FragmentConstructor) : FragmentReceiver :=
      { self with fragment_messages := self.fragment_messages.insert message_id c }
    match ← entry grants self message_id remote_sent_tick num_fragments with
    | .error error => pure (self,.error error)
    | .ok fragment_message =>
      match Fragments.FragmentReceiver.prepare fragment_message fragment with
      | (fragment_message,.error error) => pure (keep fragment_message,.error error)
      | (fragment_message,.ok ()) =>
        match ← FragmentConstructor.receive_fragment fragment_message fragment_index fragment.bytes current_time with
        | (fragment_message,.error error) => pure (keep fragment_message,.error error)
        | (fragment_message,.ok none) => pure (keep fragment_message,.ok none)
        | (fragment_message,.ok (some (tick,payload))) =>
          match fragment_message.compression with
          | none => pure (keep fragment_message,.error .MissingFragmentCompression)
          | some fragment_compression =>
            pure ({ self with fragment_messages := self.fragment_messages.erase message_id },
              (decompress_fragment_payload lz4 fragment_compression payload compression).map
                fun payload => some (tick,payload))

end FragmentReceiver

/-! ### Constructors that a receiver can hold -/

/-- A constructor of a receiver, between two fragments. -/
structure Sound (size : Nat) (c : FragmentConstructor) : Prop where
  sized : c.fragment_size = size
  positive : 0 < c.num_fragments
  few : c.num_fragments ≤ isize_max
  fits : c.num_fragments * size ≤ isize_max
  received : c.received.length = c.num_fragments
  number : c.num_received_fragments = c.received.count true
  partly : c.num_received_fragments < c.num_fragments
  first : c.received[0]? = some true → c.compression ≠ none
  room : (c.num_fragments - 1) * size ≤ c.bytes.length

/-- The fragment has not the size that its place in the message asks for. -/
def WrongSize (c : FragmentConstructor) (fragment_index : Nat) (bytes : Bytes) : Prop :=
  if fragment_index = c.num_fragments - 1 then c.fragment_size < bytes.length else bytes.length ≠ c.fragment_size

instance (c : FragmentConstructor) (fragment_index : Nat) (bytes : Bytes) :
    Decidable (WrongSize c fragment_index bytes) :=
  inferInstanceAs (Decidable (if fragment_index = c.num_fragments - 1 then c.fragment_size < bytes.length
    else bytes.length ≠ c.fragment_size))

/-- The error of such a fragment. -/
def wrong_size (c : FragmentConstructor) (fragment_index : Nat) (bytes : Bytes) : ChannelReceiveError :=
  if fragment_index = c.num_fragments - 1 then .InvalidFinalFragmentSize bytes.length c.fragment_size
  else .InvalidNonFinalFragmentSize bytes.length c.fragment_size

/-- The constructor with one more fragment. -/
def stored (c : FragmentConstructor) (fragment_index : Nat) (bytes : Bytes) : FragmentConstructor :=
  { c with
    received := c.received.set fragment_index true
    num_received_fragments := c.num_received_fragments + 1
    bytes := Chunks.splice
      (if fragment_index = c.num_fragments - 1 then Chunks.resize c.bytes
        (fragment_index * c.fragment_size + bytes.length) 0
        else c.bytes) (fragment_index * c.fragment_size) bytes }

section
variable {size fragment_index : Nat} {c : FragmentConstructor} {bytes : Bytes} {time : Option Duration}

/-- Where a fragment of the right size ends. -/
theorem Sound.stop_le (sound : Sound size c) (inside : fragment_index < c.num_fragments)
    (right : ¬WrongSize c fragment_index bytes) : fragment_index * size + bytes.length ≤ c.num_fragments * size := by
  have short : bytes.length ≤ size := by
    unfold WrongSize at right
    rw [sound.sized] at right
    split at right <;> omega
  have next : fragment_index * size + size ≤ c.num_fragments * size := by
    rw [← Nat.succ_mul]
    exact Nat.mul_le_mul_right _ inside
  omega

/-- What is written to has room for a fragment of the right size. -/
theorem Sound.buffer (sound : Sound size c) (inside : fragment_index < c.num_fragments)
    (right : ¬WrongSize c fragment_index bytes) : fragment_index * size + bytes.length ≤
      (if fragment_index = c.num_fragments - 1 then Chunks.resize c.bytes
        (fragment_index * c.fragment_size + bytes.length) 0
        else c.bytes).length := by
  unfold WrongSize at right
  split
  next last => rw [Chunks.length_resize,sound.sized]
  next middle =>
    rw [if_neg middle,not_not,sound.sized] at right
    have next : fragment_index * size + size ≤ (c.num_fragments - 1) * size := by
      rw [← Nat.succ_mul]
      exact Nat.mul_le_mul_right _ (by omega)
    have := sound.room
    omega

/-- No operation of `store` panics or overflows. -/
theorem Sound.store_eq (sound : Sound size c) (inside : fragment_index < c.num_fragments)
    (right : ¬WrongSize c fragment_index bytes) :
    c.store fragment_index bytes = (stored c fragment_index bytes,.ok ()) ∧
      FragmentConstructor.store c fragment_index bytes = .ok (stored c fragment_index bytes,.ok ()) := by
  have stop := sound.stop_le inside right
  have buffer := sound.buffer inside right
  have fits := sound.fits
  have few := sound.few
  have partly := sound.partly
  have start : checked_mul fragment_index size = some (fragment_index * size) :=
    checked_mul_some (by simp only [isize_max,usize_max] at *; omega)
  have stops : checked_add (fragment_index * size) bytes.length = some (fragment_index * size + bytes.length) :=
    checked_add_some (by simp only [isize_max,usize_max] at *; omega)
  have counted : add c.num_received_fragments 1 = .ok (c.num_received_fragments + 1) :=
    if_pos (by simp only [isize_max,usize_max] at *; omega)
  have last : sub c.num_fragments 1 = .ok (c.num_fragments - 1) := if_pos sound.positive
  rw [sound.sized] at buffer
  unfold stored Fragments.FragmentConstructor.store FragmentConstructor.store FragmentConstructor.room
  simp only [counted,last,sound.sized,start,stops]
  by_cases isLast : fragment_index = c.num_fragments - 1
  · rw [if_pos isLast] at buffer
    have resized : resize c.bytes (fragment_index * size + bytes.length) 0 =
        .ok (Chunks.resize c.bytes (fragment_index * size + bytes.length) 0) :=
      if_pos (by omega)
    have copied : copy_from_slice (Chunks.resize c.bytes (fragment_index * size + bytes.length) 0)
      (fragment_index * size)
        (fragment_index * size + bytes.length) bytes = .ok _ := if_pos ⟨by omega,buffer,by omega⟩
    refine ⟨?_,?_⟩
    · simp only [← isLast,↓reduceIte,start,stops,Option.bind_some,Option.map_some]
    · simp only [← isLast,ok_bind,↓reduceIte,start,stops,Option.bind_some,resized,pure_bind,copied]
      rfl
  · rw [if_neg isLast] at buffer
    have copied : copy_from_slice c.bytes (fragment_index * size) (fragment_index * size + bytes.length) bytes =
        .ok _ :=
      if_pos ⟨by omega,buffer,by omega⟩
    refine ⟨?_,?_⟩
    · simp only [if_neg isLast]
    · simp only [ok_bind,if_neg isLast,pure_bind,copied]
      rfl

/-- What a fragment does to a constructor, and what it returns. -/
def outcome (c : FragmentConstructor) (fragment_index : Nat) (bytes : Bytes) (time : Option Duration) :
    FragmentConstructor × Except ChannelReceiveError (Option (Tick × Bytes)) :=
  let c := { c with last_received := time }
  if WrongSize c fragment_index bytes then (c,.error (wrong_size c fragment_index bytes))
  else if c.received[fragment_index]? = some true then (c,.ok none)
  else if c.num_received_fragments + 1 = c.num_fragments then
    ({ stored c fragment_index bytes with bytes := [] },.ok (some (c.tick,(stored c fragment_index bytes).bytes)))
  else (stored c fragment_index bytes,.ok none)

theorem Sound.refresh (sound : Sound size c) (time : Option Duration) : Sound size { c with last_received := time } :=
  ⟨sound.sized,sound.positive,sound.few,sound.fits,sound.received,sound.number,sound.partly,sound.first,sound.room⟩

theorem Sound.receive_eq (sound : Sound size c) (inside : fragment_index < c.num_fragments) :
    c.receive_fragment fragment_index bytes time = outcome c fragment_index bytes time ∧
      FragmentConstructor.receive_fragment c fragment_index bytes time = .ok (outcome c fragment_index bytes time) := by
  have last : sub c.num_fragments 1 = .ok (c.num_fragments - 1) := if_pos sound.positive
  have partly := sound.partly
  unfold outcome Fragments.FragmentConstructor.receive_fragment FragmentConstructor.receive_fragment
  simp only [last,ok_bind]
  by_cases wrong : WrongSize c fragment_index bytes
  · have refreshed : WrongSize { c with last_received := time } fragment_index bytes := wrong
    rw [if_pos refreshed]
    unfold WrongSize at wrong
    unfold wrong_size
    split at wrong
    next isLast => simp [isLast,wrong,pure,Except.pure]
    next middle => simp [middle,wrong,pure,Except.pure]
  have refreshed : ¬WrongSize { c with last_received := time } fragment_index bytes := wrong
  have sized : ¬(fragment_index ≠ c.num_fragments - 1 ∧ bytes.length ≠ c.fragment_size) ∧
      ¬(fragment_index = c.num_fragments - 1 ∧ bytes.length > c.fragment_size) := by
    unfold WrongSize at wrong
    split at wrong
    next isLast => exact ⟨fun refused => refused.1 isLast,fun refused => wrong refused.2⟩
    next middle => exact ⟨fun refused => wrong refused.2,fun refused => middle refused.1⟩
  rw [if_neg refreshed,if_neg sized.1,if_neg sized.2,if_neg sized.1,if_neg sized.2]
  obtain ⟨stores,checked⟩ := (sound.refresh time).store_eq inside refreshed
  have bound : fragment_index < c.received.length := sound.received.symm ▸ inside
  have there : c.received[fragment_index]? = some c.received[fragment_index] := List.getElem?_eq_getElem bound
  have read : index c.received fragment_index = .ok c.received[fragment_index] := by rw [index,there]
  rw [there,read]
  cases c.received[fragment_index] with
  | true =>
    have incomplete : ¬c.num_received_fragments = c.num_fragments := by omega
    simp [incomplete,pure,Except.pure]
  | false =>
    simp only [Option.getD_some,Bool.false_eq_true,↓reduceIte,stores,checked,ok_bind,Option.some.injEq]
    refine ⟨rfl,?_⟩
    by_cases complete : c.num_received_fragments + 1 = c.num_fragments
    · rw [if_pos complete]
      exact if_pos complete
    · rw [if_neg complete]
      exact if_neg complete

/-- One more fragment. -/
theorem Sound.stored (sound : Sound size c) (inside : fragment_index < c.num_fragments)
    (right : ¬WrongSize c fragment_index bytes)
    (missing : c.received[fragment_index]? ≠ some true) (flagged : fragment_index = 0 → c.compression ≠ none) :
    (FragmentPanics.stored c fragment_index bytes).num_received_fragments =
        (FragmentPanics.stored c fragment_index bytes).received.count true ∧
      ((FragmentPanics.stored c fragment_index bytes).received[0]? = some true → c.compression ≠ none) ∧
      (c.num_fragments - 1) * size ≤ (FragmentPanics.stored c fragment_index bytes).bytes.length := by
  have bound : fragment_index < c.received.length := sound.received.symm ▸ inside
  have absent : c.received[fragment_index] = false := by
    rw [List.getElem?_eq_getElem bound] at missing
    simpa using missing
  refine ⟨?_,?_,?_⟩
  · simp [FragmentPanics.stored,sound.number,List.count_set bound,absent]
  · intro first
    simp only [FragmentPanics.stored,List.getElem?_set] at first
    by_cases zero : fragment_index = 0
    · exact flagged zero
    · rw [if_neg zero] at first
      exact sound.first first
  · have buffer := sound.buffer inside right
    have room := sound.room
    simp only [FragmentPanics.stored]
    rw [sound.sized] at buffer ⊢
    rw [Chunks.length_splice buffer]
    split
    next isLast =>
      rw [Chunks.length_resize,← isLast]
      exact Nat.le_add_right _ _
    next => exact room

/-- A fragment leaves a constructor as one that a receiver can hold, or completes its message. -/
theorem Sound.outcome (sound : Sound size c) (inside : fragment_index < c.num_fragments)
    (flagged : fragment_index = 0 → c.compression ≠ none) {c' : FragmentConstructor}
    {result : Except ChannelReceiveError (Option (Tick × Bytes))}
    (received : FragmentPanics.outcome c fragment_index bytes time = (c',result)) :
    (∃ payload,result = .ok (some payload)) ∧ c'.compression ≠ none ∨
      (∀ payload,result ≠ .ok (some payload)) ∧ Sound size c' := by
  have refreshed := sound.refresh time
  unfold FragmentPanics.outcome at received
  dsimp only at received
  split at received
  next =>
    cases received
    exact .inr ⟨fun _ same => (nomatch same),refreshed⟩
  next right =>
  split at received
  next =>
    cases received
    exact .inr ⟨fun _ same => (nomatch same),refreshed⟩
  next missing =>
  obtain ⟨number,first,room⟩ := refreshed.stored inside right missing flagged
  have length : (FragmentPanics.stored { c with last_received := time } fragment_index bytes).received.length =
      c.num_fragments :=
    List.length_set.trans sound.received
  split at received
  next complete =>
    cases received
    have all : (FragmentPanics.stored { c with last_received := time } fragment_index bytes).received.count true =
        (FragmentPanics.stored { c with last_received := time } fragment_index bytes).received.length :=
      number.symm.trans (complete.trans length.symm)
    refine .inl ⟨⟨_,rfl⟩,first ?_⟩
    rw [List.getElem?_eq_getElem (length.symm ▸ sound.positive)]
    exact congrArg some (List.count_eq_length.mp all _ (List.getElem_mem _)).symm
  next incomplete =>
    cases received
    have most := List.count_le_length (a := true)
      (l := (FragmentPanics.stored { c with last_received := time } fragment_index bytes).received)
    rw [← number,length] at most
    exact .inr ⟨fun _ same => (nomatch same),sound.sized,sound.positive,sound.few,sound.fits,length,number,
      lt_of_le_of_ne most incomplete,first,room⟩

/-- What is known of a constructor that is prepared for a fragment. -/
theorem Sound.prepare (sound : Sound size c) {fragment : FragmentData} {c' : FragmentConstructor}
    {result : Except ChannelReceiveError Unit} (prepared : FragmentReceiver.prepare c fragment = (c',result)) :
    Sound size c' ∧ (result = .ok () → c'.num_fragments = fragment.num_fragments ∧
      (fragment.fragment_id = 0 → c'.compression ≠ none)) := by
  unfold FragmentReceiver.prepare at prepared
  split at prepared
  next =>
    cases prepared
    exact ⟨sound,fun failed => (nomatch failed)⟩
  next counts =>
  rw [not_not] at counts
  split at prepared
  next flag given =>
    unfold FragmentConstructor.set_compression at prepared
    split at prepared
    next expected known =>
      split at prepared
      next =>
        cases prepared
        exact ⟨sound,fun failed => (nomatch failed)⟩
      next =>
        cases prepared
        exact ⟨sound,fun _ => ⟨counts,fun _ => known ▸ Option.some_ne_none _⟩⟩
    next =>
      cases prepared
      exact ⟨⟨sound.sized,sound.positive,sound.few,sound.fits,sound.received,sound.number,sound.partly,
        fun _ => Option.some_ne_none _,sound.room⟩,fun _ => ⟨counts,fun _ => Option.some_ne_none _⟩⟩
  next =>
    split at prepared
    next =>
      cases prepared
      exact ⟨sound,fun failed => (nomatch failed)⟩
    next later =>
      cases prepared
      exact ⟨sound,fun _ => ⟨counts,fun isFirst => absurd isFirst later⟩⟩

end

/-! ### Receivers -/

/-- The states of a receiver. -/
def Receives (self : FragmentReceiver) : Prop :=
  ∀ id c,self.fragment_messages.lookup id = some c → Sound self.fragment_size c

/-- The message is new, and announced to have more bytes than a `Vec` can have, but not more than a `usize`
can count. -/
def CapacityOverflows (self : FragmentReceiver) (fragment : FragmentData) : Prop :=
  fragment.fragment_id < fragment.num_fragments ∧ self.fragment_messages.lookup fragment.message_id = none ∧
    isize_max < fragment.num_fragments * self.fragment_size ∧ fragment.num_fragments * self.fragment_size ≤ usize_max

/-- One of the two buffers of a new message cannot be had. -/
def Denied (grants : Nat → Bool) (self : FragmentReceiver) (fragment : FragmentData) : Prop :=
  fragment.fragment_id < fragment.num_fragments ∧ self.fragment_messages.lookup fragment.message_id = none ∧
    fragment.num_fragments * self.fragment_size ≤ usize_max ∧
    ¬(Granted grants fragment.num_fragments ∧ Granted grants (fragment.num_fragments * self.fragment_size))

section
variable {lz4 : Lz4} {grants : Nat → Bool} {self : FragmentReceiver} {fragment : FragmentData} {tick : Tick}
  {time : Option Duration} {config : CompressionConfig}

/-- An allocator that always has room only fails where the capacity overflows. -/
theorem denied_iff_overflows (room : ∀ bytes, grants bytes = true) :
    Denied grants self fragment ↔ CapacityOverflows self fragment := by
  have many : fragment.num_fragments ≤ fragment.num_fragments * self.fragment_size :=
    Nat.le_mul_of_pos_right _ self.positive
  have granted (bytes : Nat) :
      Granted grants bytes ↔ bytes ≤ isize_max := ⟨And.left,fun small => ⟨small,.inr (room bytes)⟩⟩
  unfold Denied CapacityOverflows
  simp only [granted]
  refine and_congr_right fun _ => and_congr_right fun _ => ?_
  constructor
  · rintro ⟨counted,denied⟩
    exact ⟨not_le.mp fun small => denied ⟨many.trans small,small⟩,counted⟩
  · rintro ⟨large,counted⟩
    exact ⟨counted,fun small => large.not_ge small.2⟩

theorem new_granted (tick : Tick) {num_fragments size : Nat}
    (granted : num_fragments * size ≤ usize_max → Granted grants num_fragments ∧
      Granted grants (num_fragments * size)) :
    FragmentConstructor.new grants tick num_fragments size =
      .ok (Fragments.FragmentConstructor.new tick num_fragments size) := by
  unfold FragmentConstructor.new Fragments.FragmentConstructor.new
  by_cases counted : num_fragments * size ≤ usize_max
  · obtain ⟨flags,bytes⟩ := granted counted
    rw [checked_mul_some counted]
    simp only [vec_granted flags,vec_granted bytes,ok_bind]
    rfl
  · rw [checked_mul,if_neg counted]
    rfl

theorem new_denied (tick : Tick) {num_fragments size : Nat} (counted : num_fragments * size ≤ usize_max)
    (denied : ¬(Granted grants num_fragments ∧ Granted grants (num_fragments * size))) :
    ∃ abrupt, FragmentConstructor.new grants tick num_fragments size = .error abrupt := by
  unfold FragmentConstructor.new
  rw [checked_mul_some counted]
  by_cases flags : Granted grants num_fragments
  · obtain ⟨abrupt,stops⟩ := vec_denied (fun bytes => denied ⟨flags,bytes⟩) (0 : Byte)
    simp only [vec_granted flags,stops,ok_bind,error_bind]
    exact ⟨abrupt,rfl⟩
  · obtain ⟨abrupt,stops⟩ := vec_denied flags false
    simp only [stops,error_bind]
    exact ⟨abrupt,rfl⟩

theorem new_sound {num_fragments size : Nat} {c : FragmentConstructor} (some_fragments : 0 < num_fragments)
    (positive : 0 < size)
    (fits : num_fragments * size ≤ usize_max → num_fragments * size ≤ isize_max)
    (made : Fragments.FragmentConstructor.new tick num_fragments size = .ok c) : Sound size c := by
  have many : num_fragments ≤ num_fragments * size := Nat.le_mul_of_pos_right _ positive
  unfold Fragments.FragmentConstructor.new at made
  split at made
  next => cases made
  next max_message_size isSize =>
    obtain ⟨counted,rfl⟩ : num_fragments * size ≤ usize_max ∧ num_fragments * size = max_message_size := by
      unfold checked_mul at isSize
      split at isSize
      next counted => exact ⟨counted,Option.some.inj isSize⟩
      next => cases isSize
    have fits := fits counted
    cases made
    refine ⟨rfl,some_fragments,many.trans fits,fits,List.length_replicate,?_,some_fragments,fun first => ?_,?_⟩
    · simp [List.count_replicate]
    · simp [List.getElem?_replicate] at first
    · rw [List.length_replicate]
      exact Nat.mul_le_mul_right _ (Nat.sub_le _ _)

theorem entry_granted (tick : Tick) (inside : fragment.fragment_id < fragment.num_fragments)
    (granted : ¬Denied grants self fragment) :
    FragmentReceiver.entry grants self fragment.message_id tick fragment.num_fragments =
      .ok (self.entry fragment.message_id tick fragment.num_fragments) := by
  unfold FragmentReceiver.entry Fragments.FragmentReceiver.entry
  cases absent : self.fragment_messages.lookup fragment.message_id with
  | some c => rfl
  | none => exact new_granted tick fun counted => not_not.mp fun denied => granted ⟨inside,absent,counted,denied⟩

theorem Receives.entry (receives : Receives self) (inside : fragment.fragment_id < fragment.num_fragments)
    (granted : ¬Denied grants self fragment) {c : FragmentConstructor}
    (isEntry : self.entry fragment.message_id tick fragment.num_fragments = .ok c) : Sound self.fragment_size c := by
  unfold Fragments.FragmentReceiver.entry at isEntry
  split at isEntry
  next constructor known =>
    cases isEntry
    exact receives _ _ known
  next absent =>
    refine new_sound (Nat.zero_lt_of_lt inside) self.positive (fun counted => ?_) isEntry
    by_contra large
    exact granted ⟨inside,absent,counted,fun both => large both.2.1⟩

/-- The program is aborted for want of a buffer. -/
theorem receive_fragment_denied (denied : Denied grants self fragment) (lz4 : Lz4) (tick : Tick)
    (time : Option Duration)
    (config : CompressionConfig) :
    ∃ abrupt, FragmentReceiver.receive_fragment lz4 grants self fragment tick time config = .error abrupt := by
  obtain ⟨inside,absent,counted,refused⟩ := denied
  have some_fragments : ¬fragment.num_fragments = 0 := (Nat.zero_lt_of_lt inside).ne'
  have many : fragment.num_fragments ≤ fragment.num_fragments * self.fragment_size :=
    Nat.le_mul_of_pos_right _ self.positive
  obtain ⟨abrupt,stops⟩ := new_denied tick counted refused
  have entered : FragmentReceiver.entry grants self fragment.message_id tick fragment.num_fragments =
      .error abrupt := by
    rw [FragmentReceiver.entry,absent]
    exact stops
  unfold FragmentReceiver.receive_fragment
  simp only [if_neg some_fragments,if_neg (not_le.mpr inside : ¬fragment.fragment_id ≥ fragment.num_fragments),
    if_neg (not_lt.mpr (many.trans counted) : ¬fragment.num_fragments > usize_max),entered,error_bind]
  exact ⟨abrupt,rfl⟩

/-- Nothing else aborts it. -/
theorem Receives.receive_fragment_eq (receives : Receives self) (granted : ¬Denied grants self fragment) :
    FragmentReceiver.receive_fragment lz4 grants self fragment tick time config =
      .ok (self.receive_fragment lz4 fragment tick time config) := by
  unfold FragmentReceiver.receive_fragment Fragments.FragmentReceiver.receive_fragment
  dsimp only
  by_cases empty : fragment.num_fragments = 0
  · rw [if_pos empty,if_pos empty]
    rfl
  rw [if_neg empty,if_neg empty]
  by_cases outside : fragment.fragment_id ≥ fragment.num_fragments
  · rw [if_pos outside,if_pos outside]
    rfl
  rw [if_neg outside,if_neg outside]
  by_cases counted : fragment.num_fragments > usize_max
  · rw [if_pos counted,if_pos counted]
    rfl
  have inside := not_le.mp outside
  rw [if_neg counted,if_neg counted,entry_granted tick inside granted,ok_bind]
  cases isEntry : self.entry fragment.message_id tick fragment.num_fragments with
  | error error => rfl
  | ok c =>
    have sound := receives.entry inside granted isEntry
    cases prepares : Fragments.FragmentReceiver.prepare c fragment with
    | mk c₁ prepared =>
      obtain ⟨sound,ready⟩ := sound.prepare prepares
      dsimp only
      rw [prepares]
      cases prepared with
      | error error => rfl
      | ok _ =>
        obtain ⟨counts,-⟩ := ready rfl
        have inside : fragment.fragment_id < c₁.num_fragments := counts ▸ inside
        dsimp only
        rw [(sound.receive_eq inside).1,(sound.receive_eq inside).2,ok_bind]
        cases FragmentPanics.outcome c₁ fragment.fragment_id fragment.bytes time with
        | mk c₂ result =>
          cases result with
          | error error => rfl
          | ok completed =>
            cases completed with
            | none => rfl
            | some payload =>
              dsimp only
              cases c₂.compression <;> rfl

theorem Receives.insert (receives : Receives self) {c : FragmentConstructor} (sound : Sound self.fragment_size c)
    (id : MessageId) :
    Receives { self with fragment_messages := self.fragment_messages.insert id c } := by
  intro other stored known
  rw [lookup_insert_ite] at known
  split at known
  next => exact Option.some.inj known ▸ sound
  next => exact receives other stored known

theorem Receives.erase (receives : Receives self) (id : MessageId) :
    Receives { self with fragment_messages := self.fragment_messages.erase id } := by
  intro other stored known
  rw [lookup_erase_ite] at known
  split at known
  next => cases known
  next => exact receives other stored known

theorem Receives.cleanup (receives : Receives self) (cleanup_time : Duration) :
    Receives (self.cleanup cleanup_time) := by
  intro other stored known
  rw [FragmentReceiver.cleanup,lookup_retain] at known
  exact receives other stored (Option.eq_some_of_filter_eq_some known)

theorem Receives.receive_fragment (receives : Receives self) (granted : ¬Denied grants self fragment) :
    Receives (self.receive_fragment lz4 fragment tick time config).1 := by
  unfold Fragments.FragmentReceiver.receive_fragment
  dsimp only
  split
  next => exact receives
  next =>
  split
  next => exact receives
  next inside =>
  split
  next => exact receives
  next =>
  split
  next => exact receives
  next c isEntry =>
  have sound := receives.entry (not_le.mp inside) granted isEntry
  split
  next c₁ error prepares => exact receives.insert (sound.prepare prepares).1 _
  next c₁ prepares =>
  obtain ⟨sound,ready⟩ := sound.prepare prepares
  obtain ⟨counts,flagged⟩ := ready rfl
  have inside : fragment.fragment_id < c₁.num_fragments := counts ▸ not_le.mp inside
  rw [(sound.receive_eq inside).1]
  split
  next c₂ error received =>
    rcases sound.outcome inside flagged received with ⟨⟨_,failed⟩,_⟩ | ⟨_,sound⟩
    · cases failed
    · exact receives.insert sound _
  next c₂ received =>
    rcases sound.outcome inside flagged received with ⟨⟨_,failed⟩,_⟩ | ⟨_,sound⟩
    · cases failed
    · exact receives.insert sound _
  next c₂ tick payload received =>
    rcases sound.outcome inside flagged received with ⟨_,compressed⟩ | ⟨incomplete,_⟩
    · split
      next missing => exact absurd missing compressed
      next => exact receives.erase _
    · exact absurd rfl (incomplete _)

end

/-! ### Runs -/

/-- What happens to a receiver. A fragment comes with what the allocator has room for by then. -/
inductive Event where
  | Receive (grants : Nat → Bool) (fragment : FragmentData) (remote_sent_tick : Tick) (current_time : Option Duration)
    (compression : CompressionConfig)
  | Cleanup (cleanup_time : Duration)

/-- The receiver after an event. There is none when the program was aborted. -/
def step (lz4 : Lz4) (self : FragmentReceiver) : Event → Option FragmentReceiver
  | .Receive grants fragment remote_sent_tick current_time compression =>
    match FragmentReceiver.receive_fragment lz4 grants self fragment remote_sent_tick current_time compression with
    | .ok (after,_) => some after
    | .error _ => none
  | .Cleanup cleanup_time => some (self.cleanup cleanup_time)

theorem receives_reached {lz4 : Lz4} {size : Nat} {positive : 0 < size} {self : FragmentReceiver}
    (reached : Runs.Reaches (step lz4) (fun _ _ _ => True) (.new size positive) self) : Receives self := by
  refine reached.invariant Receives (fun id c known => by simp [Fragments.FragmentReceiver.new] at known) ?_
  intro before event after receives stepped _
  cases event with
  | Receive grants fragment tick time config =>
    by_cases denied : Denied grants before fragment
    · obtain ⟨abrupt,aborted⟩ := receive_fragment_denied denied lz4 tick time config
      simp only [step,aborted] at stepped
      cases stepped
    · simp only [step,receives.receive_fragment_eq denied] at stepped
      cases stepped
      exact receives.receive_fragment denied
  | Cleanup cleanup_time =>
    cases stepped
    exact receives.cleanup cleanup_time

theorem receive_fragment_returns (lz4 : Lz4) {size : Nat} {positive : 0 < size} {self : FragmentReceiver}
    (reached : Runs.Reaches (step lz4) (fun _ _ _ => True) (.new size positive) self) (grants : Nat → Bool)
    (fragment : FragmentData) (tick : Tick) (time : Option Duration) (config : CompressionConfig) :
    (∃ result,FragmentReceiver.receive_fragment lz4 grants self fragment tick time config = .ok result) ↔
      ¬Denied grants self fragment := by
  refine ⟨?_,fun granted => ⟨_,(receives_reached reached).receive_fragment_eq granted⟩⟩
  rintro ⟨result,returned⟩ denied
  obtain ⟨abrupt,aborted⟩ := receive_fragment_denied denied lz4 tick time config
  cases returned.symm.trans aborted

/-- Receiving a fragment returns exactly if the buffers of a new message can be had. Where the allocator always has room
these fail exactly if the capacity of one overflows. -/
theorem receive_fragment_returns_iff (lz4 : Lz4) (size : Nat) (positive : 0 < size) (self : FragmentReceiver)
    (reached : Runs.Reaches (step lz4) (fun _ _ _ => True) (.new size positive) self) (grants : Nat → Bool)
    (fragment : FragmentData) (tick : Tick) (time : Option Duration) (config : CompressionConfig) :
    ((∃ result,FragmentReceiver.receive_fragment lz4 grants self fragment tick time config = .ok result) ↔
        ¬Denied grants self fragment) ∧
      ((∀ bytes,grants bytes = true) → (Denied grants self fragment ↔ CapacityOverflows self fragment)) :=
  ⟨receive_fragment_returns lz4 reached grants fragment tick time config,denied_iff_overflows⟩

/-- The receiver of two fragments of two bytes, of which it has the second one. -/
theorem receive_fragment_returns_second : ∃ self,
    Runs.Reaches (step .literals) (fun _ _ _ => True) (.new 2 (by decide)) self ∧ self.fragment_messages.keys = [⟨7⟩] ∧
      ∀ grants,((∃ result,FragmentReceiver.receive_fragment .literals grants self
        ⟨⟨7⟩,0,2,some .None,[1,2]⟩ 0 none .DISABLED =
            .ok result) ↔ ¬Denied grants self ⟨⟨7⟩,0,2,some .None,[1,2]⟩) ∧
        ((∀ bytes,grants bytes = true) →
          (Denied grants self ⟨⟨7⟩,0,2,some .None,[1,2]⟩ ↔ CapacityOverflows self ⟨⟨7⟩,0,2,some .None,[1,2]⟩)) := by
  obtain ⟨self,reached,isKey⟩ := Runs.reaches_of_check (step .literals) (fun _ _ _ => True) (.new 2 (by decide))
    (fun self => decide (self.fragment_messages.keys = [⟨7⟩]))
    [.Receive (fun _ => true) ⟨⟨7⟩,1,2,none,[3]⟩ 0 none .DISABLED] (by decide +kernel)
  exact ⟨self,reached,of_decide_eq_true isKey,fun grants =>
    receive_fragment_returns_iff .literals 2 (by decide) self reached grants _ 0 none .DISABLED⟩

/-- A fragment that announces 2^53 fragments of the default size is read from 14 bytes, and makes a new
receiver panic. -/
theorem announced_size_panics : ∃ (bytes : Bytes) (fragment : FragmentData),
    Serde.FragmentData.from_bytes bytes = .ok (fragment,[]) ∧
      FragmentReceiver.receive_fragment .literals (fun _ => true) (.new 1162 (by decide)) fragment 0 none .DISABLED =
        .error (.Panic .Overflow) :=
  ⟨[0,7,0,0xC0,0x20,0,0,0,0,0,0,0,1,9],⟨⟨7⟩,0,2 ^ 53,some .None,[9]⟩,by decide,rfl⟩

end Lightyear.FragmentPanics
