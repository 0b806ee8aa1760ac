import Lightyear.Packets

/-!
The part of the receive system in `plugin.rs` that reads one packet. What is done with a
message is a parameter, so that reading the messages and handing them over can be told apart.
-/
namespace Lightyear.ReceiveLoop
open Codec
open Lightyear.Ids Lightyear.Message Lightyear.Compression Lightyear.Header Lightyear.Serde Lightyear.Packets

/-- The errors of `error.rs` that reading a packet can end with. -/
inductive TransportError where
  | SerializationError (error : SerializationError)
  | PacketError (error : PacketError)
  | ChannelReceiveError (error : ChannelReceiveError)
deriving DecidableEq, Repr

/-- What is done with a message that has been read. -/
abbrev Handler (σ : Type) := σ → ChannelId → MessageData → σ × Except TransportError Unit

section Loop
variable {σ : Type} (handle : Handler σ)

/-- `for _ in 0..num_messages` -/
def receive_batch (channel_id : ChannelId) : Nat → σ → Bytes → σ × Except TransportError Bytes
  | 0,s,cursor => (s,.ok cursor)
  | num_messages + 1,s,cursor =>
    match SingleData.from_bytes cursor with
    | .error error => (s,.error (.SerializationError error))
    | .ok (single_data,cursor) =>
      match handle s channel_id (.Single single_data) with
      | (s,.error error) => (s,.error error)
      | (s,.ok ()) => receive_batch channel_id num_messages s cursor

/-- `while cursor.has_remaining()`: a batch has at least two bytes, so the length of the cursor is fuel enough. -/
def receive_batches : Nat → σ → Bytes → σ × Except TransportError Unit
  | 0,s,_ => (s,.ok ())
  | fuel + 1,s,cursor =>
    if cursor.isEmpty then (s,.ok ())
    else
      match ChannelId.from_bytes cursor with
      | .error error => (s,.error (.SerializationError error))
      | .ok (channel_id,cursor) =>
        match read_u8 cursor with
        | .error error => (s,.error (.SerializationError error))
        | .ok (num_messages,cursor) =>
          match receive_batch handle channel_id num_messages.toNat s cursor with
          | (s,.error error) => (s,.error error)
          | (s,.ok cursor) => receive_batches fuel s cursor

/-- The fragment at the start of a `DataFragment` packet. -/
def receive_fragment (packet_type : PacketType) (s : σ) (cursor : Bytes) : σ × Except TransportError Bytes :=
  if packet_type = .DataFragment then
    match ChannelId.from_bytes cursor with
    | .error error => (s,.error (.SerializationError error))
    | .ok (channel_id,cursor) =>
      match FragmentData.from_bytes cursor with
      | .error error => (s,.error (.SerializationError error))
      | .ok (fragment_data,cursor) =>
        match handle s channel_id (.Fragment fragment_data) with
        | (s,.error error) => (s,.error error)
        | (s,.ok ()) => (s,.ok cursor)
  else (s,.ok cursor)

def receive_body (packet_type : PacketType) (s : σ) (cursor : Bytes) : σ × Except TransportError Unit :=
  match receive_fragment handle packet_type s cursor with
  | (s,.error error) => (s,.error error)
  | (s,.ok cursor) => receive_batches handle cursor.length s cursor

/-- What follows the header of a packet. -/
def receive_payload (lz4 : Lz4) (compression : CompressionConfig) (packet_type : PacketType) (s : σ) (cursor : Bytes) :
    σ × Except TransportError Unit :=
  if PacketType.is_compressed packet_type then
    match decompress_payload lz4 cursor compression with
    | .error error => (s,.error (.PacketError error))
    | .ok decompressed => receive_body handle (PacketType.uncompressed_variant packet_type) s decompressed
  else receive_body handle packet_type s cursor

end Loop

private theorem receive_batch_shrinks {σ : Type} {handle : Handler σ} {channel_id : ChannelId} {num_messages : Nat}
    {s s' : σ} {cursor rest : Bytes}
    (received : receive_batch handle channel_id num_messages s cursor = (s',.ok rest)) :
    rest.length ≤ cursor.length := by
  induction num_messages generalizing s cursor with
  | zero =>
    cases received
    exact le_refl _
  | succ num_messages ih =>
    rw [receive_batch] at received
    cases single : SingleData.from_bytes cursor with
    | error error =>
      rw [single] at received
      cases received
    | ok result =>
      obtain ⟨single_data,after⟩ := result
      simp only [single] at received
      cases handled : handle s channel_id (.Single single_data) with
      | mk s₁ outcome =>
        rw [handled] at received
        cases outcome with
        | error error => cases received
        | ok _ =>
          have shorter := consumes_single cursor single_data after single
          have rest_shorter := ih received
          omega

/-- Every iteration takes bytes off the cursor. -/
theorem receive_batches_fuel {σ : Type} (handle : Handler σ) {fuel : Nat} (s : σ) {cursor : Bytes}
    (enough : cursor.length ≤ fuel) :
    receive_batches handle fuel s cursor = receive_batches handle cursor.length s cursor := by
  have independent : ∀ (n fuel fuel' : Nat) (s : σ) (cursor : Bytes), cursor.length ≤ n → cursor.length ≤ fuel →
      cursor.length ≤ fuel' → receive_batches handle fuel s cursor = receive_batches handle fuel' s cursor := by
    intro n
    induction n with
    | zero =>
      intro fuel fuel' s cursor short _ _
      have empty : cursor = [] := List.eq_nil_of_length_eq_zero (Nat.le_zero.mp short)
      subst empty
      cases fuel <;> cases fuel' <;> rfl
    | succ n ih =>
      intro fuel fuel' s cursor short enough enough'
      by_cases empty : cursor = []
      · subst empty
        cases fuel <;> cases fuel' <;> rfl
      have some_left := List.length_pos_iff.mpr empty
      obtain ⟨fuel,rfl⟩ : ∃ k, fuel = k + 1 := ⟨fuel - 1,by omega⟩
      obtain ⟨fuel',rfl⟩ : ∃ k, fuel' = k + 1 := ⟨fuel' - 1,by omega⟩
      simp only [receive_batches]
      cases channel : ChannelId.from_bytes cursor with
      | error error => rfl
      | ok result =>
        obtain ⟨channel_id,after⟩ := result
        dsimp only
        have first := consumes_channel cursor channel_id after channel
        cases count : read_u8 after with
        | error error => rfl
        | ok result =>
          obtain ⟨num_messages,left⟩ := result
          dsimp only
          have second := consumes_u8 after num_messages left count
          cases batch : receive_batch handle channel_id num_messages.toNat s left with
          | mk s₁ outcome =>
            cases outcome with
            | error error => rfl
            | ok rest =>
              dsimp only
              have third := receive_batch_shrinks batch
              rw [ih fuel fuel' s₁ rest (by omega) (by omega) (by omega)]
  exact independent fuel fuel cursor.length s cursor enough enough (le_refl _)

/-! ### Reading and handing over -/

/-- Hands messages over in order, until one is refused. -/
def deliver {σ : Type} (handle : Handler σ) : σ → List (ChannelId × MessageData) → σ × Except TransportError Unit
  | s,[] => (s,.ok ())
  | s,(channel_id,data) :: messages =>
    match handle s channel_id data with
    | (s,.error error) => (s,.error error)
    | (s,.ok ()) => deliver handle s messages

/-- The messages that were read are handed over, and then the outcome is that of the reading. -/
def hand_over {σ α : Type} (handle : Handler σ) (s : σ)
    (read : List (ChannelId × MessageData) × Except TransportError α) : σ × Except TransportError α :=
  match deliver handle s read.1 with
  | (s,.error error) => (s,.error error)
  | (s,.ok ()) => (s,read.2)

private theorem deliver_append {σ : Type} (handle : Handler σ) (s : σ) (xs ys : List (ChannelId × MessageData)) :
    deliver handle s (xs ++ ys) = match deliver handle s xs with
      | (s,.error error) => (s,.error error)
      | (s,.ok ()) => deliver handle s ys := by
  induction xs generalizing s with
  | nil => rfl
  | cons x xs ih =>
    obtain ⟨channel_id,data⟩ := x
    simp only [List.cons_append,deliver]
    cases handle s channel_id data with
    | mk s₁ outcome =>
      cases outcome with
      | error error => rfl
      | ok _ => exact ih s₁

/-- A piece of the receive loop, for every handler. -/
abbrev Loop (α : Type) := ∀ σ : Type, Handler σ → σ → σ × Except TransportError α

/-- What a loop reads does not depend on what is done with the messages. -/
def Factors {α : Type} (loop : Loop α) : Prop :=
  ∃ read, ∀ (σ : Type) (handle : Handler σ) (s : σ), loop σ handle s = hand_over handle s read

private theorem Factors.done {α : Type} (outcome : Except TransportError α) : Factors fun _ _ s => (s,outcome) :=
  ⟨([],outcome),fun _ _ _ => rfl⟩

private theorem Factors.message (channel_id : ChannelId) (data : MessageData) :
    Factors fun _ handle s => handle s channel_id data := by
  refine ⟨([(channel_id,data)],.ok ()),fun σ handle s => ?_⟩
  simp only [hand_over,deliver]
  cases handle s channel_id data with
  | mk s₁ outcome =>
    cases outcome with
    | error error => rfl
    | ok _ => rfl

/-- A loop that stops where its first half fails, and goes on with its second half otherwise. -/
private theorem Factors.seq {α β : Type} {first : Loop α} {second : α → Loop β} {whole : Loop β}
    (factors : Factors first) (then_factors : ∀ a, Factors (second a))
    (stops : ∀ σ handle s s' error, first σ handle s = (s',.error error) → whole σ handle s = (s',.error error))
    (goes_on : ∀ σ handle s s' a, first σ handle s = (s',.ok a) → whole σ handle s = second a σ handle s') :
    Factors whole := by
  obtain ⟨⟨messages,outcome⟩,reads⟩ := factors
  cases outcome with
  | error error =>
    refine ⟨(messages,.error error),fun σ handle s => ?_⟩
    have read := reads σ handle s
    simp only [hand_over] at read ⊢
    cases handed : deliver handle s messages with
    | mk s₁ outcome =>
      rw [handed] at read
      cases outcome with
      | error error' => exact stops σ handle s s₁ error' read
      | ok _ => exact stops σ handle s s₁ error read
  | ok a =>
    obtain ⟨⟨more,outcome⟩,then_reads⟩ := then_factors a
    refine ⟨(messages ++ more,outcome),fun σ handle s => ?_⟩
    have read := reads σ handle s
    simp only [hand_over,deliver_append] at read ⊢
    cases handed : deliver handle s messages with
    | mk s₁ outcome' =>
      rw [handed] at read
      cases outcome' with
      | error error => exact stops σ handle s s₁ error read
      | ok _ => exact (goes_on σ handle s s₁ a read).trans (then_reads σ handle s₁)

private theorem receive_batch_factors (channel_id : ChannelId) (num_messages : Nat) (cursor : Bytes) :
    Factors fun _ handle s => receive_batch handle channel_id num_messages s cursor := by
  induction num_messages generalizing cursor with
  | zero => exact .done (.ok cursor)
  | succ num_messages ih =>
    cases single : SingleData.from_bytes cursor with
    | error error =>
      simp only [receive_batch,single]
      exact .done _
    | ok result =>
      refine (Factors.message channel_id (.Single result.1)).seq (fun _ => ih result.2) ?_ ?_
      · intro σ handle s s' error failed
        simp only [receive_batch,single,failed]
      · intro σ handle s s' a handled
        simp only [receive_batch,single,handled]

private theorem receive_batches_factors (fuel : Nat) (cursor : Bytes) :
    Factors fun _ handle s => receive_batches handle fuel s cursor := by
  induction fuel generalizing cursor with
  | zero => exact .done (.ok ())
  | succ fuel ih =>
    by_cases empty : cursor.isEmpty = true
    · simp only [receive_batches,empty,if_true]
      exact .done (.ok ())
    cases channel : ChannelId.from_bytes cursor with
    | error error =>
      simp only [receive_batches,empty,channel]
      exact .done _
    | ok result =>
      cases count : read_u8 result.2 with
      | error error =>
        simp only [receive_batches,empty,channel,count]
        exact .done _
      | ok left =>
        refine (receive_batch_factors result.1 left.1.toNat left.2).seq ih ?_ ?_
        · intro σ handle s s' error failed
          simp only [receive_batches,empty,channel,count,failed]
          rfl
        · intro σ handle s s' rest received
          simp only [receive_batches,empty,channel,count,received]
          rfl

private theorem receive_fragment_factors (packet_type : PacketType) (cursor : Bytes) :
    Factors fun _ handle s => receive_fragment handle packet_type s cursor := by
  by_cases fragment : packet_type = .DataFragment
  · cases channel : ChannelId.from_bytes cursor with
    | error error =>
      simp only [receive_fragment,fragment,if_true,channel]
      exact .done _
    | ok result =>
      cases data : FragmentData.from_bytes result.2 with
      | error error =>
        simp only [receive_fragment,fragment,if_true,channel,data]
        exact .done _
      | ok left =>
        refine (Factors.message result.1 (.Fragment left.1)).seq (fun _ => .done (.ok left.2)) ?_ ?_
        · intro σ handle s s' error failed
          simp only [receive_fragment,fragment,if_true,channel,data,failed]
        · intro σ handle s s' a handled
          simp only [receive_fragment,fragment,if_true,channel,data,handled]
  · simp only [receive_fragment,fragment,if_false]
    exact .done (.ok cursor)

private theorem receive_body_factors (packet_type : PacketType) (cursor : Bytes) :
    Factors fun _ handle s => receive_body handle packet_type s cursor := by
  refine (receive_fragment_factors packet_type cursor).seq
    (fun cursor => receive_batches_factors cursor.length cursor) ?_ ?_
  · intro σ handle s s' error failed
    simp only [receive_body,failed]
  · intro σ handle s s' rest received
    simp only [receive_body,received]

/-- Only writes down what it is given. -/
def record : Handler (List (ChannelId × MessageData)) := fun messages channel_id data =>
  (messages ++ [(channel_id,data)],.ok ())

theorem deliver_record (before messages : List (ChannelId × MessageData)) :
    deliver record before messages = (before ++ messages,.ok ()) := by
  induction messages generalizing before with
  | nil => simp [deliver]
  | cons message messages ih => simp [deliver,record,ih]

/-- The messages of a body, up to the first byte that cannot be read. -/
def decode_body (packet_type : PacketType) (cursor : Bytes) :
    List (ChannelId × MessageData) × Except TransportError Unit :=
  receive_body record packet_type [] cursor

/-- The receive loop hands over the messages of the body in order, until one is refused. -/
theorem receive_body_eq {σ : Type} (handle : Handler σ) (packet_type : PacketType) (s : σ) (cursor : Bytes) :
    receive_body handle packet_type s cursor = hand_over handle s (decode_body packet_type cursor) := by
  obtain ⟨read,factors⟩ := receive_body_factors packet_type cursor
  have recorded : decode_body packet_type cursor = read := by
    have all := factors _ record []
    rwa [hand_over,deliver_record,List.nil_append] at all
  rw [recorded]
  exact factors σ handle s

/-! ### What a sender writes -/

/-- A channel and the messages in one of its batches. -/
abbrev Batch := ChannelId × List SingleData

def single_bytes (single : SingleData) : Bytes := written (SingleData.to_bytes single)

def batch_bytes (batch : Batch) : Bytes :=
  written (ChannelId.to_bytes batch.1) ++ UInt8.ofNat batch.2.length :: batch.2.flatMap single_bytes

def batch_messages (batch : Batch) : List (ChannelId × MessageData) :=
  batch.2.map fun single => (batch.1,.Single single)

/-- The count fits into its byte, and the lengths are varints. -/
structure SoundBatch (batch : Batch) : Prop where
  count : batch.2.length ≤ 255
  bytes : ∀ single ∈ batch.2, single.bytes.length < 2 ^ 62

private theorem receive_batch_written (channel_id : ChannelId) {singles : List SingleData}
    (sound : ∀ single ∈ singles, single.bytes.length < 2 ^ 62) (before : List (ChannelId × MessageData))
    (rest : Bytes) :
    receive_batch record channel_id singles.length before (singles.flatMap single_bytes ++ rest) =
      (before ++ batch_messages (channel_id,singles),.ok rest) := by
  induction singles generalizing before with
  | nil => simp [receive_batch,batch_messages]
  | cons single singles ih =>
    have reads := (single_encodes (sound single (List.mem_cons_self ..))).reads (singles.flatMap single_bytes ++ rest)
    rw [List.flatMap_cons,List.append_assoc,List.length_cons,receive_batch,single_bytes,reads]
    simp only [record]
    rw [ih fun other member => sound other (List.mem_cons_of_mem _ member)]
    simp [batch_messages]

private theorem receive_batches_written {batches : List Batch} (sound : ∀ batch ∈ batches, SoundBatch batch)
    (before : List (ChannelId × MessageData)) :
    receive_batches record (batches.flatMap batch_bytes).length before (batches.flatMap batch_bytes) =
      (before ++ batches.flatMap batch_messages,.ok ()) := by
  induction batches generalizing before with
  | nil => simp [receive_batches]
  | cons batch batches ih =>
    obtain ⟨channel_id,singles⟩ := batch
    have first := sound (channel_id,singles) (List.mem_cons_self ..)
    have count : (UInt8.ofNat singles.length).toNat = singles.length := by
      have small : singles.length ≤ 255 := first.count
      rw [UInt8.toNat_ofNat']
      omega
    obtain ⟨fuel,isFuel,enough⟩ : ∃ fuel, (((channel_id,singles) :: batches).flatMap batch_bytes).length = fuel + 1 ∧
        (batches.flatMap batch_bytes).length ≤ fuel := by
      refine ⟨(((channel_id,singles) :: batches).flatMap batch_bytes).length - 1,?_,?_⟩ <;>
        rw [List.flatMap_cons,List.length_append,batch_bytes,List.length_append,List.length_cons] <;> omega
    rw [isFuel]
    have channel := (channel_encodes channel_id).reads
      (UInt8.ofNat singles.length :: singles.flatMap single_bytes ++ batches.flatMap batch_bytes)
    rw [List.flatMap_cons,batch_bytes,List.append_assoc]
    have present : (written (ChannelId.to_bytes channel_id) ++
        (UInt8.ofNat singles.length :: singles.flatMap single_bytes ++ batches.flatMap batch_bytes)).isEmpty =
          false := by
      simp
    simp only [receive_batches,present,channel]
    have batch := receive_batch_written channel_id first.bytes before (batches.flatMap batch_bytes)
    simp only [Bool.false_eq_true,if_false,List.cons_append,read_u8,count,batch]
    rw [receive_batches_fuel record _ enough,ih fun other member => sound other (List.mem_cons_of_mem _ member)]
    simp

theorem decode_singles {batches : List Batch} (sound : ∀ batch ∈ batches, SoundBatch batch) :
    decode_body .Data (batches.flatMap batch_bytes) = (batches.flatMap batch_messages,.ok ()) := by
  have read := receive_batches_written sound []
  simpa [decode_body,receive_body,receive_fragment] using read

theorem decode_fragment {fragment : FragmentData} (formed : WellFormed fragment) (channel_id : ChannelId)
    {batches : List Batch} (sound : ∀ batch ∈ batches, SoundBatch batch) :
    decode_body .DataFragment (written (ChannelId.to_bytes channel_id) ++
        (written (FragmentData.to_bytes fragment) ++ batches.flatMap batch_bytes)) =
      ((channel_id,.Fragment fragment) :: batches.flatMap batch_messages,.ok ()) := by
  have channel := (channel_encodes channel_id).reads
    (written (FragmentData.to_bytes fragment) ++ batches.flatMap batch_bytes)
  have data := (fragment_encodes formed).reads (batches.flatMap batch_bytes)
  have read := receive_batches_written sound [(channel_id,.Fragment fragment)]
  simpa [decode_body,receive_body,receive_fragment,channel,data,record] using read

end Lightyear.ReceiveLoop
