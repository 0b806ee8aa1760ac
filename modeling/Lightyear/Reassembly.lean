import Lightyear.Fragments

/-!
What a reassembly buffer holds of a message that was cut into fragments, and when it
gives the message back.
-/
namespace Lightyear.Reassembly
open Lightyear.Ids Lightyear.Message Lightyear.Compression Lightyear.Fragments

/-- A message as its sender fragments it: the bytes that are cut, which may be the
    compressed payload, and the flag that says so. -/
structure Fragmented where
  message_id : MessageId
  size : Nat
  whole : Bytes
  compression : FragmentCompression

namespace Fragmented

def count (m : Fragmented) : Nat := Chunks.count m.size m.whole.length

def piece (m : Fragmented) (i : Nat) : FragmentData :=
  { message_id := m.message_id,
    fragment_id := i,
    num_fragments := m.count,
    compression := if i = 0 then some m.compression else none,
    bytes := Chunks.chunk m.size m.whole i }

/-- The fragments of the message, as its sender builds them. -/
def pieces (m : Fragmented) : List FragmentData := (List.range m.count).map m.piece

/-- The receiver can put the fragments together to the payload. -/
structure Decodes (lz4 : Lz4) (config : CompressionConfig) (m : Fragmented) (payload : Bytes) : Prop where
  positive : 0 < m.size
  nonempty : 0 < m.whole.length
  fits : m.whole.length + m.size ≤ usize_max
  decoded : decompress_fragment_payload lz4 m.compression m.whole config = .ok payload

theorem Decodes.count_pos {lz4 : Lz4} {config : CompressionConfig} {m : Fragmented} {payload : Bytes}
    (decodes : m.Decodes lz4 config payload) : 0 < m.count := by
  rw [Nat.pos_iff_ne_zero,count,ne_eq,Chunks.count_eq_zero decodes.positive]
  have := decodes.nonempty
  omega

end Fragmented

theorem build_fragments_with_compression_eq (sender : FragmentSender) (id : MessageId) (whole : Bytes)
    (compression : FragmentCompression) :
    sender.build_fragments_with_compression id whole compression =
      (List.range (Fragmented.mk id sender.fragment_size whole compression).count).map
        (Fragmented.mk id sender.fragment_size whole compression).piece := by
  apply List.ext_getElem?
  intro i
  simp only [FragmentSender.build_fragments_with_compression,Chunks.length_chunks,List.getElem?_map,
    List.getElem?_zipIdx,Nat.zero_add,Option.map_map]
  by_cases inside : i < Chunks.count sender.fragment_size whole.length
  · simp [Chunks.chunks,List.getElem?_range inside,Fragmented.piece,Fragmented.count]
  · simp [Chunks.chunks,Fragmented.count,Nat.not_lt.mp inside]

/-- How `build_fragments_for_message` cuts a message. -/
def cut (lz4 : Lz4) (sender : FragmentSender) (id : MessageId) (message : Bytes) (config : CompressionConfig) :
    Fragmented :=
  match compress_fragment lz4 message config,fragment_compression config with
  | .ok (.Compressed payload _ _),some compression => ⟨id,sender.fragment_size,payload,compression⟩
  | _,_ => ⟨id,sender.fragment_size,message,.None⟩

@[simp] theorem cut_message_id (lz4 : Lz4) (sender : FragmentSender) (id : MessageId) (message : Bytes)
    (config : CompressionConfig) : (cut lz4 sender id message config).message_id = id := by
  unfold cut
  split <;> rfl

@[simp] theorem cut_size (lz4 : Lz4) (sender : FragmentSender) (id : MessageId) (message : Bytes)
    (config : CompressionConfig) : (cut lz4 sender id message config).size = sender.fragment_size := by
  unfold cut
  split <;> rfl

section Cut
variable {lz4 : Lz4} {sender : FragmentSender} {id : MessageId} {message : Bytes} {config : CompressionConfig}

theorem build_fragments_cut (large : sender.fragment_size < message.length) :
    sender.build_fragments_for_message lz4 id message config = some (cut lz4 sender id message config).pieces := by
  have notSmall : ¬ message.length ≤ sender.fragment_size := by omega
  have plain : sender.build_fragments id message =
      some (⟨id,sender.fragment_size,message,.None⟩ : Fragmented).pieces := by
    rw [FragmentSender.build_fragments,if_neg notSmall,build_fragments_with_compression_eq]
    rfl
  simp only [FragmentSender.build_fragments_for_message,notSmall,↓reduceIte,cut]
  cases compress_fragment lz4 message config with
  | error failed => exact plain
  | ok outcome =>
    cases outcome with
    | Disabled | TooSmall | TooLargeForDecompressionLimit | NotSmaller => exact plain
    | Compressed payload original_len compressed_len =>
      cases fragment_compression config with
      | none => exact plain
      | some flag => exact congrArg some (build_fragments_with_compression_eq ..)

/-- Whatever the compression outcome, the fragments of a message decode to it. -/
theorem cut_decodes (inverts : lz4.Inverts) (large : sender.fragment_size < message.length)
    (fits : message.length ≤ isize_max) : (cut lz4 sender id message config).Decodes lz4 config message := by
  have room : ∀ whole : Bytes, whole.length ≤ message.length → whole.length + sender.fragment_size ≤ usize_max := by
    intro whole shorter
    simp only [isize_max,usize_max] at *
    omega
  unfold cut
  split
  · next payload original_len compressed_len compression outcome flag =>
    obtain ⟨enabled,within,smaller,made⟩ := compress_fragment_ok outcome
    have isLz4 : compression = .Lz4 := by
      simp only [fragment_compression,enabled,Option.some.injEq] at flag
      exact flag.symm
    subst isLz4
    have nonempty := compress_lz4_length made
    refine ⟨sender.positive,by simp only; omega,room payload smaller.le,?_⟩
    simp [decompress_fragment_payload,config_for_fragment_compression,enabled,
      decompress_compress inverts enabled made within,
      Except.mapError]
  · exact ⟨sender.positive,by simp only; omega,room message le_rfl,rfl⟩

theorem cut_count_pos (large : sender.fragment_size < message.length) :
    0 < (cut lz4 sender id message config).count := by
  rw [Nat.pos_iff_ne_zero,Fragmented.count,ne_eq,cut_size,Chunks.count_eq_zero sender.positive]
  unfold cut
  split
  · next outcome _ =>
    have := compress_lz4_length (compress_fragment_ok outcome).2.2.2
    simp only
    omega
  · simp only
    omega

end Cut

/-- What the sender of a channel with ids puts on the wire for one message. -/
def wire (lz4 : Lz4) (sender : FragmentSender) (config : CompressionConfig) (id : MessageId) (message : Bytes) :
    List MessageData :=
  if message.length > sender.fragment_size then
    ((sender.build_fragments_for_message lz4 id message config).getD []).map .Fragment
  else [.Single ⟨some id,message⟩]

theorem mem_wire {lz4 : Lz4} {sender : FragmentSender} {config : CompressionConfig} {id : MessageId} {message : Bytes}
    {data : MessageData} : data ∈ wire lz4 sender config id message ↔
      message.length ≤ sender.fragment_size ∧ data = .Single ⟨some id,message⟩ ∨
      sender.fragment_size < message.length ∧ ∃ i < (cut lz4 sender id message config).count,
        data = .Fragment ((cut lz4 sender id message config).piece i) := by
  unfold wire
  by_cases large : message.length > sender.fragment_size
  · rw [if_pos large,build_fragments_cut large]
    simp [Fragmented.pieces,large,Nat.not_le.mpr large,eq_comm]
  · simp [large,Nat.not_lt.mp large]

theorem wire_message_id {lz4 : Lz4} {sender : FragmentSender} {config : CompressionConfig} {id : MessageId}
    {message : Bytes} {data : MessageData} (member : data ∈ wire lz4 sender config id message) :
    data.message_id = some id := by
  rcases mem_wire.mp member with ⟨-,rfl⟩ | ⟨-,i,-,rfl⟩
  · rfl
  · simp [MessageData.message_id,Fragmented.piece]

/-! ### One constructor -/

/-- A constructor that holds the fragments in `got`, the last one received first. -/
structure Stored (m : Fragmented) (c : FragmentConstructor) (got : List Nat) (tick : Tick) : Prop where
  num : c.num_fragments = m.count
  size : c.fragment_size = m.size
  distinct : got.Nodup
  inside : ∀ i ∈ got, i < m.count
  number : c.num_received_fragments = got.length
  received : c.received = (List.range m.count).map (fun i => decide (i ∈ got))
  filled : Chunks.Filled m.size m.whole c.bytes got
  first : c.tick = tick

/-- A constructor between two fragments. -/
structure Holds (m : Fragmented) (c : FragmentConstructor) (got : List Nat) (tick : Tick) : Prop
    extends Stored m c got tick where
  flag : c.compression = if 0 ∈ got then some m.compression else none

section Constructor
variable {lz4 : Lz4} {config : CompressionConfig} {m : Fragmented} {payload : Bytes} {c : FragmentConstructor}
  {got : List Nat} {tick : Tick} {i : Nat}

theorem length_lt_of_missing (distinct : got.Nodup) (inside : ∀ i ∈ got, i < m.count) (low : i < m.count)
    (missing : i ∉ got) : got.length < m.count := by
  have fits : (i :: got).toFinset ⊆ Finset.range m.count := by
    intro j member
    rcases List.mem_cons.mp (List.mem_toFinset.mp member) with rfl | old
    · exact Finset.mem_range.mpr low
    · exact Finset.mem_range.mpr (inside j old)
  have size := Finset.card_le_card fits
  rw [List.toFinset_card_of_nodup (List.nodup_cons.mpr ⟨missing,distinct⟩),Finset.card_range,List.length_cons] at size
  omega

theorem all_of_length (distinct : got.Nodup) (inside : ∀ i ∈ got, i < m.count) (full : got.length = m.count) :
    ∀ i < m.count, i ∈ got := by
  intro i low
  by_contra missing
  have := length_lt_of_missing distinct inside low missing
  omega

theorem new_stored (decodes : m.Decodes lz4 config payload) (tick : Tick) :
    ∃ c, FragmentConstructor.new tick m.count m.size = .ok c ∧ Holds m c [] tick := by
  have room : m.count * m.size < m.whole.length + m.size := Chunks.count_mul_lt decodes.positive
  have fits := decodes.fits
  rw [FragmentConstructor.new,checked_mul_some (by omega)]
  refine ⟨_,rfl,⟨⟨rfl,rfl,List.nodup_nil,by simp,rfl,?_,Chunks.filled_nil _ _ _,rfl⟩,rfl⟩⟩
  apply List.ext_getElem <;> simp

/-- No checked operation of `store` overflows on a fragment of the message. -/
theorem store_piece (decodes : m.Decodes lz4 config payload) (known : Stored m c got tick) (low : i < m.count)
    (missing : i ∉ got) :
    ∃ c', c.store i (m.piece i).bytes = (c',.ok ()) ∧ Stored m c' (i :: got) tick ∧ c'.compression = c.compression := by
  have room : m.count * m.size < m.whole.length + m.size := Chunks.count_mul_lt decodes.positive
  have fits := decodes.fits
  have short : (Chunks.chunk m.size m.whole i).length ≤ m.size := Chunks.length_chunk_le i
  have start : i * m.size + m.size ≤ m.count * m.size := by
    rw [← Nat.succ_mul]
    exact Nat.mul_le_mul_right _ low
  have last : (m.count - 1) * m.size + m.size = m.count * m.size := by
    rw [← Nat.succ_mul]
    congr 1
    omega
  have bytes : (m.piece i).bytes = Chunks.chunk m.size m.whole i := rfl
  have resized : (if i = m.count - 1 then
      ((checked_mul (m.count - 1) m.size).bind (checked_add · (m.piece i).bytes.length)).map
        (Chunks.resize c.bytes · 0) else some c.bytes) =
      some (if i = m.count - 1 then Chunks.resize c.bytes ((m.count - 1) * m.size + (m.piece i).bytes.length) 0
        else c.bytes) := by
    rw [checked_mul_some (by omega),Option.bind_some,checked_add_some (by rw [bytes]; omega),Option.map_some]
    split <;> rfl
  have written := Chunks.filled_write known.filled decodes.positive low missing 0
  simp only [FragmentConstructor.store,known.num,known.size,resized]
  rw [checked_mul_some (by omega)]
  simp only
  rw [checked_add_some (by rw [bytes]; omega)]
  refine ⟨_,rfl,⟨rfl,rfl,List.nodup_cons.mpr ⟨missing,known.distinct⟩,?_,?_,?_,written,known.first⟩,rfl⟩
  · intro j member
    rcases List.mem_cons.mp member with rfl | old
    · exact low
    · exact known.inside j old
  · simp [known.number]
  · rw [known.received]
    apply List.ext_getElem?
    intro j
    rw [List.getElem?_set]
    by_cases same : i = j
    · subst same
      simp [low]
    · rw [if_neg same]
      by_cases inside : j < m.count
      · simp [List.getElem?_range inside,Ne.symm same]
      · simp [Nat.not_lt.mp inside]

/-- The size checks pass every fragment of the message. -/
theorem sizes_ok (known : Stored m c got tick) (low : i < m.count) :
    ¬ (¬ i = c.num_fragments - 1 ∧ (m.piece i).bytes.length ≠ c.fragment_size) ∧
    ¬ (i = c.num_fragments - 1 ∧ (m.piece i).bytes.length > c.fragment_size) := by
  rw [known.num,known.size]
  refine ⟨?_,?_⟩
  · rintro ⟨middle,short⟩
    exact short (Chunks.length_chunk_full (by simp only [Fragmented.count] at *; omega))
  · rintro ⟨-,long⟩
    have short : (Chunks.chunk m.size m.whole i).length ≤ m.size := Chunks.length_chunk_le i
    simp only [Fragmented.piece] at long
    omega

theorem is_received (known : Stored m c got tick) (low : i < m.count) :
    c.received[i]?.getD false = decide (i ∈ got) := by
  rw [known.received]
  simp [low]

/-- A duplicate only refreshes the time. -/
theorem receive_duplicate (known : Stored m c got tick) (partly : got.length < m.count) (low : i < m.count)
    (present : i ∈ got) (time : Option Duration) :
    c.receive_fragment i (m.piece i).bytes time = ({ c with last_received := time },.ok none) := by
  obtain ⟨middle,last⟩ := sizes_ok known low
  have number := known.number
  have num := known.num
  simp only [FragmentConstructor.receive_fragment,middle,last,↓reduceIte,is_received known low,present,decide_true]
  rw [if_neg (by omega)]

/-- A missing fragment is stored, and the last missing one gives the bytes back. -/
theorem receive_missing (decodes : m.Decodes lz4 config payload) (known : Stored m c got tick)
    (low : i < m.count) (missing : i ∉ got) (time : Option Duration) :
    ∃ c', Stored m c' (i :: got) tick ∧ c'.compression = c.compression ∧
      c.receive_fragment i (m.piece i).bytes time =
        if got.length + 1 = m.count then ({ c' with bytes := [] },.ok (some (tick,m.whole))) else (c',.ok none) := by
  obtain ⟨middle,last⟩ := sizes_ok known low
  have refreshed : Stored m { c with last_received := time } got tick :=
    ⟨known.num,known.size,known.distinct,known.inside,known.number,known.received,known.filled,known.first⟩
  obtain ⟨c',stored,held,flag⟩ := store_piece decodes refreshed low missing
  refine ⟨c',held,flag,?_⟩
  simp only [FragmentConstructor.receive_fragment,middle,last,↓reduceIte,is_received known low,missing,decide_false,
    stored,Bool.false_eq_true,held.number,held.num,List.length_cons,held.first]
  split
  · next full =>
    have whole : c'.bytes = m.whole := Chunks.filled_complete held.filled decodes.positive decodes.nonempty
      (all_of_length held.distinct held.inside full)
    rw [whole]
  · rfl

end Constructor

/-! ### The receiver -/

/-- Every call of `receive_fragment` touches at most the constructor of the fragment's message. -/
theorem receive_fragment_state (lz4 : Lz4) (self : FragmentReceiver) (fragment : FragmentData) (tick : Tick)
    (time : Option Duration) (config : CompressionConfig) :
    (∃ c, (self.receive_fragment lz4 fragment tick time config).1 =
      { self with fragment_messages := self.fragment_messages.insert fragment.message_id c }) ∨
    (self.receive_fragment lz4 fragment tick time config).1 =
      { self with fragment_messages := self.fragment_messages.erase fragment.message_id } ∨
    (self.receive_fragment lz4 fragment tick time config).1 = self := by
  simp only [FragmentReceiver.receive_fragment]
  split
  · exact .inr (.inr rfl)
  split
  · exact .inr (.inr rfl)
  split
  · exact .inr (.inr rfl)
  split
  · exact .inr (.inr rfl)
  split
  · exact .inl ⟨_,rfl⟩
  split
  · exact .inl ⟨_,rfl⟩
  · exact .inl ⟨_,rfl⟩
  split
  · exact .inl ⟨_,rfl⟩
  · exact .inr (.inl rfl)

theorem receive_fragment_size (lz4 : Lz4) (self : FragmentReceiver) (fragment : FragmentData) (tick : Tick)
    (time : Option Duration) (config : CompressionConfig) :
    (self.receive_fragment lz4 fragment tick time config).1.fragment_size = self.fragment_size := by
  rcases receive_fragment_state lz4 self fragment tick time config with ⟨c,state⟩ | state | state <;> rw [state]

theorem receive_fragment_other (lz4 : Lz4) (self : FragmentReceiver) (fragment : FragmentData) (tick : Tick)
    (time : Option Duration) (config : CompressionConfig) {id : MessageId} (other : id ≠ fragment.message_id) :
    (self.receive_fragment lz4 fragment tick time config).1.fragment_messages.lookup id =
      self.fragment_messages.lookup id := by
  rcases receive_fragment_state lz4 self fragment tick time config with ⟨c,state⟩ | state | state
  · simp [state,other]
  · simp [state,other]
  · rw [state]

/-- What a receiver holds of one message: no constructor, or one that is not complete. -/
def Holding (m : Fragmented) (self : FragmentReceiver) (got : List Nat) (tick : Tick) : Prop :=
  match self.fragment_messages.lookup m.message_id with
  | none => got = []
  | some c => Holds m c got tick ∧ got ≠ [] ∧ got.length < m.count

/-- The `i`-th fragment of `n` completes the ones in `got`. -/
def completes (n : Nat) (got : List Nat) (i : Nat) : Bool := decide (i ∉ got ∧ got.length + 1 = n)

/-- The fragments that are held once the `i`-th of `n` has arrived. -/
def gather (n : Nat) (got : List Nat) (i : Nat) : List Nat :=
  if i ∈ got then got else if got.length + 1 = n then [] else i :: got

theorem mem_gather {n : Nat} {got : List Nat} {i j : Nat} :
    j ∈ gather n got i ↔ completes n got i = false ∧ j ∈ i :: got := by
  simp only [gather,completes,decide_eq_false_iff_not,not_and,List.mem_cons]
  by_cases present : i ∈ got
  · simp only [present,↓reduceIte,not_true_eq_false,false_implies,true_and]
    constructor
    · exact .inr
    · rintro (rfl | old)
      · exact present
      · exact old
  · by_cases full : got.length + 1 = n
    · simp [present,full]
    · simp [present,full]

theorem gather_eq_nil {n : Nat} {got : List Nat} {i : Nat} : gather n got i = [] ↔ completes n got i = true := by
  simp only [gather,completes,decide_eq_true_eq]
  by_cases present : i ∈ got
  · simp [present,List.ne_nil_of_mem present]
  · by_cases full : got.length + 1 = n <;> simp [present,full]

section Receiver
variable {lz4 : Lz4} {config : CompressionConfig} {m : Fragmented} {payload : Bytes} {self : FragmentReceiver}
  {got : List Nat} {first : Tick} {i : Nat}

theorem holding_of_lookup_eq {other : FragmentReceiver}
    (same : other.fragment_messages.lookup m.message_id = self.fragment_messages.lookup m.message_id) :
    Holding m other got first ↔ Holding m self got first := by
  unfold Holding
  rw [same]

private theorem entry_piece (decodes : m.Decodes lz4 config payload) (size : self.fragment_size = m.size)
    (known : Holding m self got first) (tick : Tick) :
    ∃ c, self.entry m.message_id tick m.count = .ok c ∧ Holds m c got (if got = [] then tick else first) := by
  unfold Holding at known
  unfold FragmentReceiver.entry
  split at known
  · next absent =>
    subst known
    rw [absent,size]
    exact new_stored decodes tick
  · next c present =>
    rw [present,if_neg known.2.1]
    exact ⟨c,rfl,known.1⟩

private theorem prepare_piece {c : FragmentConstructor} (known : Holds m c got first) :
    ∃ c', FragmentReceiver.prepare c (m.piece i) = (c',.ok ()) ∧ Stored m c' got first ∧
      c'.compression = if 0 ∈ i :: got then some m.compression else none := by
  have flag := known.flag
  have sameCount : ¬ c.num_fragments ≠ m.count := not_not.mpr known.num
  simp only [FragmentReceiver.prepare,Fragmented.piece,sameCount,↓reduceIte]
  by_cases initial : i = 0
  · subst initial
    simp only [↓reduceIte]
    by_cases present : 0 ∈ got
    · rw [if_pos present] at flag
      exact ⟨c,by simp [FragmentConstructor.set_compression,flag],known.toStored,by simp [flag]⟩
    · rw [if_neg present] at flag
      exact ⟨{ c with compression := some m.compression },by simp [FragmentConstructor.set_compression,flag],
        ⟨known.num,known.size,known.distinct,known.inside,known.number,known.received,known.filled,
        known.first⟩,by simp⟩
  · simp only [initial,↓reduceIte]
    refine ⟨c,rfl,known.toStored,?_⟩
    simp [flag,Ne.symm initial]

/-- The step lemma: a fragment that was missing is gathered, the last one gives the payload. -/
theorem receive_piece (decodes : m.Decodes lz4 config payload) (size : self.fragment_size = m.size)
    (known : Holding m self got first) (low : i < m.count) (tick : Tick) (time : Option Duration) :
    (self.receive_fragment lz4 (m.piece i) tick time config).2 =
      .ok (if completes m.count got i then some (if got = [] then tick else first,payload) else none) ∧
    Holding m (self.receive_fragment lz4 (m.piece i) tick time config).1 (gather m.count got i)
      (if got = [] then tick else first) := by
  obtain ⟨c,entered,held⟩ := entry_piece decodes size known tick
  obtain ⟨c',prepared,stored,flag⟩ := prepare_piece (i := i) held
  have partly : got.length < m.count := by
    have positive := decodes.count_pos
    unfold Holding at known
    split at known
    · simpa [known] using positive
    · exact known.2.2
  have fits : m.count ≤ usize_max := by
    have room : m.count * m.size < m.whole.length + m.size := Chunks.count_mul_lt decodes.positive
    have := Nat.le_mul_of_pos_right m.count decodes.positive
    have := decodes.fits
    omega
  have fields : (m.piece i).num_fragments = m.count ∧ (m.piece i).fragment_id = i ∧
      (m.piece i).message_id = m.message_id := ⟨rfl,rfl,rfl⟩
  have positive : ¬ m.count = 0 := by omega
  have inside : ¬ i ≥ m.count := by omega
  have bounded : ¬ m.count > usize_max := by omega
  simp only [FragmentReceiver.receive_fragment,fields,positive,inside,bounded,entered,prepared,↓reduceIte]
  by_cases present : i ∈ got
  · rw [receive_duplicate stored partly low present time]
    have nonempty : got ≠ [] := List.ne_nil_of_mem present
    refine ⟨by simp [completes,present],?_⟩
    simp only [Holding,AList.lookup_insert,gather,present,↓reduceIte]
    refine ⟨⟨⟨stored.num,stored.size,stored.distinct,stored.inside,stored.number,stored.received,stored.filled,
      stored.first⟩,?_⟩,nonempty,partly⟩
    rw [flag]
    by_cases initial : i = 0
    · subst initial; simp [present]
    · simp [Ne.symm initial]
  obtain ⟨c'',held',kept,received⟩ := receive_missing decodes stored low present time
  rw [received]
  by_cases full : got.length + 1 = m.count
  · have all : 0 ∈ i :: got := all_of_length held'.distinct held'.inside (by simpa using full) 0 decodes.count_pos
    rw [if_pos all] at flag
    simp only [full,↓reduceIte,kept,flag,decodes.decoded]
    refine ⟨by simp [completes,present,full,Except.map],?_⟩
    simp [Holding,gather,present,full]
  · simp only [full,↓reduceIte]
    refine ⟨by simp [completes,full],?_⟩
    simp only [Holding,AList.lookup_insert,gather,present,full,↓reduceIte]
    refine ⟨⟨held',?_⟩,by simp,by simp only [List.length_cons]; omega⟩
    rw [kept,flag]

theorem holding_facts (decodes : m.Decodes lz4 config payload) (known : Holding m self got first) :
    got.Nodup ∧ (∀ i ∈ got, i < m.count) ∧ got.length < m.count := by
  unfold Holding at known
  split at known
  · subst known
    exact ⟨List.nodup_nil,by simp,decodes.count_pos⟩
  · exact ⟨known.1.distinct,known.1.inside,known.2.2⟩

/-- A fragment completes a message when every other one is held and it is not. -/
theorem completes_iff (decodes : m.Decodes lz4 config payload) (known : Holding m self got first) (low : i < m.count) :
    completes m.count got i = true ↔ ∀ j < m.count, j ∈ i :: got := by
  obtain ⟨distinct,inside,partly⟩ := holding_facts decodes known
  simp only [completes,decide_eq_true_eq]
  constructor
  · rintro ⟨missing,full⟩
    refine all_of_length (List.nodup_cons.mpr ⟨missing,distinct⟩) ?_ (by simpa using full)
    intro j member
    rcases List.mem_cons.mp member with rfl | old
    · exact low
    · exact inside j old
  · intro all
    have missing : i ∉ got := by
      intro present
      have covered : Finset.range m.count ⊆ got.toFinset := by
        intro j member
        rcases List.mem_cons.mp (all j (Finset.mem_range.mp member)) with rfl | old
        · exact List.mem_toFinset.mpr present
        · exact List.mem_toFinset.mpr old
      have size := Finset.card_le_card covered
      have := List.toFinset_card_le got
      rw [Finset.card_range] at size
      omega
    have covered : Finset.range m.count ⊆ (i :: got).toFinset :=
      fun j member => List.mem_toFinset.mpr (all j (Finset.mem_range.mp member))
    have size := Finset.card_le_card covered
    have := List.toFinset_card_le (i :: got)
    rw [Finset.card_range] at size
    simp only [List.length_cons] at this
    exact ⟨missing,by omega⟩

end Receiver

/-! ### A whole delivery order -/

/-- A fragment that arrives, with the tick of its packet and the time. -/
structure Delivery where
  fragment : FragmentData
  tick : Tick
  time : Option Duration

/-- The receiver after a delivery order. -/
def received (lz4 : Lz4) (config : CompressionConfig) (self : FragmentReceiver) (order : List Delivery) :
    FragmentReceiver :=
  order.foldl (fun self d => (self.receive_fragment lz4 d.fragment d.tick d.time config).1) self

/-- What the receiver returns for the delivery that comes after a delivery order. -/
def answer (lz4 : Lz4) (config : CompressionConfig) (self : FragmentReceiver) (before : List Delivery) (d : Delivery) :
    Except ChannelReceiveError (Option (Tick × Bytes)) :=
  ((received lz4 config self before).receive_fragment lz4 d.fragment d.tick d.time config).2

/-- Every fragment of the message was delivered. -/
def Complete (fragments : List FragmentData) (order : List Delivery) : Prop :=
  ∀ fragment ∈ fragments, ∃ d ∈ order, d.fragment = fragment

instance (fragments : List FragmentData) (order : List Delivery) : Decidable (Complete fragments order) :=
  inferInstanceAs (Decidable (∀ fragment ∈ fragments, ∃ d ∈ order, d.fragment = fragment))

/-- The deliveries of a message's fragments since they were last complete, the last one first. -/
def since (fragments : List FragmentData) (order : List Delivery) : List Delivery :=
  order.foldl (fun got d =>
    if d.fragment ∉ fragments then got else if Complete fragments (d :: got) then [] else d :: got) []

/-- The delivery order has no fragments under the message's id but the message's own. -/
def Own (id : MessageId) (fragments : List FragmentData) (order : List Delivery) : Prop :=
  ∀ d ∈ order, d.fragment.message_id = id → d.fragment ∈ fragments

theorem since_snoc (fragments : List FragmentData) (order : List Delivery) (d : Delivery) :
    since fragments (order ++ [d]) =
      if d.fragment ∉ fragments then since fragments order
      else if Complete fragments (d :: since fragments order) then [] else d :: since fragments order := by
  simp [since]

theorem since_subset {fragments : List FragmentData} {order : List Delivery} {d : Delivery}
    (member : d ∈ since fragments order) : d ∈ order := by
  induction order using List.reverseRecOn with
  | nil => simp [since] at member
  | append_singleton order e ih =>
    rw [since_snoc] at member
    split at member
    · exact List.mem_append_left _ (ih member)
    · split at member
      · simp at member
      · rcases List.mem_cons.mp member with rfl | old
        · simp
        · exact List.mem_append_left _ (ih old)

/-- Before the fragments are complete for the first time, none of them is forgotten. -/
theorem since_of_not_complete {fragments : List FragmentData} {order : List Delivery}
    (never : ¬ Complete fragments order) :
    since fragments order = (order.filter (fun d => decide (d.fragment ∈ fragments))).reverse := by
  induction order using List.reverseRecOn with
  | nil => rfl
  | append_singleton order d ih =>
    have before : ¬ Complete fragments order := by
      intro complete
      refine never fun fragment member => ?_
      obtain ⟨e,inside,same⟩ := complete fragment member
      exact ⟨e,List.mem_append_left _ inside,same⟩
    rw [since_snoc,ih before]
    by_cases own : d.fragment ∈ fragments
    · have still : ¬ Complete fragments
          (d :: (order.filter (fun d => decide (d.fragment ∈ fragments))).reverse) := by
        intro complete
        refine never fun fragment member => ?_
        obtain ⟨e,inside,same⟩ := complete fragment member
        rcases List.mem_cons.mp inside with rfl | old
        · exact ⟨e,by simp,same⟩
        · exact ⟨e,List.mem_append_left _ (List.mem_of_mem_filter (List.mem_reverse.mp old)),same⟩
      rw [if_neg (not_not.mpr own),if_neg still]
      simp [own]
    · rw [if_pos own]
      simp [own]

section Order
variable {lz4 : Lz4} {config : CompressionConfig} {m : Fragmented} {payload : Bytes} {self : FragmentReceiver}

/-- What is known of the receiver after a delivery order. -/
private structure Gathered (m : Fragmented) (receiver : FragmentReceiver) (deliveries : List Delivery)
    (got : List Nat) (first : Tick) : Prop where
  size : receiver.fragment_size = m.size
  holding : Holding m receiver got first
  same : ∀ i < m.count, i ∈ got ↔ ∃ d ∈ deliveries, d.fragment = m.piece i
  empty : got = [] ↔ deliveries = []
  tick : ∀ nonempty : deliveries ≠ [], first = (deliveries.getLast nonempty).tick

private theorem piece_eq_iff {a b : Nat} : m.piece a = m.piece b ↔ a = b :=
  ⟨fun same => congrArg FragmentData.fragment_id same,fun same => by rw [same]⟩

private theorem gathered_cons {deliveries : List Delivery} {got : List Nat} {first : Tick}
    (known : Gathered m self deliveries got first) {d : Delivery} {i : Nat} (isPiece : d.fragment = m.piece i) :
    ∀ j < m.count, j ∈ i :: got ↔ ∃ e ∈ d :: deliveries, e.fragment = m.piece j := by
  intro j low
  rw [List.mem_cons,known.same j low,List.exists_mem_cons_iff,isPiece,piece_eq_iff,eq_comm]

private theorem complete_iff {deliveries : List Delivery} {got : List Nat} {first : Tick}
    (known : Gathered m self deliveries got first) {d : Delivery} {i : Nat} (isPiece : d.fragment = m.piece i) :
    Complete m.pieces (d :: deliveries) ↔ ∀ j < m.count, j ∈ i :: got := by
  simp only [Complete,Fragmented.pieces,List.forall_mem_map,List.mem_range]
  exact forall₂_congr fun j low => (gathered_cons known isPiece j low).symm

private theorem answer_gathered (decodes : m.Decodes lz4 config payload) {deliveries : List Delivery} {got : List Nat}
    {first : Tick} (known : Gathered m self deliveries got first) {d : Delivery} (own : d.fragment ∈ m.pieces) :
    (self.receive_fragment lz4 d.fragment d.tick d.time config).2 =
      .ok (if Complete m.pieces (d :: deliveries) then
        some (((d :: deliveries).getLast (List.cons_ne_nil _ _)).tick,payload) else none) ∧
    ∃ got' first', Gathered m (self.receive_fragment lz4 d.fragment d.tick d.time config).1
      (if Complete m.pieces (d :: deliveries) then [] else d :: deliveries) got' first' := by
  obtain ⟨i,low,isPiece⟩ := List.mem_map.mp own
  rw [List.mem_range] at low
  have completed := completes_iff decodes known.holding low
  rw [← complete_iff known isPiece.symm] at completed
  have tick : (if got = [] then d.tick else first) = ((d :: deliveries).getLast (List.cons_ne_nil _ _)).tick := by
    by_cases nothing : got = []
    · have none := known.empty.mp nothing
      subst none
      simp [nothing]
    · have some := fun none => nothing (known.empty.mpr none)
      rw [if_neg nothing,known.tick some,List.getLast_cons some]
  obtain ⟨returned,holding⟩ := receive_piece decodes known.size known.holding low d.tick d.time
  rw [tick] at returned holding
  rw [← isPiece]
  by_cases all : Complete m.pieces (d :: deliveries)
  · rw [if_pos all,if_pos all]
    have last := completed.mpr all
    rw [returned,if_pos last]
    have nothing := gather_eq_nil.mpr last
    exact ⟨rfl,gather m.count got i,_,⟨(receive_fragment_size ..).trans known.size,holding,by simp [nothing],
      by simp [nothing],by simp⟩⟩
  · rw [if_neg all,if_neg all]
    have more : completes m.count got i = false := Bool.eq_false_iff.mpr fun last => all (completed.mp last)
    rw [returned,more]
    refine ⟨rfl,gather m.count got i,_,⟨(receive_fragment_size ..).trans known.size,holding,?_,?_,fun _ => rfl⟩⟩
    · intro j inside
      rw [mem_gather,gathered_cons known isPiece.symm j inside]
      simp [more]
    · rw [gather_eq_nil]
      simp [more]

/-- The invariant of a delivery order. -/
private theorem gathered_received (decodes : m.Decodes lz4 config payload) {start : FragmentReceiver}
    (size : start.fragment_size = m.size) (fresh : start.fragment_messages.lookup m.message_id = none)
    {order : List Delivery} (own : Own m.message_id m.pieces order) :
    ∃ got first, Gathered m (received lz4 config start order) (since m.pieces order) got first := by
  induction order using List.reverseRecOn with
  | nil =>
    refine ⟨[],0,⟨size,?_,by simp [since],by simp [since],by simp [since]⟩⟩
    simp [Holding,received,fresh]
  | append_singleton order d ih =>
    obtain ⟨got,first,known⟩ := ih (fun e member => own e (List.mem_append_left _ member))
    have last : received lz4 config start (order ++ [d]) =
        ((received lz4 config start order).receive_fragment lz4 d.fragment d.tick d.time config).1 := by
      simp [received]
    rw [last,since_snoc]
    by_cases mine : d.fragment ∈ m.pieces
    · rw [if_neg (not_not.mpr mine)]
      exact (answer_gathered decodes known mine).2
    · have other : m.message_id ≠ d.fragment.message_id := fun same => mine (own d (by simp) same.symm)
      rw [if_pos mine]
      exact ⟨got,first,⟨(receive_fragment_size ..).trans known.size,
        (holding_of_lookup_eq (receive_fragment_other _ _ _ _ _ _ other)).mpr known.holding,known.same,known.empty,
        known.tick⟩⟩

end Order

/-- Fragmentation round trip. A delivery of a fragment returns the payload exactly when it
    completes the fragments delivered since they were last complete: for the first time when the
    last missing one arrives, and nothing before. -/
theorem fragments_round_trip {lz4 : Lz4} (inverts : lz4.Inverts) (sender : FragmentSender) (id : MessageId)
    (payload : Bytes) (config : CompressionConfig) (large : sender.fragment_size < payload.length)
    (fits : payload.length ≤ isize_max) :
    ∃ fragments, sender.build_fragments_for_message lz4 id payload config = some fragments ∧
      ∀ before d, Own id fragments (before ++ [d]) → d.fragment ∈ fragments →
        answer lz4 config (.new sender.fragment_size sender.positive) before d =
          .ok (if Complete fragments (d :: since fragments before) then
            some (((d :: since fragments before).getLast (List.cons_ne_nil _ _)).tick,payload) else none) ∧
        (¬ Complete fragments (before ++ [d]) →
          answer lz4 config (.new sender.fragment_size sender.positive) before d = .ok none) ∧
        (Complete fragments (before ++ [d]) → ¬ Complete fragments before →
          ∃ tick, answer lz4 config (.new sender.fragment_size sender.positive) before d =
            .ok (some (tick,payload))) := by
  have decodes : (cut lz4 sender id payload config).Decodes lz4 config payload := cut_decodes inverts large fits
  have sameId := cut_message_id lz4 sender id payload config
  have size := cut_size lz4 sender id payload config
  refine ⟨_,build_fragments_cut large,fun before d own mine => ?_⟩
  generalize cut lz4 sender id payload config = m at *
  subst sameId
  obtain ⟨got,first,known⟩ := @gathered_received _ _ _ _ decodes (.new sender.fragment_size sender.positive)
    (by simp [FragmentReceiver.new,size]) (by simp [FragmentReceiver.new])
    before (fun e member => own e (List.mem_append_left _ member))
  have returned : answer lz4 config (.new sender.fragment_size sender.positive) before d = _ :=
    (answer_gathered decodes known mine).1
  refine ⟨returned,?_,?_⟩
  · intro never
    have still : ¬ Complete m.pieces (d :: since m.pieces before) := by
      intro all
      refine never fun fragment member => ?_
      obtain ⟨e,inside,same⟩ := all fragment member
      rcases List.mem_cons.mp inside with rfl | old
      · exact ⟨e,by simp,same⟩
      · exact ⟨e,List.mem_append_left _ (since_subset old),same⟩
    rw [returned,if_neg still]
  · intro all never
    have full : Complete m.pieces (d :: since m.pieces before) := by
      intro fragment member
      obtain ⟨e,inside,same⟩ := all fragment member
      rw [since_of_not_complete never]
      rcases List.mem_append.mp inside with old | new
      · exact ⟨e,by simp [old,same,member],same⟩
      · exact ⟨e,by simp_all,same⟩
    rw [returned,if_pos full]
    exact ⟨_,rfl⟩

theorem fragments_round_trip_short :
    let fragment : Nat → Delivery := fun i => ⟨(Fragmented.mk .zero 2 [1,2,3] .None).piece i,0,none⟩
    (FragmentSender.mk 2 (by decide)).build_fragments_for_message .literals .zero [1,2,3] .LZ4 =
      some [(fragment 0).fragment,(fragment 1).fragment] ∧
    ∃ tick, answer .literals .LZ4 (.new 2 (by decide)) [fragment 1,fragment 1] (fragment 0) =
      .ok (some (tick,[1,2,3])) := by
  intro fragment
  obtain ⟨fragments,built,returned⟩ := fragments_round_trip literals_inverts (.mk 2 (by decide)) .zero [1,2,3] .LZ4
    (by decide) (by decide)
  have computed : (FragmentSender.mk 2 (by decide)).build_fragments_for_message .literals .zero [1,2,3] .LZ4 =
      some [(fragment 0).fragment,(fragment 1).fragment] := by decide
  obtain rfl : fragments = [(fragment 0).fragment,(fragment 1).fragment] :=
    Option.some.inj (built.symm.trans computed)
  exact ⟨computed,(returned [fragment 1,fragment 1] (fragment 0) (by unfold Own; decide) (by decide)).2.2
    (by decide) (by decide)⟩

/-- The receiver forgets a message that it has returned, so a second copy of every fragment
    returns it again. -/
theorem fragments_return_twice :
    let fragment : Nat → Delivery := fun i => ⟨(Fragmented.mk .zero 2 [1,2,3] .None).piece i,0,none⟩
    (FragmentSender.mk 2 (by decide)).build_fragments_for_message .literals .zero [1,2,3] .LZ4 =
      some [(fragment 0).fragment,(fragment 1).fragment] ∧
    answer .literals .LZ4 (.new 2 (by decide)) [fragment 0] (fragment 1) = .ok (some (0,[1,2,3])) ∧
    answer .literals .LZ4 (.new 2 (by decide)) [fragment 0,fragment 1,fragment 0] (fragment 1) =
      .ok (some (0,[1,2,3])) := by
  decide

end Lightyear.Reassembly
