import Lightyear.Maps
import Lightyear.ToBytes

/-!
The memory that the containers of the `serde` crate ask for while they are decoded. The length of a container is
read first, and room for as many items is reserved before any of them is read.
-/
namespace Lightyear.Allocation
open Codec
open Lightyear.Message Lightyear.Serde ToBytes

/-- How a decoder ends without a result: it panics, or the allocator fails. -/
inductive Abrupt where
  | CapacityOverflow
  | AllocError
deriving DecidableEq, Repr

abbrev Decoder (M : Type) := StateT Bytes (ExceptT SerializationError (Except Abrupt)) M

section Decoders
variable {M N : Type}

def read (reader : Reader M) : Decoder M := fun input => ExceptT.mk (.ok (reader input))

/-- A request for memory: no allocation is larger than a slice can be, and the allocator decides on the others. -/
def reserve (grants : Nat → Bool) (bytes : Nat) : Decoder Unit := fun input =>
  ExceptT.mk
    (if bytes > isize_max then .error .CapacityOverflow
    else if bytes = 0 ∨ grants bytes = true then .ok (.ok ((),input))
    else .error .AllocError)

def Granted (grants : Nat → Bool) (bytes : Nat) : Prop := bytes ≤ isize_max ∧ (bytes = 0 ∨ grants bytes = true)

/-- What is asked for first, and after what was read then. -/
def asks_then (asks : Bytes → List Nat) (reader : Reader M) (next : M → Bytes → List Nat) (input : Bytes) : List Nat :=
  asks input ++ match reader input with
    | .ok (value,rest) => next value rest
    | .error _ => []

/-- A decoder does what a reader does as long as its requests are granted. -/
structure Agrees (grants : Nat → Bool) (decoder : Decoder M) (reader : Reader M) (asks : Bytes → List Nat) : Prop where
  granted : ∀ input, (∀ bytes ∈ asks input, Granted grants bytes) → (decoder input).run = .ok (reader input)
  refused : ∀ input, (∃ bytes ∈ asks input, ¬Granted grants bytes) → ∃ abrupt, (decoder input).run = .error abrupt

variable {grants : Nat → Bool}

theorem agrees_read (reader : Reader M) : Agrees grants (read reader) reader fun _ => [] :=
  ⟨fun _ _ => rfl,fun _ ⟨_,member,_⟩ => nomatch member⟩

theorem agrees_pure (value : M) : Agrees grants (pure value) (pure value) fun _ => [] :=
  ⟨fun _ _ => rfl,fun _ ⟨_,member,_⟩ => nomatch member⟩

theorem agrees_reserve (bytes : Nat) : Agrees grants (reserve grants bytes) (pure ()) fun _ => [bytes] := by
  constructor
  · intro input granted
    obtain ⟨small,given⟩ := granted bytes (List.mem_singleton_self bytes)
    simp only [reserve,if_neg (Nat.not_lt.mpr small),if_pos given]
    rfl
  · rintro input ⟨_,member,refused⟩
    obtain rfl := List.mem_singleton.mp member
    unfold reserve
    split
    next => exact ⟨_,rfl⟩
    next small =>
      rw [if_neg fun given => refused ⟨Nat.not_lt.mp small,given⟩]
      exact ⟨_,rfl⟩

theorem Agrees.bind {decoder : Decoder M} {reader : Reader M} {asks : Bytes → List Nat} {next : M → Decoder N}
    {next_reader : M → Reader N} {next_asks : M → Bytes → List Nat} (agrees : Agrees grants decoder reader asks)
    (next_agrees : ∀ value, Agrees grants (next value) (next_reader value) (next_asks value)) :
    Agrees grants (decoder >>= next) (reader >>= next_reader) (asks_then asks reader next_asks) := by
  have unfolded : ∀ input, ((decoder >>= next) input).run = (decoder input).run >>= fun answer =>
      match answer with
      | .ok (value,rest) => (next value rest).run
      | .error error => .ok (.error error) := by
    intro input
    change ((decoder input).run >>= ExceptT.bindCont fun (value,rest) => next value rest) = _
    congr 1
    funext answer
    cases answer <;> rfl
  have reads : ∀ input, (reader >>= next_reader) input =
      match reader input with
      | .ok (value,rest) => next_reader value rest
      | .error error => .error error := by
    intro input
    change (reader input >>= fun (value,rest) => next_reader value rest) = _
    cases reader input <;> rfl
  constructor
  · intro input granted
    simp only [asks_then,List.mem_append] at granted
    rw [unfolded,agrees.granted input fun bytes member => granted bytes (.inl member),reads]
    cases answer : reader input with
    | error error => rfl
    | ok found =>
      rw [answer] at granted
      exact (next_agrees found.1).granted found.2 fun bytes member => granted bytes (.inr member)
  · rintro input ⟨bytes,member,refused⟩
    rw [unfolded]
    by_cases granted : ∀ bytes ∈ asks input, Granted grants bytes
    · rw [agrees.granted input granted]
      rcases List.mem_append.mp member with member | member
      · exact absurd (granted bytes member) refused
      · cases answer : reader input with
        | error error =>
          rw [answer] at member
          cases member
        | ok found =>
          rw [answer] at member
          exact (next_agrees found.1).refused found.2 ⟨bytes,member,refused⟩
    · simp only [not_forall] at granted
      obtain ⟨bytes,member,refused⟩ := granted
      obtain ⟨abrupt,stops⟩ := agrees.refused input ⟨bytes,member,refused⟩
      rw [stops]
      exact ⟨abrupt,rfl⟩

/-- The last step of a decoder returns a value made of what was read. -/
theorem Agrees.map {decoder : Decoder M} {reader : Reader M} {asks : Bytes → List Nat} (make : M → N)
    (agrees : Agrees grants decoder reader asks) :
    Agrees grants (do let value ← decoder; pure (make value)) (do let value ← reader; pure (make value)) asks := by
  have bound := agrees.bind fun value => agrees_pure (make value)
  have same : asks_then asks reader (fun _ _ => []) = asks := by
    funext input
    unfold asks_then
    cases reader input <;> exact List.append_nil _
  rwa [same] at bound

/-- A decoder returns when all of its requests are granted. -/
theorem Agrees.returns_iff {decoder : Decoder M} {reader : Reader M} {asks : Bytes → List Nat}
    (agrees : Agrees grants decoder reader asks) (input : Bytes) :
    (∃ result, (decoder input).run = .ok result) ↔ ∀ bytes ∈ asks input, Granted grants bytes := by
  constructor
  · rintro ⟨result,returns⟩ bytes member
    by_contra refused
    obtain ⟨abrupt,stops⟩ := agrees.refused input ⟨bytes,member,refused⟩
    cases returns.symm.trans stops
  · exact fun granted => ⟨_,agrees.granted input granted⟩

end Decoders

/-! ### Decodable types -/

/-- The types that are decoded: those that are read without a request, and the containers of them. The sizes of the
    items in memory and of a hash table with room for so many entries are those of the target. -/
inductive Decodable : Type → Type 1
  | leaf {M : Type} (from_bytes : Reader M) : Decodable M
  | option {M : Type} (item : Decodable M) : Decodable (Option M)
  | pair {M N : Type} (first : Decodable M) (second : Decodable N) : Decodable (M × N)
  | vec {M : Type} (size_of_item : Nat) (item : Decodable M) : Decodable (List M)
  | small_vec {M : Type} (inline_capacity size_of_item : Nat) (item : Decodable M) : Decodable (List M)
  | hash_map {K V : Type} [DecidableEq K] (size_of_table : Nat → Nat) (key : Decodable K) (value : Decodable V) :
    Decodable (Maps.Map K V)

def Decodable.u8 : Decodable Byte := .leaf read_u8
def Decodable.varint : Decodable Nat := .leaf read_varint

/-- The bytes are a slice of the buffer. -/
def Decodable.bytes : Decodable Bytes := .leaf Bytes.from_bytes

/-- What `SmallVec::with_capacity` asks for: nothing as long as the items fit into the value itself. -/
def small_vec_bytes (inline_capacity size_of_item len : Nat) :
    Nat := if len ≤ inline_capacity then 0 else len * size_of_item

section Loops
variable {m : Type → Type} [Monad m] {M K V : Type}

/-- The loop of `HashMap::from_bytes`. -/
def entries [DecidableEq K] (key : m K) (value : m V) : Nat → Maps.Map K V → m (Maps.Map K V)
  | 0,res => pure res
  | len + 1,res => do
    let key_read ← key
    let value_read ← value
    entries key value len (res.insert key_read value_read)

end Loops

namespace Decodable

/-- `ToBytes::from_bytes` -/
def from_bytes (grants : Nat → Bool) : {M : Type} → Decodable M → Decoder M
  | _,.leaf from_bytes => read from_bytes
  | _,.option item => do
    let has_value ← read read_u8
    if has_value ≠ 0 then do
      let value ← item.from_bytes grants
      pure (some value)
    else pure none
  | _,.pair first second => do
    let first ← first.from_bytes grants
    let second ← second.from_bytes grants
    pure (first,second)
  | _,.vec size_of_item item => do
    let len ← read read_varint
    reserve grants (len * size_of_item)
    read_items (item.from_bytes grants) len
  | _,.small_vec inline_capacity size_of_item item => do
    let len ← read read_varint
    reserve grants (small_vec_bytes inline_capacity size_of_item len)
    read_items (item.from_bytes grants) len
  | _,@Decodable.hash_map K V _ size_of_table key value => do
    let len ← read read_varint
    reserve grants (size_of_table len)
    entries (key.from_bytes grants) (value.from_bytes grants) len (∅ : Maps.Map K V)

/-- What the bytes say, without any room for it. -/
def parse : {M : Type} → Decodable M → Reader M
  | _,.leaf from_bytes => from_bytes
  | _,.option item => do
    let has_value ← read_u8
    if has_value ≠ 0 then do
      let value ← item.parse
      pure (some value)
    else pure none
  | _,.pair first second => do
    let first ← first.parse
    let second ← second.parse
    pure (first,second)
  | _,.vec _ item | _,.small_vec _ _ item => do
    let len ← read_varint
    read_items item.parse len
  | _,@Decodable.hash_map K V _ _ key value => do
    let len ← read_varint
    entries key.parse value.parse len (∅ : Maps.Map K V)

/-- What is asked for while `len` items are read. -/
def items_ask (item : Reader M) (asks : Bytes → List Nat) : Nat → Bytes → List Nat
  | 0,_ => []
  | len + 1,input => asks_then asks item (fun _ => items_ask item asks len) input

def entries_ask (key : Reader K) (value : Reader V) (key_asks value_asks : Bytes → List Nat) : Nat → Bytes → List Nat
  | 0,_ => []
  | len + 1,input =>
    asks_then key_asks key
      (fun _ => asks_then value_asks value fun _ => entries_ask key value key_asks value_asks len) input

/-- The requests for memory, in bytes, when all of them are granted: one for every length that is read. -/
def requests : {M : Type} → Decodable M → Bytes → List Nat
  | _,.leaf _,_ => []
  | _,.option item,input =>
    asks_then (fun _ => []) read_u8 (fun has_value => if has_value ≠ 0 then item.requests else fun _ => []) input
  | _,.pair first second,input => asks_then first.requests first.parse (fun _ => second.requests) input
  | _,.vec size_of_item item,input =>
    asks_then (fun _ => []) read_varint
      (fun len input => len * size_of_item :: items_ask item.parse item.requests len input) input
  | _,.small_vec inline_capacity size_of_item item,input =>
    asks_then (fun _ => []) read_varint
      (fun len input => small_vec_bytes inline_capacity size_of_item len ::
        items_ask item.parse item.requests len input) input
  | _,@Decodable.hash_map _ _ _ size_of_table key value,input =>
    asks_then (fun _ => []) read_varint
      (fun len input => size_of_table len ::
        entries_ask key.parse value.parse key.requests value.requests len input) input

section Agrees
variable {grants : Nat → Bool} {M K V : Type}

private theorem items_agree {decoder : Decoder M} {reader : Reader M} {asks : Bytes → List Nat}
    (agrees : Agrees grants decoder reader asks) (len : Nat) :
    Agrees grants (read_items decoder len) (read_items reader len) (items_ask reader asks len) := by
  induction len with
  | zero => exact agrees_pure []
  | succ len ih => exact agrees.bind fun first => ih.map (first :: ·)

private theorem entries_agree [DecidableEq K] {key : Decoder K} {key_reader : Reader K} {key_asks : Bytes → List Nat}
    {value : Decoder V} {value_reader : Reader V} {value_asks : Bytes → List Nat}
    (key_agrees : Agrees grants key key_reader key_asks) (value_agrees : Agrees grants value value_reader value_asks)
    (len : Nat)
    (res : Maps.Map K V) : Agrees grants (entries key value len res) (entries key_reader value_reader len res)
      (entries_ask key_reader value_reader key_asks value_asks len) := by
  induction len generalizing res with
  | zero => exact agrees_pure res
  | succ len ih => exact key_agrees.bind fun k => value_agrees.bind fun v => ih (res.insert k v)

/-- A type is decoded as its bytes say, as long as the requests for memory are granted. -/
theorem from_bytes_agrees (grants : Nat → Bool) {M : Type} (codec : Decodable M) :
    Agrees grants (codec.from_bytes grants) codec.parse codec.requests := by
  induction codec with
  | leaf from_bytes => exact agrees_read from_bytes
  | option item ih =>
    refine (agrees_read read_u8).bind fun has_value => ?_
    split
    next => exact ih.map some
    next => exact agrees_pure none
  | pair first second ih_first ih_second => exact ih_first.bind fun first => ih_second.map (first,·)
  | vec size_of_item item ih =>
    exact (agrees_read read_varint).bind fun len => (agrees_reserve _).bind fun _ => items_agree ih len
  | small_vec inline_capacity size_of_item item ih =>
    exact (agrees_read read_varint).bind fun len => (agrees_reserve _).bind fun _ => items_agree ih len
  | hash_map size_of_table key value ih_key ih_value =>
    exact (agrees_read read_varint).bind fun len => (agrees_reserve _).bind fun _ => entries_agree ih_key ih_value len ∅

end Agrees

end Decodable

/-- Whatever the bytes are, decoding them returns exactly when the memory that is asked for can be had: for every
    length that is reached, at most as much as a slice can be large, and as much as the allocator grants. -/
theorem returns_iff_granted (grants : Nat → Bool) {M : Type} (codec : Decodable M) (input : Bytes) :
    (∃ result, (codec.from_bytes grants input).run = .ok result) ↔
      ∀ bytes ∈ codec.requests input, Granted grants bytes :=
  (Decodable.from_bytes_agrees grants codec).returns_iff input

/-- Nothing but a length of 8 bytes, in front of items of 32 bytes each. -/
theorem capacity_overflows :
    (Decodable.from_bytes (fun _ => true) (.vec 32 .bytes) (List.replicate 8 255)).run = .error .CapacityOverflow := by
  decide

end Lightyear.Allocation
