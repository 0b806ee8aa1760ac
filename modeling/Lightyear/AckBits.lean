import Lightyear.Ids
import Lightyear.Ring

/-!
`ReceiveBuffer` of `transport/packet/header.rs`: the id of the newest packet
received and one bit for each of the 32 ids before it.
-/
namespace Lightyear.AckBits
open Lightyear.Ids Lightyear.Ids.WrappingId

/-- `ACK_BITFIELD_SIZE` -/
abbrev ack_bitfield_size : Nat := 32

/-- `ReceiveBuffer`, with its `ConstGenericRingBuffer<bool, 32>` as a full ring. -/
structure ReceiveBuffer where
  last_recv_packet_id : Option PacketId
  buffer : Ring.Buffer Bool ack_bitfield_size
deriving DecidableEq

namespace ReceiveBuffer

/-- `ReceiveBuffer::new` -/
def new : ReceiveBuffer := ⟨none,Ring.fill ack_bitfield_size false⟩

/-- `ReceiveBuffer::recv_packet` -/
def recv_packet (self : ReceiveBuffer) (id : PacketId) : ReceiveBuffer :=
  match self.last_recv_packet_id with
  | none => { self with last_recv_packet_id := some id }
  | some last =>
    let bitfield_size : Int := ack_bitfield_size
    let diff := last.sub id
    if diff > bitfield_size then self
    else if diff > 0 then
      -- `get_mut_signed(-diff)`
      { self with buffer := Ring.setBack self.buffer diff.toNat true }
    else if diff < 0 then
      { last_recv_packet_id := some id,
        buffer :=
          if diff < -(bitfield_size + 1) then Ring.fill ack_bitfield_size false
          else (fun ring => Ring.enqueue ring false)^[diff.natAbs - 1] (Ring.enqueue self.buffer true) }
    else self

/-- The loop of `ReceiveBuffer::get_bitfield`: the accumulated bits and the mask. -/
def push_bit (state : BitVec 32 × BitVec 32) (present : Bool) : BitVec 32 × BitVec 32 :=
  (if present then state.1 ||| state.2 else state.1,state.2 >>> 1)

/-- `ReceiveBuffer::get_bitfield` -/
def get_bitfield (self : ReceiveBuffer) : BitVec 32 :=
  ((Ring.iter self.buffer).foldl push_bit (0,(1 : BitVec 32) <<< (ack_bitfield_size - 1))).1

end ReceiveBuffer
open ReceiveBuffer

/-- The receive buffer after a sequence of packet ids. -/
def received (ids : List PacketId) : ReceiveBuffer := ids.foldl recv_packet new

/-- Bits from the most significant one down, as the mask goes over them. -/
private theorem foldl_push_bit (bits : List Bool) (ack : BitVec 32) (top : Nat) (fits : bits.length ≤ top + 1)
    (inside : top < 32) (i : Nat) (low : i < 32) :
    (bits.foldl push_bit (ack,BitVec.twoPow 32 top)).1.getLsbD i =
      (ack.getLsbD i || (decide (i ≤ top) && (bits[top - i]?.getD false))) := by
  induction bits generalizing ack top with
  | nil => simp
  | cons present bits ih =>
    have head : ∀ present : Bool, (push_bit (ack,BitVec.twoPow 32 top) present).1.getLsbD i =
        (ack.getLsbD i || (decide (i = top) && present)) := by
      intro present
      cases present
      · simp [push_bit]
      · simp [push_bit,low]
    cases top with
    | zero =>
      have last : bits = [] := by
        have : bits.length = 0 := by simpa using fits
        exact List.length_eq_zero_iff.mp this
      subst last
      simp only [List.foldl_cons,List.foldl_nil,head]
      cases i <;> simp
    | succ top =>
      have shifted : push_bit (ack,BitVec.twoPow 32 (top + 1)) present =
          ((push_bit (ack,BitVec.twoPow 32 (top + 1)) present).1,BitVec.twoPow 32 top) := by
        apply Prod.ext
        · rfl
        · apply BitVec.eq_of_getLsbD_eq
          intro j inside'
          simp only [push_bit,BitVec.getLsbD_ushiftRight,BitVec.getLsbD_twoPow]
          by_cases same : j = top
          · simp [same,show 1 + top = top + 1 by omega,inside,show top < 32 by omega]
          · simp [show ¬ top + 1 = 1 + j by omega,show ¬ top = j by omega]
      rw [List.foldl_cons,shifted,ih _ top (by simpa using fits) (by omega),head]
      rcases Nat.lt_trichotomy i (top + 1) with less | same | more
      · simp [show i ≤ top by omega,show i ≤ top + 1 by omega,show ¬ i = top + 1 by omega,
          show top + 1 - i = (top - i) + 1 by omega]
      · simp [same]
      · simp [show ¬ i ≤ top by omega,show ¬ i ≤ top + 1 by omega,show ¬ i = top + 1 by omega]

/-- Bit `i` of the bitfield is the `i`-th last element of the ring. -/
theorem get_bitfield_bit (self : ReceiveBuffer) {i : Nat} (low : i < 32) :
    self.get_bitfield.getLsbD i = (Ring.get? self.buffer i).getD false := by
  have size : (Ring.iter self.buffer).length = 32 := by simp [Ring.iter,self.buffer.full,ack_bitfield_size]
  have start : (1 : BitVec 32) <<< (ack_bitfield_size - 1) = BitVec.twoPow 32 31 := by decide
  rw [get_bitfield,start,foldl_push_bit _ _ 31 (by omega) (by omega) i low]
  have back : (Ring.iter self.buffer)[31 - i]? = Ring.get? self.buffer i := by
    have inside : 31 - i < self.buffer.items.length := by rw [self.buffer.full,ack_bitfield_size]; omega
    rw [Ring.iter,List.getElem?_reverse inside,self.buffer.full,Ring.get?]
    congr 1
    simp only [ack_bitfield_size]; omega
  simp [back,show i ≤ 31 by omega]

/-- What a receive buffer stands for: the newest of the packets seen, and for each
    of the 32 packets before it whether it was seen. -/
structure Exact (recv : ReceiveBuffer) (seen : List Int) (newest : Int) : Prop where
  last : recv.last_recv_packet_id = some (ofIndex newest)
  member : newest ∈ seen
  above : ∀ n ∈ seen, n ≤ newest
  bits : ∀ i < 32, Ring.get? recv.buffer i = some (decide (newest - 1 - i ∈ seen))

/-- The first packet of a connection. -/
theorem exact_first (n : Int) : Exact (new.recv_packet (ofIndex n)) [n] n := by
  refine ⟨rfl,by simp,by simp,?_⟩
  intro i low
  have no : ¬ n - 1 - (i : Int) = n := by omega
  simpa [recv_packet,new,no] using
      (Ring.get?_fill low : Ring.get? (Ring.fill ack_bitfield_size false) i = some false)

/-- A packet that is not newer, and at most 32 packets old, sets its own bit. -/
private theorem exact_older {self : ReceiveBuffer} {seen : List Int} {newest n : Int} (known : Exact self seen newest)
    (older : n ≤ newest) (near : newest - 2 ^ 15 < n) : Exact (self.recv_packet (ofIndex n)) (seen ++ [n]) newest := by
  have diff : (ofIndex newest).sub (ofIndex n) = newest - n := sub_ofIndex (by omega) (by omega)
  have above : ∀ m ∈ seen ++ [n], m ≤ newest := by
    intro m member
    rcases List.mem_append.mp member with old | new
    · exact known.above m old
    · simp only [List.mem_singleton] at new; omega
  have member : newest ∈ seen ++ [n] := List.mem_append_left _ known.member
  simp only [recv_packet,known.last,diff,ack_bitfield_size]
  by_cases tooOld : newest - n > 32
  · rw [if_pos (by simpa using tooOld)]
    refine ⟨known.last,member,above,fun i low => ?_⟩
    have other : ¬ newest - 1 - (i : Int) = n := by omega
    simp [known.bits i low,other]
  rw [if_neg (by simpa using tooOld)]
  by_cases strict : newest - n > 0
  · rw [if_pos strict]
    refine ⟨rfl,member,above,fun i low => ?_⟩
    rw [Ring.get?_setBack _ _ (by omega) low]
    by_cases same : i + 1 = (newest - n).toNat
    · have own : newest - 1 - (i : Int) = n := by omega
      simp [same,own]
    · have other : ¬ newest - 1 - (i : Int) = n := by omega
      simp [same,other,known.bits i low]
  · have same : n = newest := by omega
    subst same
    simp only [sub_self,gt_iff_lt,lt_self_iff_false,↓reduceIte]
    refine ⟨known.last,member,above,fun i low => ?_⟩
    have other : ¬ n - 1 - (i : Int) = n := by omega
    simp [known.bits i low,other]

/-- A newer packet shifts the bits by its lead, the old newest packet with them. -/
private theorem exact_newer {self : ReceiveBuffer} {seen : List Int} {newest n : Int} (known : Exact self seen newest)
    (newer : newest < n) (near : n ≤ newest + 2 ^ 15) : Exact (self.recv_packet (ofIndex n)) (seen ++ [n]) n := by
  have diff : (ofIndex newest).sub (ofIndex n) = newest - n := sub_ofIndex (by omega) (by omega)
  have above : ∀ m ∈ seen ++ [n], m ≤ n := by
    intro m member
    rcases List.mem_append.mp member with old | new
    · have := known.above m old; omega
    · simp only [List.mem_singleton] at new; omega
  have unseen : ∀ m, newest < m → m ∉ seen := fun m later member => by
    have := known.above m member; omega
  simp only [recv_packet,known.last,diff,ack_bitfield_size]
  rw [if_neg (by simp; omega),if_neg (by omega),if_pos (by omega)]
  refine ⟨rfl,by simp,above,fun i low => ?_⟩
  have other : ¬ n - 1 - (i : Int) = n := by omega
  simp only [List.mem_append,List.mem_singleton,other,or_false]
  by_cases far : newest - n < -(((32 : Nat) : Int) + 1)
  · rw [if_pos far,Ring.get?_fill low]
    simp [unseen (n - 1 - i) (by omega)]
  rw [if_neg far,Ring.get?_iterate_enqueue _ _ _ low]
  -- Packets between the old and the new newest one, the old one, and those before it.
  by_cases between : i < (newest - n).natAbs - 1
  · rw [if_pos between]
    simp [unseen (n - 1 - i) (by omega)]
  rw [if_neg between]
  by_cases old : i = (newest - n).natAbs - 1
  · have own : n - 1 - (i : Int) = newest := by omega
    rw [show i - ((newest - n).natAbs - 1) = 0 by omega,Ring.get?_enqueue_zero _ _ (by decide)]
    simp [own,known.member]
  · have shift : i - ((newest - n).natAbs - 1) = (i - (newest - n).natAbs) + 1 := by omega
    rw [shift,Ring.get?_enqueue_succ _ _ (by omega),known.bits _ (by omega)]
    have same : newest - 1 - ((i - (newest - n).natAbs : Nat) : Int) = n - 1 - i := by omega
    rw [same]

/-- What one packet does. -/
theorem exact_recv {self : ReceiveBuffer} {seen : List Int} {newest n : Int} (known : Exact self seen newest)
    (low : newest - 2 ^ 15 < n) (high : n ≤ newest + 2 ^ 15) :
    Exact (self.recv_packet (ofIndex n)) (seen ++ [n]) (Max.max newest n) := by
  rcases le_or_gt n newest with older | newer
  · rw [max_eq_left older]; exact exact_older known older low
  · rw [max_eq_right newer.le]; exact exact_newer known newer high

/-- Every packet after the first is less than half the id space from the newest one
    before it. A packet exactly `2^15` away has the id of one `2^15` ahead, and is one. -/
def Windowed (ids : List Int) : Prop :=
  ∀ before n after, ids = before ++ n :: after → ∀ newest, before.max? = some newest →
    newest - 2 ^ 15 < n ∧ n ≤ newest + 2 ^ 15

private theorem windowed_of_append {ids : List Int} {n : Int} (windowed : Windowed (ids ++ [n])) : Windowed ids := by
  intro before m after split
  exact windowed before m (after ++ [n]) (by simp [split])

/-- What a whole sequence of packets does. -/
theorem received_exact (ids : List Int) (windowed : Windowed ids) {newest : Int} (max : ids.max? = some newest) :
    Exact (received (ids.map ofIndex)) ids newest := by
  induction ids using List.reverseRecOn generalizing newest with
  | nil => simp at max
  | append_singleton ids n ih =>
    have snoc : received ((ids ++ [n]).map ofIndex) = (received (ids.map ofIndex)).recv_packet (ofIndex n) := by
      simp [received]
    rw [snoc]
    cases before : ids.max? with
    | none =>
      have empty := List.max?_eq_none_iff.mp before
      subst empty
      simp only [List.nil_append,List.max?_singleton,Option.some.injEq] at max
      subst max
      exact exact_first n
    | some top =>
      obtain ⟨low,high⟩ := windowed ids n [] rfl top before
      have step := exact_recv (ih (windowed_of_append windowed) before) low high
      have same : newest = Max.max top n := by
        have greatest := List.max?_eq_some_iff.mp max
        exact le_antisymm (step.above newest greatest.1) (greatest.2 _ step.member)
      rw [same]; exact step

/-- The receive buffer of a run advertises exactly the packets it received: its last id is
    the newest of them, and bit `i` of the bitfield says whether the one `i + 1` before was. -/
theorem receive_buffer_exact (ids : List Int) (windowed : Windowed ids) :
    (received (ids.map ofIndex)).last_recv_packet_id = ids.max?.map ofIndex ∧
    ∀ i < 32, ((received (ids.map ofIndex)).get_bitfield.getLsbD i = true ↔
      ∃ newest, ids.max? = some newest ∧ newest - 1 - i ∈ ids) := by
  cases max : ids.max? with
  | none =>
    have empty := List.max?_eq_none_iff.mp max
    subst empty
    refine ⟨rfl,fun i low => ?_⟩
    rw [get_bitfield_bit _ low]
    have fresh : Ring.get? (received ([].map ofIndex)).buffer i = some false := Ring.get?_fill low
    rw [fresh]
    simp
  | some newest =>
    have known := received_exact ids windowed max
    refine ⟨by simp [known.last],fun i low => ?_⟩
    rw [get_bitfield_bit _ low,known.bits i low]
    simp

theorem receive_buffer_exact_wrap :
    (received ([65534,65537,65535].map ofIndex)).last_recv_packet_id = some (ofIndex 1) ∧
    (received ([65534,65537,65535].map ofIndex)).get_bitfield.getLsbD 1 = true := by
  have windowed : Windowed [65534,65537,65535] := by
    rintro (_ | ⟨a,_ | ⟨b,_ | ⟨c,before⟩⟩⟩) n after split newest max <;> simp at split max
    · obtain ⟨rfl,rfl,-⟩ := split
      omega
    · obtain ⟨rfl,rfl,rfl,-⟩ := split
      omega
  obtain ⟨last,bits⟩ := receive_buffer_exact [65534,65537,65535] windowed
  exact ⟨last.trans (by decide),(bits 1 (by decide)).mpr ⟨65537,by decide,by decide⟩⟩

end Lightyear.AckBits
