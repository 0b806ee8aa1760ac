import Lightyear.Netcode.Crypto

/-!
`WriteInteger` and `ReadInteger` of the serde crate for the integers that netcode packets
are made of. Writing is modelled by the bytes written, and a cursor over a fixed buffer
fails when they do not fit.
-/
namespace Lightyear.Netcode
open Codec

/-- `ReadInteger` over a cursor. Reading past the end is an `io::Error`. -/
abbrev Reader (α : Type) := Parser IoError α

def read_exact (size : Nat) : Reader (Octets size) := array .UnexpectedEof size

def read_u8 : Reader UInt8 := do
  let bytes ← take .UnexpectedEof 1
  pure (UInt8.ofNat (ofBE bytes))

def read_u16 : Reader UInt16 := do
  let bytes ← take .UnexpectedEof 2
  pure (UInt16.ofNat (ofBE bytes))

def read_u32 : Reader UInt32 := do
  let bytes ← take .UnexpectedEof 4
  pure (UInt32.ofNat (ofBE bytes))

def read_i32 : Reader Int32 := do
  let bytes ← take .UnexpectedEof 4
  pure (UInt32.ofNat (ofBE bytes)).toInt32

def read_u64 : Reader UInt64 := do
  let bytes ← take .UnexpectedEof 8
  pure (UInt64.ofNat (ofBE bytes))

def write_u8 (n : UInt8) : Bytes := toBE 1 n.toNat
def write_u16 (n : UInt16) : Bytes := toBE 2 n.toNat
def write_u32 (n : UInt32) : Bytes := toBE 4 n.toNat
def write_i32 (n : Int32) : Bytes := toBE 4 n.toUInt32.toNat
def write_u64 (n : UInt64) : Bytes := toBE 8 n.toNat

@[simp] theorem length_write_u8 (n : UInt8) : (write_u8 n).length = 1 := length_toBE 1 _
@[simp] theorem length_write_u16 (n : UInt16) : (write_u16 n).length = 2 := length_toBE 2 _
@[simp] theorem length_write_u32 (n : UInt32) : (write_u32 n).length = 4 := length_toBE 4 _
@[simp] theorem length_write_i32 (n : Int32) : (write_i32 n).length = 4 := length_toBE 4 _
@[simp] theorem length_write_u64 (n : UInt64) : (write_u64 n).length = 8 := length_toBE 8 _

theorem write_u8_eq (n : UInt8) : write_u8 n = [n] := by
  rw [write_u8,toBE,toBE,pow_zero,Nat.div_one,UInt8.ofNat_toNat]

/-- An integer made of the big-endian number of so many bytes. -/
theorem reads_number {α : Type} {width n : Nat} {value : α} (make : Nat → α) (fits : n < 256 ^ width)
    (isValue : make n = value) :
    Reads (do let bytes ← take IoError.UnexpectedEof width; pure (make (ofBE bytes))) (toBE width n) value := by
  have reads := (Reads.take IoError.UnexpectedEof (toBE width n)).map (fun bytes => make (ofBE bytes))
  rwa [length_toBE,ofBE_toBE,Nat.mod_eq_of_lt fits,isValue] at reads

theorem reads_u8 (n : UInt8) : Reads read_u8 (write_u8 n) n :=
  reads_number UInt8.ofNat n.toNat_lt UInt8.ofNat_toNat

theorem reads_u16 (n : UInt16) : Reads read_u16 (write_u16 n) n :=
  reads_number UInt16.ofNat n.toNat_lt UInt16.ofNat_toNat

theorem reads_u32 (n : UInt32) : Reads read_u32 (write_u32 n) n :=
  reads_number UInt32.ofNat n.toNat_lt UInt32.ofNat_toNat

theorem reads_i32 (n : Int32) : Reads read_i32 (write_i32 n) n :=
  reads_number (fun number => (UInt32.ofNat number).toInt32) n.toUInt32.toNat_lt
    (congrArg UInt32.toInt32 UInt32.ofNat_toNat)

theorem reads_u64 (n : UInt64) : Reads read_u64 (write_u64 n) n :=
  reads_number UInt64.ofNat n.toNat_lt UInt64.ofNat_toNat

/-- Every so many bytes are what the integer made of them is written as. -/
theorem takes_number {α : Type} {width : Nat} {make : Nat → α} {write : α → Bytes}
    (writes : ∀ n, n < 256 ^ width → write (make n) = toBE width n) :
    Takes (do let bytes ← take IoError.UnexpectedEof width; pure (make (ofBE bytes)))
      (fun value bytes => bytes = write value) := by
  refine (Takes.take _ width).bind ?_
  rintro taken bytes ⟨rfl,isWidth⟩
  refine .pure ?_
  have bound := ofBE_lt bytes
  rw [isWidth] at bound
  rw [List.append_nil,writes _ bound,← isWidth,toBE_ofBE]

theorem takes_u8 : Takes read_u8 (fun n bytes => bytes = write_u8 n) :=
  takes_number (fun n fits => by rw [write_u8,UInt8.toNat_ofNat_of_lt' fits])

theorem takes_u16 : Takes read_u16 (fun n bytes => bytes = write_u16 n) :=
  takes_number (fun n fits => by rw [write_u16,UInt16.toNat_ofNat_of_lt' fits])

theorem takes_u32 : Takes read_u32 (fun n bytes => bytes = write_u32 n) :=
  takes_number (fun n fits => by rw [write_u32,UInt32.toNat_ofNat_of_lt' fits])

theorem takes_i32 : Takes read_i32 (fun n bytes => bytes = write_i32 n) :=
  @takes_number _ 4 (fun n => (UInt32.ofNat n).toInt32) write_i32
    (fun n fits => by rw [write_i32,UInt32.toUInt32_toInt32,UInt32.toNat_ofNat_of_lt' fits])

theorem takes_u64 : Takes read_u64 (fun n bytes => bytes = write_u64 n) :=
  takes_number (fun n fits => by rw [write_u64,UInt64.toNat_ofNat_of_lt' fits])

theorem takes_exact (size : Nat) : Takes (read_exact size) (fun octets bytes => bytes = octets.val) :=
  Takes.array IoError.UnexpectedEof size

theorem reads_exact {size : Nat} (octets : Octets size) : Reads (read_exact size) octets.val octets :=
  Reads.array IoError.UnexpectedEof octets

end Lightyear.Netcode
