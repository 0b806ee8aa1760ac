import Mathlib.Tactic

/-!
Writers and parsers of byte strings. A parser reads a value off the front of its
encoding, whatever follows it (`Reads`), and a written value is one that its parser
reads back (`Encodes`).
-/
namespace Codec

variable {ε α β : Type}

/-- A parser consumes bytes from the front, or fails. -/
abbrev Parser (ε α : Type) := StateT (List UInt8) (Except ε) α

/-- Takes the next `count` bytes. -/
def take (short : ε) (count : Nat) : Parser ε (List UInt8) := fun input =>
  if input.length < count then .error short else .ok (input.take count,input.drop count)

def Reads (parser : Parser ε α) (bytes : List UInt8) (value : α) : Prop :=
  ∀ rest, parser (bytes ++ rest) = .ok (value,rest)

theorem Reads.pure (value : α) : Reads (Pure.pure value : Parser ε α) [] value := fun _ => rfl

theorem Reads.bind {parser : Parser ε α} {next : α → Parser ε β} {first second : List UInt8} {a : α} {b : β}
    (reads : Reads parser first a) (then_reads : Reads (next a) second b) :
    Reads (parser >>= next) (first ++ second) b := by
  intro rest
  rw [List.append_assoc]
  change (parser (first ++ (second ++ rest)) >>= fun (a,rest) => next a rest) = _
  rw [reads]
  exact then_reads rest

/-- The last step of a parser returns a value made of what was read. -/
theorem Reads.map {parser : Parser ε α} {bytes : List UInt8} {a : α} (make : α → β) (reads : Reads parser bytes a) :
    Reads (do let a ← parser; Pure.pure (make a)) bytes (make a) := by
  intro rest
  change (parser (bytes ++ rest) >>= fun (a,rest) => .ok (make a,rest)) = _
  rw [reads]
  rfl

theorem Reads.take (short : ε) (bytes : List UInt8) : Reads (take short bytes.length) bytes bytes := by
  intro rest
  simp [Codec.take]

/-- A parser that succeeds has taken at least so many bytes, and put none back. -/
def Consumes (parser : Parser ε α) (count : Nat) : Prop :=
  ∀ input a rest, parser input = .ok (a,rest) → rest.length + count ≤ input.length

theorem Consumes.pure (value : α) : Consumes (Pure.pure value : Parser ε α) 0 := by
  intro input a rest parsed
  cases parsed
  exact le_refl _

theorem Consumes.throw (error : ε) (count : Nat) : Consumes (throw error : Parser ε α) count := by
  intro input a rest parsed
  cases parsed

/-- What comes after a parser can only take more. -/
theorem Consumes.bind {parser : Parser ε α} {next : α → Parser ε β} {count : Nat} (consumes : Consumes parser count)
    (then_consumes : ∀ a, Consumes (next a) 0) : Consumes (parser >>= next) count := by
  intro input b rest parsed
  change (parser input >>= fun (a,rest) => next a rest) = _ at parsed
  cases first : parser input with
  | error error =>
    rw [first] at parsed
    cases parsed
  | ok result =>
    obtain ⟨a,middle⟩ := result
    rw [first] at parsed
    have before := consumes input a middle first
    have after := then_consumes a middle b rest parsed
    omega

theorem Consumes.take (short : ε) (count : Nat) : Consumes (take short count) count := by
  intro input a rest parsed
  unfold Codec.take at parsed
  split at parsed
  · cases parsed
  · cases parsed
    rw [List.length_drop]
    omega

theorem Consumes.weaken {parser : Parser ε α} {count : Nat} (consumes : Consumes parser count) : Consumes parser 0 :=
  fun input a rest parsed => Nat.le_of_add_right_le (consumes input a rest parsed)

/-- What was written, if nothing failed. -/
def written (w : Except ε (List UInt8)) : List UInt8 := w.toOption.getD []

@[simp] theorem written_ok (bytes : List UInt8) : written (.ok bytes : Except ε (List UInt8)) = bytes := rfl

/-- A value is written, in `size` bytes that its parser reads back. -/
structure Encodes (w : Except ε (List UInt8)) (size : Nat) (parser : Parser ε α) (value : α) : Prop where
  ok : w = .ok (written w)
  length : (written w).length = size
  reads : Reads parser (written w) value

theorem encodes_ok {bytes : List UInt8} {size : Nat} {parser : Parser ε α} {value : α} (length : bytes.length = size)
    (reads : Reads parser bytes value) : Encodes (.ok bytes) size parser value :=
  ⟨rfl,length,reads⟩

/-- One value after the other. -/
theorem Encodes.bind {first second : Except ε (List UInt8)} {size size' : Nat} {parser : Parser ε α}
    {next : α → Parser ε β} {a : α} {b : β} (encodes : Encodes first size parser a)
    (then_encodes : Encodes second size' (next a) b) :
    Encodes (do let x ← first; let y ← second; Pure.pure (x ++ y)) (size + size') (parser >>= next) b := by
  rw [encodes.ok,then_encodes.ok]
  refine encodes_ok ?_ (encodes.reads.bind then_encodes.reads)
  rw [List.length_append,encodes.length,then_encodes.length]

theorem Encodes.map {w : Except ε (List UInt8)} {size : Nat} {parser : Parser ε α} {a : α} (make : α → β)
    (encodes : Encodes w size parser a) : Encodes w size (do let a ← parser; Pure.pure (make a)) (make a) :=
  ⟨encodes.ok,encodes.length,encodes.reads.map make⟩

/-- The last `8 * width` bits of a number, most significant byte first. -/
def toBE : Nat → Nat → List UInt8
  | 0,_ => []
  | width + 1,n => UInt8.ofNat (n / 256 ^ width) :: toBE width n

def ofBE : List UInt8 → Nat
  | [] => 0
  | byte :: bytes => byte.toNat * 256 ^ bytes.length + ofBE bytes

@[simp] theorem length_toBE (width n : Nat) : (toBE width n).length = width := by
  induction width with
  | zero => rfl
  | succ width ih => simp [toBE,ih]

theorem ofBE_toBE (width n : Nat) : ofBE (toBE width n) = n % 256 ^ width := by
  induction width with
  | zero => simp [toBE,ofBE,Nat.mod_one]
  | succ width ih =>
    have byte : (UInt8.ofNat (n / 256 ^ width)).toNat = n / 256 ^ width % 256 := UInt8.toNat_ofNat'
    rw [toBE,ofBE,length_toBE,ih,byte,pow_succ,Nat.mod_mul,Nat.add_comm,Nat.mul_comm]

/-- A number of fixed width. -/
theorem Reads.ofBE (short : ε) (width n : Nat) :
    Reads (do let bytes ← Codec.take short width; Pure.pure (Codec.ofBE bytes)) (toBE width n) (n % 256 ^ width) := by
  have reads := (Reads.take short (toBE width n)).map Codec.ofBE
  rwa [length_toBE,ofBE_toBE] at reads

abbrev Octets (size : Nat) := { bytes : List UInt8 // bytes.length = size }

/-- `size` bytes that are all zero. -/
def zeros (size : Nat) : Octets size := ⟨List.replicate size 0,List.length_replicate⟩

/-- Reads a whole array. -/
def array (short : ε) (size : Nat) : Parser ε (Octets size) := fun input =>
  if inside : input.length < size then .error short
  else .ok (⟨input.take size,by simp only [List.length_take]; omega⟩,input.drop size)

theorem Reads.array (short : ε) {size : Nat} (octets : Octets size) :
    Reads (array short size) octets.val octets := by
  intro rest
  obtain ⟨bytes,rfl⟩ := octets
  simp [Codec.array]

/-- A buffer of `size` zeros with bytes written to its front, if they fit. -/
def fill (full : ε) (size : Nat) (bytes : List UInt8) : Except ε (Octets size) :=
  if fits : bytes.length ≤ size then
    .ok ⟨bytes ++ List.replicate (size - bytes.length) 0,by
      simp only [List.length_append,List.length_replicate]; omega⟩
  else .error full

theorem fill_ok (full : ε) {size : Nat} {bytes : List UInt8} (fits : bytes.length ≤ size) :
    ∃ octets, fill full size bytes = .ok octets ∧ octets.val = bytes ++ List.replicate (size - bytes.length) 0 := by
  refine ⟨_,dif_pos fits,rfl⟩

/-- Zeros up to a buffer that leaves some room. -/
def padded (size room : Nat) (bytes : List UInt8) : List UInt8 :=
  bytes ++ List.replicate (size - room - bytes.length) 0

theorem fill_room (full : ε) {size room : Nat} {bytes : List UInt8} (fits : bytes.length + room ≤ size) :
    ∃ octets, fill full size bytes = .ok octets ∧ octets.val = padded size room bytes ++ List.replicate room 0 := by
  obtain ⟨octets,filled,isBuf⟩ := fill_ok full (show bytes.length ≤ size by omega)
  refine ⟨octets,filled,?_⟩
  rw [isBuf,padded,List.append_assoc,List.replicate_append_replicate]
  congr 2
  omega

/-- A buffer with bytes written over its front, if they fit. -/
def overwrite (full : ε) {size : Nat} (buf : Octets size) (bytes : List UInt8) : Except ε (Octets size) :=
  if fits : bytes.length ≤ size then
    .ok ⟨bytes ++ buf.val.drop bytes.length,by rw [List.length_append,List.length_drop,buf.property]; omega⟩
  else .error full

/-- Writing over a buffer what it starts with does nothing. -/
theorem overwrite_front (full : ε) {size : Nat} {buf : Octets size} {bytes rest : List UInt8}
    (isBuf : buf.val = bytes ++ rest) : overwrite full buf bytes = .ok buf := by
  have fits : bytes.length ≤ size := by
    rw [← buf.property,isBuf,List.length_append]
    exact Nat.le_add_right _ _
  refine (dif_pos fits).trans (congrArg Except.ok (Subtype.ext ?_))
  dsimp only
  rw [isBuf,List.drop_left]

/-- `map_err` -/
def mapErr {ε' : Type} (convert : ε → ε') (parser : Parser ε α) : Parser ε' α := fun input =>
  (parser input).mapError convert

theorem Reads.mapErr {ε' : Type} (convert : ε → ε') {parser : Parser ε α} {bytes : List UInt8} {a : α}
    (reads : Reads parser bytes a) : Reads (mapErr convert parser) bytes a := by
  intro rest
  unfold Codec.mapErr
  rw [reads]
  rfl

/-- Parses the front of a buffer. -/
def parse (parser : Parser ε α) (buf : List UInt8) : Except ε α := (parser buf).map Prod.fst

theorem Reads.parse {parser : Parser ε α} {bytes : List UInt8} {a : α} (reads : Reads parser bytes a)
    (rest : List UInt8) : parse parser (bytes ++ rest) = .ok a := by
  unfold Codec.parse
  rw [reads]
  rfl

/-! ### What was read -/

/-- What a parser takes off the input is related to the value it returns. -/
def Takes (parser : Parser ε α) (related : α → List UInt8 → Prop) : Prop :=
  ∀ input a rest, parser input = .ok (a,rest) → ∃ bytes, input = bytes ++ rest ∧ related a bytes

theorem Takes.pure {related : α → List UInt8 → Prop} {a : α} (holds : related a []) :
    Takes (Pure.pure a : Parser ε α) related := by
  intro input a rest parsed
  cases parsed
  exact ⟨[],rfl,holds⟩

theorem Takes.throw (error : ε) (related : α → List UInt8 → Prop) : Takes (throw error : Parser ε α) related := by
  intro input a rest parsed
  cases parsed

theorem Takes.bind {parser : Parser ε α} {next : α → Parser ε β} {first : α → List UInt8 → Prop}
    {related : β → List UInt8 → Prop} (takes : Takes parser first)
    (then_takes : ∀ a bytes, first a bytes → Takes (next a) (fun b more => related b (bytes ++ more))) :
    Takes (parser >>= next) related := by
  intro input b rest parsed
  change (parser input >>= fun (a,rest) => next a rest) = _ at parsed
  cases returned : parser input with
  | error error =>
    rw [returned] at parsed
    cases parsed
  | ok result =>
    obtain ⟨a,middle⟩ := result
    rw [returned] at parsed
    obtain ⟨bytes,rfl,holds⟩ := takes input a middle returned
    obtain ⟨more,rfl,both⟩ := then_takes a bytes holds middle b rest parsed
    exact ⟨bytes ++ more,(List.append_assoc ..).symm,both⟩

theorem Takes.take (short : ε) (count : Nat) :
    Takes (take short count) (fun taken bytes => bytes = taken ∧ taken.length = count) := by
  intro input taken rest parsed
  unfold Codec.take at parsed
  split at parsed
  · cases parsed
  · cases parsed
    refine ⟨_,(List.take_append_drop count input).symm,rfl,?_⟩
    rw [List.length_take]
    omega

theorem Takes.array (short : ε) (size : Nat) : Takes (array short size) (fun octets bytes => bytes = octets.val) := by
  intro input octets rest parsed
  unfold Codec.array at parsed
  split at parsed
  · cases parsed
  · cases parsed
    exact ⟨_,(List.take_append_drop size input).symm,rfl⟩

theorem Takes.mapErr {ε' : Type} (convert : ε → ε') {parser : Parser ε α} {related : α → List UInt8 → Prop}
    (takes : Takes parser related) : Takes (mapErr convert parser) related := by
  intro input a rest parsed
  unfold Codec.mapErr at parsed
  cases returned : parser input with
  | error error =>
    rw [returned] at parsed
    cases parsed
  | ok result =>
    rw [returned] at parsed
    cases parsed
    exact takes input a rest returned

theorem Takes.parse {parser : Parser ε α} {related : α → List UInt8 → Prop} (takes : Takes parser related)
    {buf : List UInt8} {a : α} (parsed : parse parser buf = .ok a) :
    ∃ bytes rest, buf = bytes ++ rest ∧ related a bytes := by
  unfold Codec.parse at parsed
  cases returned : parser buf with
  | error error =>
    rw [returned] at parsed
    cases parsed
  | ok result =>
    rw [returned] at parsed
    cases parsed
    obtain ⟨bytes,isBuf,holds⟩ := takes buf result.1 result.2 returned
    exact ⟨bytes,result.2,isBuf,holds⟩

theorem toBE_mod (width n k : Nat) : toBE width (k * 256 ^ width + n) = toBE width n := by
  induction width generalizing k with
  | zero => rfl
  | succ width ih =>
    have digit : (k * 256 ^ (width + 1) + n) / 256 ^ width = k * 256 + n / 256 ^ width := by
      rw [pow_succ,Nat.mul_comm (256 ^ width),← Nat.mul_assoc,Nat.mul_comm (k * 256),
        Nat.mul_add_div (Nat.pow_pos (by decide))]
    have byte : UInt8.ofNat (k * 256 + n / 256 ^ width) = UInt8.ofNat (n / 256 ^ width) := by
      apply UInt8.toNat_inj.mp
      rw [UInt8.toNat_ofNat',UInt8.toNat_ofNat']
      omega
    rw [toBE,toBE,digit,byte,pow_succ,Nat.mul_comm (256 ^ width),← Nat.mul_assoc,ih]

theorem ofBE_lt (bytes : List UInt8) : ofBE bytes < 256 ^ bytes.length := by
  induction bytes with
  | nil => exact Nat.one_pos
  | cons byte bytes ih =>
    have bound : byte.toNat < 256 := byte.toNat_lt
    rw [ofBE,List.length_cons,pow_succ]
    nlinarith

theorem toBE_ofBE (bytes : List UInt8) : toBE bytes.length (ofBE bytes) = bytes := by
  induction bytes with
  | nil => rfl
  | cons byte bytes ih =>
    have digit : (byte.toNat * 256 ^ bytes.length + ofBE bytes) / 256 ^ bytes.length = byte.toNat := by
      rw [Nat.mul_comm,Nat.mul_add_div (Nat.pow_pos (by decide)),Nat.div_eq_of_lt (ofBE_lt bytes),Nat.add_zero]
    rw [List.length_cons,toBE,ofBE,digit,UInt8.ofNat_toNat,toBE_mod,ih]

/-- The last `8 * width` bits of a number, least significant byte first. -/
def toLE : Nat → Nat → List UInt8
  | 0,_ => []
  | width + 1,n => UInt8.ofNat n :: toLE width (n / 256)

def ofLE : List UInt8 → Nat
  | [] => 0
  | byte :: bytes => byte.toNat + 256 * ofLE bytes

@[simp] theorem length_toLE (width n : Nat) : (toLE width n).length = width := by
  induction width generalizing n with
  | zero => rfl
  | succ width ih => simp [toLE,ih]

theorem ofLE_toLE {width n : Nat} (fits : n < 256 ^ width) : ofLE (toLE width n) = n := by
  induction width generalizing n with
  | zero =>
    rw [pow_zero,Nat.lt_one_iff] at fits
    exact fits.symm
  | succ width ih =>
    have byte : (UInt8.ofNat n).toNat = n % 256 := UInt8.toNat_ofNat'
    have rest : n / 256 < 256 ^ width := by
      rw [pow_succ] at fits
      exact Nat.div_lt_of_lt_mul (by rwa [Nat.mul_comm])
    rw [toLE,ofLE,ih rest,byte]
    exact Nat.mod_add_div n 256

end Codec
