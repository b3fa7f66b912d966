import NetlinkRoute.Common.Outcome
/-!
# Bytes — integers on the wire, and reading a slice

Integers become bytes in one of two orders. `Endian.encode` and
`Endian.decode` are inverse at every width, and the typed readers and
writers below are those two at widths 1, 2, 4 and 8. The order a host
uses for its own integers is a parameter (`Host`): nothing here depends
on which it is.

A slice expression of the program panics when it leaves the buffer;
`slice`, `sliceFrom` and `index` say when.
-/

namespace NetlinkRoute

/-- A byte string. -/
abbrev Bytes := List UInt8

/-- A byte array of fixed length. -/
abbrev Octets (n : ℕ) := { l : Bytes // l.length = n }

/-- `[0; n]`. -/
def zeros (n : ℕ) : Bytes := List.replicate n 0

@[simp] theorem length_zeros (n : ℕ) : (zeros n).length = n := List.length_replicate

@[simp] theorem zeros_zero : zeros 0 = [] := rfl

/-- The first `n` bytes, as an array. -/
def Octets.ofBytes (n : ℕ) (b : Bytes) : Octets n :=
  ⟨(b ++ zeros n).take n, by simp⟩

/-- Bytes of the right number are kept. -/
theorem Octets.ofBytes_val {n : ℕ} {b : Bytes} (h : b.length = n) :
    (Octets.ofBytes n b).val = b := by
  subst h
  simp [Octets.ofBytes]

@[simp] theorem Octets.ofBytes_coe {n : ℕ} (a : Octets n) : Octets.ofBytes n a.val = a :=
  Subtype.ext (Octets.ofBytes_val a.property)

/-- The text `{:?}` gives for a byte string. -/
def debug (b : Bytes) : String := toString (b.map UInt8.toNat)

/-! ## Byte orders -/

/-- The `w` low bytes of `n`, least significant first. -/
def toLE : ℕ → ℕ → Bytes
  | 0, _ => []
  | w + 1, n => UInt8.ofNat n :: toLE w (n / 256)

/-- The number whose bytes, least significant first, are given. -/
def ofLE : Bytes → ℕ
  | [] => 0
  | b :: bs => b.toNat + 256 * ofLE bs

/-- An encoding has the width asked for. -/
@[simp] theorem length_toLE (w n : ℕ) : (toLE w n).length = w := by
  induction w generalizing n with
  | zero => rfl
  | succ w ih => simp [toLE, ih]

/-- Of a number that many bytes keep the last digits. -/
theorem ofLE_toLE (w n : ℕ) : ofLE (toLE w n) = n % 256 ^ w := by
  induction w generalizing n with
  | zero => simp [toLE, ofLE, Nat.mod_one]
  | succ w ih =>
    rw [toLE, ofLE, ih, Nat.pow_succ', Nat.mod_mul]
    simp

/-- Bytes are the digits of their number. -/
theorem toLE_ofLE (b : Bytes) : toLE b.length (ofLE b) = b := by
  induction b with
  | nil => rfl
  | cons x bs ih =>
    have hx : x.toNat < 256 := x.toNat_lt
    have hdiv : (x.toNat + 256 * ofLE bs) / 256 = ofLE bs := by omega
    rw [List.length_cons, toLE, ofLE, hdiv, ih]
    congr 1
    apply UInt8.toNat_inj.mp
    simp only [UInt8.toNat_ofNat']
    omega

/-- The order in which an integer's bytes stand. -/
inductive Endian where
  | little
  | big
deriving DecidableEq, Repr

namespace Endian

variable (e : Endian)

/-- The `w` bytes of `n`. -/
def encode (w n : ℕ) : Bytes :=
  match e with
  | little => toLE w n
  | big => (toLE w n).reverse

/-- The number a byte string spells. -/
def decode (b : Bytes) : ℕ :=
  match e with
  | little => ofLE b
  | big => ofLE b.reverse

@[simp] theorem length_encode (w n : ℕ) : (e.encode w n).length = w := by
  cases e <;> simp [encode]

/-- A number that fits into its bytes is read back from them. -/
theorem decode_encode {w n : ℕ} (h : n < 256 ^ w) : e.decode (e.encode w n) = n := by
  cases e <;> simp [encode, decode, ofLE_toLE, Nat.mod_eq_of_lt h]

/-- Bytes are the encoding of what is read from them. -/
theorem encode_decode {w : ℕ} {b : Bytes} (h : b.length = w) : e.encode w (e.decode b) = b := by
  subst h
  cases e
  · exact toLE_ofLE b
  · have := toLE_ofLE b.reverse
    rw [List.length_reverse] at this
    simp [encode, decode, this]

/-- Bytes of equal number are equal bytes. -/
theorem decode_lt {w : ℕ} {b : Bytes} (h : b.length = w) : e.decode b < 256 ^ w := by
  have h1 := e.encode_decode h
  have h2 : e.decode (e.encode w (e.decode b)) = e.decode b % 256 ^ w := by
    cases e <;> simp [encode, decode, ofLE_toLE]
  rw [h1] at h2
  rw [h2]
  exact Nat.mod_lt _ (Nat.pow_pos (by decide))

end Endian

/-- The machine the program runs on: the order of its native integers. -/
class Host where
  endian : Endian

/-! ## Typed integers -/

section Typed

variable (e : Endian)

/-- The bytes of a `u16`. -/
def Endian.u16 (v : UInt16) : Bytes := e.encode 2 v.toNat

/-- The bytes of a `u32`. -/
def Endian.u32 (v : UInt32) : Bytes := e.encode 4 v.toNat

/-- The bytes of a `u64`. -/
def Endian.u64 (v : UInt64) : Bytes := e.encode 8 v.toNat

/-- The bytes of an `i32`. -/
def Endian.i32 (v : Int32) : Bytes := e.u32 v.toUInt32

/-- The bytes of an `i64`. -/
def Endian.i64 (v : Int64) : Bytes := e.u64 v.toUInt64

/-- The `u16` two bytes spell. -/
def Endian.toU16 (b : Bytes) : UInt16 := UInt16.ofNat (e.decode b)

/-- The `u32` four bytes spell. -/
def Endian.toU32 (b : Bytes) : UInt32 := UInt32.ofNat (e.decode b)

/-- The `u64` eight bytes spell. -/
def Endian.toU64 (b : Bytes) : UInt64 := UInt64.ofNat (e.decode b)

/-- The `i32` four bytes spell. -/
def Endian.toI32 (b : Bytes) : Int32 := ⟨e.toU32 b⟩

/-- The `i64` eight bytes spell. -/
def Endian.toI64 (b : Bytes) : Int64 := ⟨e.toU64 b⟩

/-- Each of the fixed widths is as long as its name says. -/
@[simp] theorem length_u16 (v : UInt16) : (e.u16 v).length = 2 := e.length_encode _ _

@[simp] theorem length_u32 (v : UInt32) : (e.u32 v).length = 4 := e.length_encode _ _

@[simp] theorem length_u64 (v : UInt64) : (e.u64 v).length = 8 := e.length_encode _ _

@[simp] theorem length_i32 (v : Int32) : (e.i32 v).length = 4 := e.length_encode _ _

@[simp] theorem length_i64 (v : Int64) : (e.i64 v).length = 8 := e.length_encode _ _

/-- A number of fixed width is read back from its bytes. -/
@[simp] theorem toU16_u16 (v : UInt16) : e.toU16 (e.u16 v) = v := by
  rw [Endian.toU16, Endian.u16, e.decode_encode (by simpa using v.toNat_lt)]
  simp

@[simp] theorem toU32_u32 (v : UInt32) : e.toU32 (e.u32 v) = v := by
  rw [Endian.toU32, Endian.u32, e.decode_encode (by simpa using v.toNat_lt)]
  simp

@[simp] theorem toU64_u64 (v : UInt64) : e.toU64 (e.u64 v) = v := by
  rw [Endian.toU64, Endian.u64, e.decode_encode (by simpa using v.toNat_lt)]
  simp

@[simp] theorem toI32_i32 (v : Int32) : e.toI32 (e.i32 v) = v := by
  rw [Endian.toI32, Endian.i32, toU32_u32]

@[simp] theorem toI64_i64 (v : Int64) : e.toI64 (e.i64 v) = v := by
  rw [Endian.toI64, Endian.i64, toU64_u64]

/-- Bytes of a fixed width are those of the number read from them. -/
theorem u16_toU16 {b : Bytes} (h : b.length = 2) : e.u16 (e.toU16 b) = b := by
  have hlt := e.decode_lt h
  rw [Endian.toU16, Endian.u16, UInt16.toNat_ofNat_of_lt' (by simpa using hlt), e.encode_decode h]

theorem u32_toU32 {b : Bytes} (h : b.length = 4) : e.u32 (e.toU32 b) = b := by
  have hlt := e.decode_lt h
  rw [Endian.toU32, Endian.u32, UInt32.toNat_ofNat_of_lt' (by simpa using hlt), e.encode_decode h]

theorem u64_toU64 {b : Bytes} (h : b.length = 8) : e.u64 (e.toU64 b) = b := by
  have hlt := e.decode_lt h
  rw [Endian.toU64, Endian.u64, UInt64.toNat_ofNat_of_lt' (by simpa using hlt), e.encode_decode h]

theorem i32_toI32 {b : Bytes} (h : b.length = 4) : e.i32 (e.toI32 b) = b := u32_toU32 e h

theorem i64_toI64 {b : Bytes} (h : b.length = 8) : e.i64 (e.toI64 b) = b := u64_toU64 e h

end Typed

section Native

variable [Host]

/-- The order of the host, as the program's `NativeEndian` and
`to_ne_bytes` use it. -/
abbrev ne : Endian := Host.endian

/-- Network order. -/
abbrev be : Endian := .big

end Native

/-- Four bytes, one by one. -/
theorem exists_of_length_eq_four {b : Bytes} (h : b.length = 4) :
    ∃ b0 b1 b2 b3, b = [b0, b1, b2, b3] := by
  match b, h with
  | [b0, b1, b2, b3], _ => exact ⟨b0, b1, b2, b3, rfl⟩

/-- A boolean is written as zero or one, and any byte but zero is true. -/
@[simp] theorem toUInt8_pos_iff {v : Bool} : 0 < v.toUInt8 ↔ v = true := by
  cases v <;> decide

/-! ## Checked arithmetic -/

/-- `a + b` on `u8`. -/
def addU8 (a b : UInt8) : Outcome UInt8 :=
  if a.toNat + b.toNat < 256 then .ok (a + b) else .panic

/-- `a * b` on `u8`. -/
def mulU8 (a b : UInt8) : Outcome UInt8 :=
  if a.toNat * b.toNat < 256 then .ok (a * b) else .panic

/-- `a + b` on `u16`. -/
def addU16 (a b : UInt16) : Outcome UInt16 :=
  if a.toNat + b.toNat < 65536 then .ok (a + b) else .panic

/-- `a + b` on `u32`. -/
def addU32 (a b : UInt32) : Outcome UInt32 :=
  if a.toNat + b.toNat < 4294967296 then .ok (a + b) else .panic

/-- `a - b` on `u32`. -/
def subU32 (a b : UInt32) : Outcome UInt32 := if b.toNat ≤ a.toNat then .ok (a - b) else .panic

/-- `a - b` on `usize`. -/
def subUsize (a b : ℕ) : Outcome ℕ := if b ≤ a then .ok (a - b) else .panic

/-! ## Slices -/

/-- `b[lo..hi]`. -/
def slice (b : Bytes) (lo hi : ℕ) : Outcome Bytes :=
  if lo ≤ hi ∧ hi ≤ b.length then .ok ((b.drop lo).take (hi - lo)) else .panic

/-- `b[lo..]`. -/
def sliceFrom (b : Bytes) (lo : ℕ) : Outcome Bytes :=
  if lo ≤ b.length then .ok (b.drop lo) else .panic

/-- `b[i]`. -/
def index (b : Bytes) (i : ℕ) : Outcome UInt8 :=
  match b[i]? with
  | some v => .ok v
  | none => .panic

variable {b c : Bytes} {lo hi i n : ℕ}

/-- A range inside the slice is cut out. -/
theorem slice_ok (h : lo ≤ hi) (h' : hi ≤ b.length) :
    slice b lo hi = .ok ((b.drop lo).take (hi - lo)) := if_pos ⟨h, h'⟩

/-- A range that ends behind the slice is a panic. -/
theorem slice_panic (h : b.length < hi) : slice b lo hi = .panic :=
  if_neg (by omega)

/-- What is left from a place inside. -/
theorem sliceFrom_ok (h : lo ≤ b.length) : sliceFrom b lo = .ok (b.drop lo) := if_pos h

/-- A byte is read where there is one. -/
theorem index_eq_ok_iff {v : UInt8} : index b i = .ok v ↔ b[i]? = some v := by
  unfold index
  split <;> simp_all

theorem index_of_lt (h : i < b.length) : index b i = .ok (b.getD i 0) := by
  rw [index_eq_ok_iff, List.getElem?_eq_getElem h]
  simp [h]

/-- Past the end of the slice, the index is a panic. -/
theorem index_eq_panic_iff : index b i = .panic ↔ b.length ≤ i := by
  rw [← List.getElem?_eq_none_iff]
  unfold index
  split <;> simp_all

/-- A slice that starts past a first part is a slice of the rest. -/
theorem slice_append_right (h : b.length ≤ lo) (h' : lo ≤ hi) :
    slice (b ++ c) lo hi = slice c (lo - b.length) (hi - b.length) := by
  unfold slice
  have hd : (b ++ c).drop lo = c.drop (lo - b.length) := by
    rw [List.drop_append, List.drop_eq_nil_of_le h, List.nil_append]
  have hc : (lo ≤ hi ∧ hi ≤ (b ++ c).length) ↔
      (lo - b.length ≤ hi - b.length ∧ hi - b.length ≤ c.length) := by
    rw [List.length_append]
    omega
  simp only [hc, hd, show hi - b.length - (lo - b.length) = hi - lo by omega]

/-- The first part itself. -/
theorem slice_append_left (h : hi = b.length) : slice (b ++ c) 0 hi = .ok b := by
  subst h
  rw [slice_ok (by omega) (by simp)]
  simp

@[simp] theorem slice_self : slice b 0 b.length = .ok b := by
  rw [slice_ok (by omega) (by omega)]
  simp

/-! ## Reading a field of a struct buffer

The accessors that the `buffer!` declarations give: an integer of the
host's order at a fixed place, and a panic when the buffer ends before
it. -/

section Fields

variable [Host] (b) (off : ℕ)

/-- A one-byte field. -/
def getU8 : Outcome UInt8 := index b off

/-- A `u16` field. -/
def getU16 : Outcome UInt16 := ne.toU16 <$> slice b off (off + 2)

/-- A `u32` field. -/
def getU32 : Outcome UInt32 := ne.toU32 <$> slice b off (off + 4)

/-- A `u64` field. -/
def getU64 : Outcome UInt64 := ne.toU64 <$> slice b off (off + 8)

/-- An `i32` field. -/
def getI32 : Outcome Int32 := ne.toI32 <$> slice b off (off + 4)

/-- An `i64` field. -/
def getI64 : Outcome Int64 := ne.toI64 <$> slice b off (off + 8)

/-- `u16::from_be` of a `u16` field. -/
def getU16Be : Outcome UInt16 := be.toU16 <$> slice b off (off + 2)

/-- A field that is an array of bytes. -/
def getOctets (n : ℕ) : Outcome (Octets n) := Octets.ofBytes n <$> slice b off (off + n)

end Fields

end NetlinkRoute
