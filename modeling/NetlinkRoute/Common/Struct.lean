import NetlinkRoute.Common.Emitter
/-!
# Struct buffers

A `buffer!` declaration gives a fixed-size structure a table of fields,
with a getter and a setter for each. `StructCodec` is such a structure
whose fields tile its length: setting all of them fills it, and reading
what was set gives the value back. A table with a gap, an overlap or two
places swapped does not make one.
-/

namespace NetlinkRoute

open Emitter

variable {b c : Bytes} {off : ℕ} {x : UInt8}

/-! ## One-byte fields -/

/-- A byte inside the buffer is read. -/
theorem getU8_of_lt (h : off < b.length) : getU8 b off = .ok (b[off]) := by
  rw [getU8, index_eq_ok_iff, List.getElem?_eq_getElem h]

/-- Behind the first part, a getter reads the second. -/
theorem getU8_append (h : b.length ≤ off) : getU8 (b ++ c) off = getU8 c (off - b.length) := by
  simp only [getU8, index, List.getElem?_append_right h]

@[simp] theorem getU8_cons_zero : getU8 (x :: c) 0 = .ok x := rfl

@[simp] theorem getU8_cons : getU8 (x :: c) (off + 1) = getU8 c off := rfl

/-- What ends inside a structure ends inside a buffer that holds it. -/
theorem fits_of_le {k m n : ℕ} (h : n ≤ m) (hk : Nat.ble k n = true) : k ≤ m :=
  Nat.le_trans (Nat.le_of_ble_eq_true hk) h

section Getters

variable [Host]

/-! ## Getters on a buffer that is long enough -/

omit [Host] in
theorem getU8_of_le (h : off + 1 ≤ b.length) : getU8 b off = .ok (b[off]) := getU8_of_lt h

/-- A field that ends inside the buffer is read. -/
theorem getU16_of_le (h : off + 2 ≤ b.length) :
    getU16 b off = .ok (ne.toU16 ((b.drop off).take 2)) := by
  simp [getU16, slice_ok (by omega : off ≤ off + 2) h]

theorem getU32_of_le (h : off + 4 ≤ b.length) :
    getU32 b off = .ok (ne.toU32 ((b.drop off).take 4)) := by
  simp [getU32, slice_ok (by omega : off ≤ off + 4) h]

theorem getU64_of_le (h : off + 8 ≤ b.length) :
    getU64 b off = .ok (ne.toU64 ((b.drop off).take 8)) := by
  simp [getU64, slice_ok (by omega : off ≤ off + 8) h]

theorem getI32_of_le (h : off + 4 ≤ b.length) :
    getI32 b off = .ok (ne.toI32 ((b.drop off).take 4)) := by
  simp [getI32, slice_ok (by omega : off ≤ off + 4) h]

theorem getI64_of_le (h : off + 8 ≤ b.length) :
    getI64 b off = .ok (ne.toI64 ((b.drop off).take 8)) := by
  simp [getI64, slice_ok (by omega : off ≤ off + 8) h]

omit [Host] in
theorem getU16Be_of_le (h : off + 2 ≤ b.length) :
    getU16Be b off = .ok (be.toU16 ((b.drop off).take 2)) := by
  simp [getU16Be, slice_ok (by omega : off ≤ off + 2) h]

omit [Host] in
/-- Octets are read where all of them are inside. -/
theorem getOctets_of_le {n : ℕ} (h : off + n ≤ b.length) :
    getOctets b off n = .ok (.ofBytes n ((b.drop off).take n)) := by
  simp [getOctets, slice_ok (by omega : off ≤ off + n) h]

/-! ## Getters on a buffer that is too short -/

omit [Host] in
theorem getU8_of_ge (h : b.length ≤ off) : getU8 b off = .panic := index_eq_panic_iff.2 h

/-- A field that ends behind it is a panic. -/
theorem getU16_of_lt (h : b.length < off + 2) : getU16 b off = .panic := by
  rw [getU16, slice_panic h, Outcome.map_panic]

theorem getU32_of_lt (h : b.length < off + 4) : getU32 b off = .panic := by
  rw [getU32, slice_panic h, Outcome.map_panic]

theorem getU64_of_lt (h : b.length < off + 8) : getU64 b off = .panic := by
  rw [getU64, slice_panic h, Outcome.map_panic]

theorem getI32_of_lt (h : b.length < off + 4) : getI32 b off = .panic := by
  rw [getI32, slice_panic h, Outcome.map_panic]

omit [Host] in
/-- They are a panic where one is not. -/
theorem getOctets_of_lt {n : ℕ} (h : b.length < off + n) : getOctets b off n = .panic := by
  rw [getOctets, slice_panic h, Outcome.map_panic]

omit [Host] in
theorem getU16Be_of_lt (h : b.length < off + 2) : getU16Be b off = .panic := by
  rw [getU16Be, slice_panic h, Outcome.map_panic]

/-! ## Getters do not fail -/

omit [Host] in
/-- Reading a field gives no error. -/
theorem getU8_ne_err (e : DecodeError) : getU8 b off ≠ .err e := by
  rcases Nat.lt_or_ge off b.length with h | h
  · simp [getU8_of_lt h]
  · simp [getU8_of_ge h]

theorem getU16_ne_err (e : DecodeError) : getU16 b off ≠ .err e := by
  rcases Nat.lt_or_ge b.length (off + 2) with h | h
  · simp [getU16_of_lt h]
  · simp [getU16_of_le h]

theorem getU32_ne_err (e : DecodeError) : getU32 b off ≠ .err e := by
  rcases Nat.lt_or_ge b.length (off + 4) with h | h
  · simp [getU32_of_lt h]
  · simp [getU32_of_le h]

theorem getU64_ne_err (e : DecodeError) : getU64 b off ≠ .err e := by
  rcases Nat.lt_or_ge b.length (off + 8) with h | h
  · simp [getU64_of_lt h]
  · simp [getU64_of_le h]

theorem getI32_ne_err (e : DecodeError) : getI32 b off ≠ .err e := by
  rcases Nat.lt_or_ge b.length (off + 4) with h | h
  · simp [getI32_of_lt h]
  · simp [getI32_of_le h]

omit [Host] in
theorem getU16Be_ne_err (e : DecodeError) : getU16Be b off ≠ .err e := by
  rcases Nat.lt_or_ge b.length (off + 2) with h | h
  · simp [getU16Be_of_lt h]
  · simp [getU16Be_of_le h]

/-! ## Getters inside the first fields -/

omit [Host] in
/-- A range is cut out of the first part when it ends there. -/
theorem slice_inside {lo hi : ℕ} (h : hi ≤ b.length) : slice (b ++ c) lo hi = slice b lo hi := by
  by_cases hlo : lo ≤ hi
  · rw [slice_ok hlo (by rw [List.length_append]; omega), slice_ok hlo h,
      List.drop_append_of_le_length (by omega),
      List.take_append_of_le_length (by rw [List.length_drop]; omega)]
  · rw [slice, if_neg (fun hb => hlo hb.1), slice, if_neg (fun hb => hlo hb.1)]

omit [Host] in
/-- A field is read from the first part when it ends there. -/
theorem getU8_inside (h : off + 1 ≤ b.length) : getU8 (b ++ c) off = getU8 b off := by
  simp only [getU8, index, List.getElem?_append_left h]

theorem getU16_inside (h : off + 2 ≤ b.length) : getU16 (b ++ c) off = getU16 b off := by
  rw [getU16, getU16, slice_inside h]

theorem getU32_inside (h : off + 4 ≤ b.length) : getU32 (b ++ c) off = getU32 b off := by
  rw [getU32, getU32, slice_inside h]

theorem getI32_inside (h : off + 4 ≤ b.length) : getI32 (b ++ c) off = getI32 b off := by
  rw [getI32, getI32, slice_inside h]

/-! ## Getters past the first fields -/

/-- A field behind a first part is read from the rest. -/
theorem getU16_append (h : b.length ≤ off) : getU16 (b ++ c) off = getU16 c (off - b.length) := by
  rw [getU16, getU16, slice_append_right h (by omega),
    show off + 2 - b.length = off - b.length + 2 by omega]

theorem getU32_append (h : b.length ≤ off) : getU32 (b ++ c) off = getU32 c (off - b.length) := by
  rw [getU32, getU32, slice_append_right h (by omega),
    show off + 4 - b.length = off - b.length + 4 by omega]

theorem getU64_append (h : b.length ≤ off) : getU64 (b ++ c) off = getU64 c (off - b.length) := by
  rw [getU64, getU64, slice_append_right h (by omega),
    show off + 8 - b.length = off - b.length + 8 by omega]

theorem getI32_append (h : b.length ≤ off) : getI32 (b ++ c) off = getI32 c (off - b.length) := by
  rw [getI32, getI32, slice_append_right h (by omega),
    show off + 4 - b.length = off - b.length + 4 by omega]

theorem getI64_append (h : b.length ≤ off) : getI64 (b ++ c) off = getI64 c (off - b.length) := by
  rw [getI64, getI64, slice_append_right h (by omega),
    show off + 8 - b.length = off - b.length + 8 by omega]

omit [Host] in
theorem getU16Be_append (h : b.length ≤ off) :
    getU16Be (b ++ c) off = getU16Be c (off - b.length) := by
  rw [getU16Be, getU16Be, slice_append_right h (by omega),
    show off + 2 - b.length = off - b.length + 2 by omega]

omit [Host] in
theorem getOctets_append {n : ℕ} (h : b.length ≤ off) :
    getOctets (b ++ c) off n = getOctets c (off - b.length) n := by
  rw [getOctets, getOctets, slice_append_right h (by omega),
    show off + n - b.length = off - b.length + n by omega]

/-- Past the first byte, a getter reads the rest. -/
@[simp] theorem getU16_cons : getU16 (x :: c) (off + 1) = getU16 c off := by
  simpa using @getU16_append [x] c (off + 1) _ (by simp)

@[simp] theorem getU32_cons : getU32 (x :: c) (off + 1) = getU32 c off := by
  simpa using @getU32_append [x] c (off + 1) _ (by simp)

@[simp] theorem getI32_cons : getI32 (x :: c) (off + 1) = getI32 c off := by
  simpa using @getI32_append [x] c (off + 1) _ (by simp)

omit [Host] in
@[simp] theorem getU16Be_cons : getU16Be (x :: c) (off + 1) = getU16Be c off := by
  simpa using @getU16Be_append [x] c (off + 1) (by simp)

omit [Host] in
@[simp] theorem getOctets_cons {n : ℕ} : getOctets (x :: c) (off + 1) n = getOctets c off n := by
  simpa using @getOctets_append [x] c (off + 1) n (by simp)

/-! ## Getters at the first field -/

/-- A field that stands in front is read back, whatever follows. -/
@[simp] theorem getU16_u16_append {v : UInt16} : getU16 (ne.u16 v ++ c) 0 = .ok v := by
  rw [getU16, slice_append_left (by simp)]
  simp

@[simp] theorem getU32_u32_append {v : UInt32} : getU32 (ne.u32 v ++ c) 0 = .ok v := by
  rw [getU32, slice_append_left (by simp)]
  simp

@[simp] theorem getU64_u64_append {v : UInt64} : getU64 (ne.u64 v ++ c) 0 = .ok v := by
  rw [getU64, slice_append_left (by simp)]
  simp

@[simp] theorem getI32_i32_append {v : Int32} : getI32 (ne.i32 v ++ c) 0 = .ok v := by
  rw [getI32, slice_append_left (by simp)]
  simp

@[simp] theorem getI64_i64_append {v : Int64} : getI64 (ne.i64 v ++ c) 0 = .ok v := by
  rw [getI64, slice_append_left (by simp)]
  simp

omit [Host] in
@[simp] theorem getU16Be_u16_append {v : UInt16} : getU16Be (be.u16 v ++ c) 0 = .ok v := by
  rw [getU16Be, slice_append_left (by simp)]
  simp

omit [Host] in
@[simp] theorem getOctets_val_append {n : ℕ} {a : Octets n} :
    getOctets (a.val ++ c) 0 n = .ok a := by
  rw [getOctets, slice_append_left (by simp [a.property]), Outcome.map_ok, Octets.ofBytes_coe]

@[simp] theorem getI32_i32 {v : Int32} : getI32 (ne.i32 v) 0 = .ok v := by
  simpa using getI32_i32_append (v := v) (c := [])

end Getters

/-! ## Structures -/

/-- The bytes of a layout, in order. -/
abbrev layoutBytes (fs : List (ℕ × Bytes)) : Bytes := fs.flatMap Prod.snd

/-- A structure whose fields tile its length. -/
structure StructCodec (α : Type) where
  /-- Its size. -/
  len : ℕ
  /-- The getters of all fields. -/
  parse : Bytes → Outcome α
  /-- The setters of all fields: places and bytes. -/
  layout : α → List (ℕ × Bytes)
  tiles : ∀ v, Tiles 0 (layout v)
  length_layout : ∀ v, (layoutBytes (layout v)).length = len
  parse_layout : ∀ v rest, parse (layoutBytes (layout v) ++ rest) = .ok v
  parse_of_le : ∀ b : Bytes, len ≤ b.length → ∃ v, parse b = .ok v

namespace StructCodec

variable {α : Type} (s : StructCodec α) {v : α}

/-- All setters. -/
def emit (v : α) : Emitter := fields (s.layout v)

/-- The bytes of a value. -/
def bytes (v : α) : Bytes := layoutBytes (s.layout v)

@[simp] theorem length_bytes : (s.bytes v).length = s.len := s.length_layout v

/-- A structure writes all of its bytes. -/
theorem writes_emit : Writes (s.emit v) s.len (s.bytes v) :=
  s.length_layout v ▸ (covers_fields (s.tiles v)).writes

/-- A slice that is long enough is read without a panic. -/
theorem parse_ne_panic (h : s.len ≤ b.length) : s.parse b ≠ .panic := by
  obtain ⟨v, hv⟩ := s.parse_of_le b h
  simp [hv]

/-- A structure that panics on what is short panics on nothing else. -/
theorem parse_eq_panic_iff_of_short (h : b.length < s.len → s.parse b = .panic) :
    s.parse b = .panic ↔ b.length < s.len := by
  refine ⟨fun hp => ?_, h⟩
  by_contra hlen
  exact s.parse_ne_panic (Nat.not_lt.1 hlen) hp

/-- A struct is read back from its bytes. -/
@[simp] theorem parse_bytes : s.parse (s.bytes v) = .ok v := by
  simpa [bytes] using s.parse_layout v []

end StructCodec

end NetlinkRoute
