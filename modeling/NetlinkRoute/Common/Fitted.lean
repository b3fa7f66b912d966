import NetlinkRoute.Common.Message
/-!
# Structures — payloads of another size

Some structures grow: an older sender has less of one than the program
knows, a newer one more. What is short is filled up with zeros and what is
long is cut (`fitted`). Where the fields of a structure stand one behind the
other, in its first bytes, those are the bytes that it is written back to
(`Covered`).
-/

namespace NetlinkRoute

open Emitter

variable {b p : Bytes} {len inner : ℕ}

/-- A payload, filled up with zeros or cut. -/
def fitted (len : ℕ) (p : Bytes) : Bytes := (p ++ zeros (len - p.length)).take len

/-- A payload that is long enough is cut. -/
theorem fitted_of_le_length (h : len ≤ p.length) : fitted len p = p.take len := by
  rw [fitted, List.take_append_of_le_length h]

@[simp] theorem length_fitted : (fitted len p).length = len := by
  rw [fitted, List.length_take, List.length_append, length_zeros]
  omega

@[simp] theorem fitted_fitted : fitted len (fitted len p) = fitted len p := by
  rw [fitted_of_le_length (Nat.le_of_eq length_fitted.symm),
    List.take_of_length_le (Nat.le_of_eq length_fitted)]

/-! ## Fields one behind the other -/

/-- Fields of one width, read and written back, are the bytes they stand
in. -/
theorem flatMap_fields {k n : ℕ} {f : Bytes → Bytes} (hf : ∀ x : Bytes, x.length = k → f x = x)
    (h : n * k ≤ b.length) :
    (List.range n).flatMap (fun i => f ((b.drop (i * k)).take k)) = b.take (n * k) := by
  induction n with
  | zero => simp
  | succ n ih =>
    rw [Nat.succ_mul] at h
    have hlen : ((b.drop (n * k)).take k).length = k := by
      rw [List.length_take, List.length_drop]
      omega
    rw [List.range_succ, List.flatMap_append, ih (by omega), List.flatMap_singleton, hf _ hlen,
      Nat.succ_mul, List.take_add]

/-- Setters without gaps, in a buffer that is longer. -/
theorem gapped_of_tiles {fs : List (ℕ × Bytes)} {pos lim : ℕ} (h : Tiles pos fs) :
    gapped pos lim fs = layoutBytes fs ++ zeros (lim - (pos + (layoutBytes fs).length)) := by
  induction fs generalizing pos with
  | nil => simp [gapped]
  | cons f fs ih =>
    obtain ⟨hf, ht⟩ := h
    rw [gapped, hf, Nat.sub_self, zeros_zero, List.nil_append, ih ht, layoutBytes, layoutBytes,
      List.flatMap_cons, List.length_append, List.append_assoc, Nat.add_assoc]

/-- The fields of a structure of `len` bytes are its first `inner` ones. -/
structure Covered {α : Type} (read : Bytes → Outcome α) (bytes : α → Bytes) (len inner : ℕ) :
    Prop where
  le : inner ≤ len
  read_bytes : ∀ v, read (bytes v) = .ok v
  exists_read : ∀ b : Bytes, len ≤ b.length →
    ∃ v, read b = .ok v ∧ bytes v = b.take inner ++ zeros (len - inner)

section Codecs

variable {α : Type} {k n : ℕ} {f : Bytes → Bytes}

/-- A structure whose fields, all of one width, tile it. -/
theorem StructCodec.covered (s : StructCodec α) (hf : ∀ x : Bytes, x.length = k → f x = x)
    (hlen : s.len = n * k) (hread : ∀ b : Bytes, s.len ≤ b.length → ∃ v, s.parse b = .ok v ∧
      s.bytes v = (List.range n).flatMap fun i => f ((b.drop (i * k)).take k)) :
    Covered s.parse s.bytes s.len s.len where
  le := Nat.le_refl _
  read_bytes _ := s.parse_bytes
  exists_read b hb := by
    obtain ⟨v, hv, hbytes⟩ := hread b hb
    refine ⟨v, hv, ?_⟩
    rw [hbytes, flatMap_fields hf (hlen ▸ hb), Nat.sub_self, zeros_zero, List.append_nil, hlen]

/-- One whose fields tile its beginning. -/
theorem HeaderCodec.covered (s : HeaderCodec α) (hf : ∀ x : Bytes, x.length = k → f x = x)
    (hw : ∀ v, s.WellFormed v) (ht : ∀ v, Tiles 0 (s.layout v)) (hlen : n * k ≤ s.len)
    (hread : ∀ b : Bytes, s.len ≤ b.length → ∃ v, s.parse b = .ok v ∧
      layoutBytes (s.layout v) = (List.range n).flatMap fun i => f ((b.drop (i * k)).take k)) :
    Covered s.parse s.bytes s.len (n * k) where
  le := hlen
  read_bytes v := s.parse_bytes (hw v)
  exists_read b hb := by
    obtain ⟨v, hv, hbytes⟩ := hread b hb
    refine ⟨v, hv, ?_⟩
    rw [flatMap_fields hf (Nat.le_trans hlen hb)] at hbytes
    rw [HeaderCodec.bytes, gapped_of_tiles (ht v), hbytes, List.length_take,
      Nat.min_eq_left (Nat.le_trans hlen hb), Nat.zero_add]

end Codecs

/-- What is behind the structure is not read. -/
theorem Covered.read_take {α : Type} {read : Bytes → Outcome α} {bytes : α → Bytes}
    (h : Covered read bytes len inner) (hb : len ≤ b.length) : read (b.take len) = read b := by
  have hle := h.le
  obtain ⟨v, hv, hbytes⟩ := h.exists_read b hb
  obtain ⟨v', hv', hbytes'⟩ := h.exists_read (b.take len) (by rw [List.length_take]; omega)
  -- both are written back to the same bytes, from which only one is read
  rw [List.take_take, Nat.min_eq_left hle, ← hbytes] at hbytes'
  have hread := h.read_bytes v'
  rw [hbytes', h.read_bytes] at hread
  rw [hv, hv', hread]

end NetlinkRoute
