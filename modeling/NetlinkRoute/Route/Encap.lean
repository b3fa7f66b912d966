import NetlinkRoute.Route.Model.Encap
/-!
# Route — encapsulations, written and read

For each encapsulation: what is written does not depend on the buffer
(`writes_emit`), which values come back from their own bytes
(`WellFormed`, `roundTrips`), that what was decoded is such a value, and
when the decoder panics. Only the segment routing header of a local
action can make it panic (`Ipv6SrHdr.parse_eq_panic_iff`): its count
field is added and multiplied in eight bits, and an HMAC TLV is sliced
before its length is checked.
-/

namespace NetlinkRoute

open PacketUtils Emitter

/-! ## MPLS -/

namespace MplsLabel

variable {v : MplsLabel}

/-- The fields fit into their bits. -/
def InRange (v : MplsLabel) : Prop := v.label.toNat < 2 ^ 20 ∧ v.trafficClass.toNat < 8

instance (v : MplsLabel) : Decidable v.InRange := inferInstanceAs (Decidable (_ ∧ _))

/-- A mask of adjacent bits, shifted down, is a quotient and a remainder. -/
private theorem and_mask_shift (n : ℕ) {m k j : ℕ} (h : m >>> k = 2 ^ j - 1) :
    (n &&& m) >>> k = n / 2 ^ k % 2 ^ j := by
  rw [Nat.shiftRight_and_distrib, h, Nat.and_two_pow_sub_one_eq_mod, Nat.shiftRight_eq_div_pow]

/-- The label of a word is its upper twenty bits. -/
theorem label_ofU32 (d : UInt32) : (ofU32 d).label.toNat = d.toNat / 4096 := by
  have hd := d.toNat_lt
  simp only [ofU32, UInt32.toNat_shiftRight, UInt32.toNat_and]
  rw [show MPLS_LS_LABEL_SHIFT.toNat % 32 = 12 from rfl, and_mask_shift (k := 12) (j := 20) _ rfl]
  omega

/-- The traffic class is the three bits below. -/
theorem trafficClass_ofU32 (d : UInt32) : (ofU32 d).trafficClass.toNat = d.toNat / 512 % 8 := by
  simp only [ofU32, UInt32.toNat_toUInt8, UInt32.toNat_shiftRight, UInt32.toNat_and]
  rw [show MPLS_LS_TC_SHIFT.toNat % 32 = 9 from rfl, and_mask_shift (k := 9) (j := 3) _ rfl]
  omega

/-- The bottom of the stack is one bit. -/
theorem bottomOfStack_ofU32 (d : UInt32) :
    (ofU32 d).bottomOfStack = decide (d.toNat / 256 % 2 = 1) := by
  simp only [ofU32, gt_iff_lt, UInt32.lt_iff_toNat_lt, UInt32.toNat_and]
  have hdiv : (d.toNat &&& MPLS_LS_S_MASK.toNat) / 2 ^ 8 = d.toNat / 256 % 2 := by
    rw [← Nat.shiftRight_eq_div_pow]
    exact and_mask_shift (k := 8) (j := 1) _ rfl
  have hmod : (d.toNat &&& MPLS_LS_S_MASK.toNat) % 2 ^ 8 = 0 := by
    rw [Nat.and_mod_two_pow, show MPLS_LS_S_MASK.toNat % 2 ^ 8 = 0 from rfl, Nat.and_zero]
  congr 1
  simp only [UInt32.toNat_zero, eq_iff_iff]
  omega

/-- The time to live is the lowest byte. -/
theorem ttl_ofU32 (d : UInt32) : (ofU32 d).ttl.toNat = d.toNat % 256 := by
  simp only [ofU32, UInt32.toNat_toUInt8, UInt32.toNat_and]
  rw [show MPLS_LS_TTL_MASK.toNat = 2 ^ 8 - 1 from rfl, Nat.and_two_pow_sub_one_eq_mod]
  omega

/-- A word's label has fields in range. -/
theorem inRange_ofU32 (d : UInt32) : (ofU32 d).InRange := by
  have hd := d.toNat_lt
  rw [InRange, label_ofU32, trafficClass_ofU32]
  omega

/-- In range, the four fields stand side by side. -/
theorem toNat_toU32 (h : v.InRange) : v.toU32.toNat =
    v.label.toNat * 4096 + v.trafficClass.toNat * 512 + v.bottomOfStack.toNat * 256 +
      v.ttl.toNat := by
  obtain ⟨hl, htc⟩ := h
  have ht : v.ttl.toNat < 2 ^ 8 := v.ttl.toNat_lt
  have hs := v.bottomOfStack.toNat_lt
  have h1 : (v.label <<< MPLS_LS_LABEL_SHIFT).toNat = 2 ^ 12 * v.label.toNat := by
    rw [UInt32.toNat_shiftLeft, show MPLS_LS_LABEL_SHIFT.toNat % 32 = 12 from rfl,
      Nat.shiftLeft_eq]
    omega
  have h2 : (v.trafficClass.toUInt32 <<< MPLS_LS_TC_SHIFT).toNat =
      2 ^ 9 * v.trafficClass.toNat := by
    rw [UInt32.toNat_shiftLeft, show MPLS_LS_TC_SHIFT.toNat % 32 = 9 from rfl, Nat.shiftLeft_eq,
      UInt8.toNat_toUInt32]
    omega
  have h3 : (v.bottomOfStack.toUInt32 <<< MPLS_LS_S_SHIFT).toNat =
      2 ^ 8 * v.bottomOfStack.toNat := by
    cases v.bottomOfStack <;> rfl
  have h4 : (v.ttl.toUInt32 <<< MPLS_LS_TTL_SHIFT).toNat = v.ttl.toNat := by
    rw [UInt32.toNat_shiftLeft, show MPLS_LS_TTL_SHIFT.toNat % 32 = 0 from rfl, Nat.shiftLeft_eq,
      UInt8.toNat_toUInt32]
    omega
  have h34 : 2 ^ 8 * v.bottomOfStack.toNat + v.ttl.toNat < 2 ^ 9 := by omega
  -- fields below each other's shifts: the or is the sum
  rw [toU32, UInt32.toNat_or, UInt32.toNat_or, UInt32.toNat_or, h1, h2, h3, h4, Nat.or_assoc,
    Nat.or_assoc, ← Nat.two_pow_add_eq_or_of_lt ht, ← Nat.two_pow_add_eq_or_of_lt h34,
    ← Nat.two_pow_add_eq_or_of_lt (by omega)]
  omega

/-- In range, nothing is lost on the wire. -/
theorem ofU32_toU32 (h : v.InRange) : ofU32 v.toU32 = v := by
  have hn := toNat_toU32 h
  obtain ⟨hl, htc⟩ := h
  have ht : v.ttl.toNat < 2 ^ 8 := v.ttl.toNat_lt
  have hs := v.bottomOfStack.toNat_lt
  have h1 := label_ofU32 v.toU32
  have h2 := trafficClass_ofU32 v.toU32
  have h3 := bottomOfStack_ofU32 v.toU32
  have h4 := ttl_ofU32 v.toU32
  rw [hn] at h1 h2 h3 h4
  -- each field is the part of the word that its mask leaves
  have e1 : (ofU32 v.toU32).label = v.label := UInt32.toNat_inj.1 (by omega)
  have e2 : (ofU32 v.toU32).trafficClass = v.trafficClass := UInt8.toNat_inj.1 (by omega)
  have e3 : (ofU32 v.toU32).bottomOfStack = v.bottomOfStack := by
    rw [h3]
    cases v.bottomOfStack <;> simp <;> omega
  have e4 : (ofU32 v.toU32).ttl = v.ttl := UInt8.toNat_inj.1 (by omega)
  cases v
  cases h : ofU32 _
  simp_all

/-- A label in range is read back from its word. -/
@[simp] theorem parse_u32 (h : v.InRange) : parse (be.u32 v.toU32) = .ok v := by
  rw [parse, if_pos (length_u32 _ _), toU32_u32, ofU32_toU32 h]

@[simp] theorem parse_ne_panic {payload : Bytes} : parse payload ≠ .panic := by
  unfold parse
  split <;> simp

@[simp] theorem holds_parse {payload : Bytes} : (parse payload).Holds InRange := by
  unfold parse
  split
  · exact (Outcome.holds_ok _).2 (inRange_ofU32 _)
  · simp

end MplsLabel

namespace VecMplsLabel

/-- The bytes of a label stack. -/
def bytes (labels : List MplsLabel) : Bytes := labels.flatMap fun label => be.u32 label.toU32

variable {labels : List MplsLabel}

/-- A stack is written label by label. -/
theorem writes_emit : Writes (emit labels) (bufferLen labels) (bytes labels) := by
  have hlen : (labels.map fun _ => 4).sum = bufferLen labels := by simp [bufferLen]
  rw [← hlen]
  exact writes_inTurn_map fun label _ => writes_copy (length_u32 _ _)

/-- A stack is read four bytes at a time. -/
theorem parse_append {b rest : Bytes} (h : b.length = 4) : parse (b ++ rest) = (do
    let label ← MplsLabel.parse b
    let labels ← parse rest
    .ok (label :: labels)) := by
  obtain ⟨b0, b1, b2, b3, rfl⟩ := exists_of_length_eq_four h
  rfl

/-- Labels in range come back as a stack. -/
theorem parse_bytes (h : ∀ label ∈ labels, label.InRange) : parse (bytes labels) = .ok labels := by
  induction labels with
  | nil => rfl
  | cons label labels ih =>
    have hl := h label (by simp)
    have ih := ih fun l hl => h l (by simp [hl])
    rw [bytes, List.flatMap_cons, parse_append (length_u32 _ _), MplsLabel.parse_u32 hl,
      Outcome.ok_bind]
    rw [bytes] at ih
    rw [ih]
    rfl

/-- A payload is always a stack, and its labels are in range. -/
theorem parse_eq_ok (b : Bytes) :
    ∃ labels, parse b = .ok labels ∧ ∀ label ∈ labels, label.InRange := by
  fun_induction parse b with
  | case1 b0 b1 b2 b3 rest ih =>
    obtain ⟨labels, hl, hr⟩ := ih
    have hp : MplsLabel.parse [b0, b1, b2, b3] = .ok (.ofU32 (be.toU32 [b0, b1, b2, b3])) := rfl
    refine ⟨_, by rw [hp, hl]; rfl, ?_⟩
    simp only [List.mem_cons, forall_eq_or_imp]
    exact ⟨MplsLabel.inRange_ofU32 _, hr⟩
  | case2 => exact ⟨[], rfl, by simp⟩

@[simp] theorem parse_ne_panic {b : Bytes} : parse b ≠ .panic := by
  obtain ⟨labels, hl, -⟩ := parse_eq_ok b
  simp [hl]

@[simp] theorem holds_parse {b : Bytes} :
    (parse b).Holds fun labels => ∀ label ∈ labels, label.InRange := by
  obtain ⟨labels, hl, hr⟩ := parse_eq_ok b
  simpa [hl] using hr

end VecMplsLabel

namespace RouteMplsIpTunnel

/-- The kinds its parser names. -/
def kinds : List UInt16 := [MPLS_IPTUNNEL_DST, MPLS_IPTUNNEL_TTL]

/-- The values that come back from their own bytes. -/
def WellFormed : RouteMplsIpTunnel → Prop
  | .destination labels => ∀ label ∈ labels, label.InRange
  | .ttl _ => True
  | .other n => n.Unknown kinds

theorem uniform_emitValue (a : RouteMplsIpTunnel) : Uniform a.emitValue a.valueLen := by
  cases a with
  | destination labels => exact VecMplsLabel.writes_emit.uniform
  | ttl v => simp [emitValue, valueLen]
  | other n => exact n.uniform_emitValue

variable [PacketUtils] {a : RouteMplsIpTunnel} {nb : NlaBuffer}

/-- A well-formed attribute of an MPLS tunnel comes back. -/
theorem roundTrips (h : a.WellFormed) : RoundTrips parse a.nla a := by
  cases a with
  | destination labels =>
    exact VecMplsLabel.writes_emit.roundTrips_arm MPLS_IPTUNNEL_DST rfl rfl
      (by simp [VecMplsLabel.parse_bytes h])
  | ttl v => exact writes_u8.roundTrips_arm MPLS_IPTUNNEL_TTL rfl rfl (by simp)
  | other n => exact .of_default h

/-- Its parser gives well-formed attributes only. -/
theorem holds_parse (hv : NlaValid nb.buffer) : (parse nb).Holds WellFormed := by
  rw [parse, hv.carries.bind]
  refine holds_select ?_ fun hk => ?_
  · simp [WellFormed]
  · rw [hv.carries.defaultNla]
    exact (Outcome.holds_ok _).2 hk

theorem parse_ne_panic (hv : NlaValid nb.buffer) : parse nb ≠ .panic := by
  rw [parse, hv.carries.bind]
  refine select_ne_panic ?_ ?_
  · simp
  · simp [hv.carries.defaultNla]

end RouteMplsIpTunnel

/-! ## Segments -/

/-- The bytes of a list of segments. -/
def segmentBytes (segments : List Ipv6Addr) : Bytes := segments.flatMap Subtype.val

/-- Segments are sixteen bytes each. -/
theorem length_segmentBytes (segments : List Ipv6Addr) :
    (segmentBytes segments).length = segments.length * 16 := by
  induction segments with
  | nil => rfl
  | cons s segments ih =>
    have hs := s.property
    simp only [segmentBytes, List.flatMap_cons, List.length_append, List.length_cons] at ih ⊢
    omega

/-- The loop reads back the segments it is given, with one step of fuel
each. -/
theorem segmentsLoop_segmentBytes {fuel : ℕ} {segments : List Ipv6Addr}
    (h : segments.length ≤ fuel) : segmentsLoop fuel (segmentBytes segments) = .ok segments := by
  induction segments generalizing fuel with
  | nil => cases fuel <;> rfl
  | cons s segments ih =>
    obtain ⟨fuel, rfl⟩ : ∃ f, fuel = f + 1 := ⟨fuel - 1, by rw [List.length_cons] at h; omega⟩
    have hs : s.val.length = 16 := s.property
    have hne : s.val ++ segmentBytes segments ≠ [] := by
      intro hnil
      simp only [List.append_eq_nil_iff] at hnil
      simp [hnil.1] at hs
    rw [segmentBytes, List.flatMap_cons, ← segmentBytes, segmentsLoop, if_neg hne,
      slice_append_left hs.symm, Outcome.ok_bind, sliceFrom_ok (by simp [hs]),
      List.drop_left' hs, Outcome.ok_bind, ih (by simpa using h), Outcome.ok_bind,
      Octets.ofBytes_coe]

@[simp] theorem parseSegments_segmentBytes (segments : List Ipv6Addr) :
    parseSegments (segmentBytes segments) = .ok segments :=
  segmentsLoop_segmentBytes (by rw [length_segmentBytes]; omega)

/-- A whole number of segments is read without fail. -/
theorem segmentsLoop_ok {fuel n : ℕ} {b : Bytes} (hb : b.length = n * 16) (hn : n ≤ fuel) :
    ∃ segments, segmentsLoop fuel b = .ok segments := by
  induction fuel generalizing n b with
  | zero => exact ⟨[], rfl⟩
  | succ fuel ih =>
    rw [segmentsLoop]
    split
    · exact ⟨[], rfl⟩
    · next hne =>
      have hpos : 0 < b.length := List.length_pos_of_ne_nil hne
      obtain ⟨n, rfl⟩ : ∃ m, n = m + 1 := ⟨n - 1, by omega⟩
      rw [slice_ok (by omega) (by omega), Outcome.ok_bind, sliceFrom_ok (by omega),
        Outcome.ok_bind]
      obtain ⟨segments, hs⟩ := ih (b := b.drop 16) (n := n) (by rw [List.length_drop]; omega)
        (by omega)
      exact ⟨_, by rw [hs]; rfl⟩

/-- A string of whole segments is never refused. -/
theorem parseSegments_ok {n : ℕ} {b : Bytes} (hb : b.length = n * 16) :
    ∃ segments, parseSegments b = .ok segments := segmentsLoop_ok hb (by omega)

/-! ## Segment routing headers -/

namespace Ipv6SrHdr

variable [PacketUtils] {v : Ipv6SrHdr} {payload : Bytes}

/-- The bytes of a header and its segments. -/
def bytes (v : Ipv6SrHdr) : Bytes := layoutBytes v.layout ++ segmentBytes v.segments

theorem length_layout : (layoutBytes v.layout).length = 8 := by simp [layout]

/-- A routing header is written as its fixed part and its segments. -/
theorem writes_emit : Writes v.emit v.bufferLen v.bytes := by
  have ht : Tiles 0 v.layout := by simp [layout, Tiles]
  have hs : Writes (inTurn (v.segments.map fun s => (16, .copy s.val))) (v.segments.length * 16)
      (segmentBytes v.segments) := by
    have hlen : (v.segments.map fun _ => 16).sum = v.segments.length * 16 := by simp
    rw [← hlen]
    exact writes_inTurn_map fun s _ => writes_copy s.property
  have hw := (covers_fields ht).andThen_onTail hs (n := v.bufferLen) (by
    rw [bufferLen, length_layout])
  rwa [length_layout] at hw

/-- The fixed part is read back, whatever follows. -/
@[simp] theorem parseFixed_layout (rest : Bytes) :
    parseFixed (layoutBytes v.layout ++ rest) = .ok { v with segments := [], tlvs := [] } := by
  have hs : slice (layoutBytes v.layout ++ rest) 6 8 = .ok (ne.u16 v.tag) := by
    have he : layoutBytes v.layout ++ rest =
        [v.nexthdr, v.hdrlen, v.typ, v.segmentsLeft, v.firstSegment, v.flags] ++
          (ne.u16 v.tag ++ rest) := by simp [layout]
    rw [he, slice_append_right (by simp) (by omega)]
    exact slice_append_left (by simp)
  simp only [parseFixed, hs, Outcome.ok_bind, parseU16_u16]
  rfl

/-- Eight bytes are enough for the fixed part. -/
theorem parseFixed_of_le (h : 8 ≤ payload.length) : ∃ hdr, parseFixed payload = .ok hdr ∧
    hdr.segmentsLeft = payload.getD 3 0 ∧ hdr.segments = [] ∧ hdr.tlvs = [] := by
  have hi : ∀ i, i < 8 → index payload i = .ok (payload.getD i 0) :=
    fun i hi => index_of_lt (by omega)
  have hs := @slice_ok payload 6 8 (by omega) h
  have ht := parseU16_spec.ok ((payload.drop 6).take (8 - 6)) (by
    rw [List.length_take, List.length_drop]
    omega)
  simp only [parseFixed, hi _ (by omega : 0 < 8), hi _ (by omega : 1 < 8), hi _ (by omega : 2 < 8),
    hi _ (by omega : 3 < 8), hi _ (by omega : 4 < 8), hi _ (by omega : 5 < 8), hs, ht,
    Outcome.ok_bind, Outcome.context_ok, Outcome.pure_eq]
  exact ⟨_, rfl, rfl, rfl, rfl⟩

/-- The headers that come back from their own bytes: no TLVs, and as many
segments as the count field says, in a number that does not overflow. -/
def WellFormed (v : Ipv6SrHdr) : Prop :=
  v.tlvs = [] ∧ v.segments.length = v.segmentsLeft.toNat + 1 ∧ v.segments.length ≤ 15

omit [PacketUtils] in
/-- The size of the segments, as the decoder computes it. -/
theorem seglen_eq {n : UInt8} (h : n.toNat < 15) :
    ∃ m, addU8 n 1 = .ok m ∧ ∃ len, mulU8 m 16 = .ok len ∧ len.toNat = (n.toNat + 1) * 16 := by
  have h1 : addU8 n 1 = .ok (n + 1) := if_pos (by simp; omega)
  have hn : (n + 1).toNat = n.toNat + 1 := by
    rw [UInt8.toNat_add, show (1 : UInt8).toNat = 1 from rfl]
    omega
  have h2 : mulU8 (n + 1) 16 = .ok ((n + 1) * 16) :=
    if_pos (by rw [hn, show (16 : UInt8).toNat = 16 from rfl]; omega)
  refine ⟨_, h1, _, h2, ?_⟩
  rw [UInt8.toNat_mul, hn, show (16 : UInt8).toNat = 16 from rfl]
  omega

omit [PacketUtils] in
/-- The length of the segments overflows a byte from fifteen on. -/
theorem seglen_panic {n : UInt8} (h : 15 ≤ n.toNat) :
    (do let m ← addU8 n 1; mulU8 m 16) = .panic := by
  unfold addU8
  split
  · next hlt =>
    rw [show (1 : UInt8).toNat = 1 from rfl] at hlt
    have hn : (n + 1).toNat = n.toNat + 1 := by
      rw [UInt8.toNat_add, show (1 : UInt8).toNat = 1 from rfl]
      omega
    rw [Outcome.ok_bind]
    exact if_neg (by rw [hn, show (16 : UInt8).toNat = 16 from rfl]; omega)
  · rfl

/-- A well-formed header comes back. -/
theorem parse_bytes (h : v.WellFormed) : parse v.bytes = .ok v := by
  obtain ⟨htlv, hseg, hle⟩ := h
  have hlen := length_segmentBytes v.segments
  obtain ⟨m, hm, len, hl, hlt⟩ := seglen_eq (n := v.segmentsLeft) (by omega)
  have hfull : len.toNat = (segmentBytes v.segments).length := by omega
  rw [parse, bytes, if_neg (by rw [List.length_append, length_layout]; omega), parseFixed_layout,
    Outcome.ok_bind, sliceFrom_ok (by rw [List.length_append, length_layout]; omega),
    List.drop_left' length_layout, Outcome.ok_bind]
  simp only [hm, hl, Outcome.ok_bind, hfull]
  rw [if_neg (by omega), slice_self, Outcome.ok_bind, parseSegments_segmentBytes, Outcome.ok_bind,
    sliceFrom_ok (by omega), List.drop_length, Outcome.ok_bind, parseTlvs, if_pos rfl,
    Outcome.ok_bind, ← htlv]

/-- A TLV area that the decoder slices past its end: it claims an HMAC of
the right length, and is shorter. -/
def TlvsCrash (tail : Bytes) : Prop :=
  4 ≤ tail.length ∧ tail.getD 0 0 = SR6_TLV_HMAC ∧ tail.getD 1 0 = 38 ∧ tail.length < 40

/-- The bytes behind the segments panic exactly where they crash. -/
theorem parseTlvs_eq_panic_iff {tail : Bytes} : parseTlvs tail = .panic ↔ TlvsCrash tail := by
  unfold parseTlvs TlvsCrash
  by_cases hnil : tail = []
  · simp [hnil]
  by_cases h4 : tail.length < 4
  · rw [if_neg hnil, if_pos h4]
    simp only [Outcome.fail_ne_panic, false_iff]
    omega
  -- a tail of four bytes is looked into: its type and its length come first
  have hi : ∀ i, i < 4 → index tail i = .ok (tail.getD i 0) :=
    fun i hi => index_of_lt (by omega)
  rw [if_neg hnil, if_neg h4, hi 0 (by omega), hi 1 (by omega), hi 2 (by omega)]
  simp only [Outcome.ok_bind]
  split
  · next htyp =>
    split
    · next hlen =>
      simp only [Outcome.fail_ne_panic, false_iff]
      exact fun h => hlen h.2.2.1
    · next hlen =>
      rw [not_not] at hlen
      -- the word and the digest are sliced without a check of what is left
      rcases Nat.lt_or_ge tail.length 8 with h8 | h8
      · rw [slice_panic h8]
        simp only [Outcome.panic_bind, true_iff]
        exact ⟨by omega, htyp, hlen, by omega⟩
      · have hk := parseU32Be_spec.ok ((tail.drop 4).take (8 - 4)) (by
          rw [List.length_take, List.length_drop]
          omega)
        rw [slice_ok (by omega) h8, Outcome.ok_bind, hk, Outcome.context_ok, Outcome.ok_bind,
          sliceFrom_ok h8, Outcome.ok_bind]
        rcases Nat.lt_or_ge (tail.drop 8).length 32 with h | h
        · rw [slice_panic h, List.length_drop] at *
          simp only [Outcome.panic_bind, true_iff]
          exact ⟨by omega, htyp, hlen, by omega⟩
        · rw [slice_ok (by omega) h, List.length_drop] at *
          simp only [Outcome.ok_bind, reduceCtorEq, false_iff]
          omega
  · next htyp =>
    simp only [reduceCtorEq, false_iff]
    exact fun h => htyp h.2.1

/-- The headers that make the decoder panic. -/
def Crashes (payload : Bytes) : Prop :=
  8 ≤ payload.length ∧ (15 ≤ (payload.getD 3 0).toNat ∨
    8 + ((payload.getD 3 0).toNat + 1) * 16 ≤ payload.length ∧
      TlvsCrash (payload.drop (8 + ((payload.getD 3 0).toNat + 1) * 16)))

/-- **When the decoder of a segment routing header panics.** -/
theorem parse_eq_panic_iff : parse payload = .panic ↔ Crashes payload := by
  unfold Crashes
  rcases Nat.lt_or_ge payload.length 8 with h8 | h8
  · rw [parse, if_pos h8]
    simp only [Outcome.fail_ne_panic, false_iff]
    omega
  obtain ⟨hdr, hf, hsl, -, -⟩ := parseFixed_of_le h8
  rw [parse, if_neg (by omega), hf, Outcome.ok_bind, sliceFrom_ok h8, Outcome.ok_bind, hsl]
  rcases Nat.lt_or_ge (payload.getD 3 0).toNat 15 with hlt | hge
  -- the length of the segments is an eight-bit number: sixteen of them overflow it
  · obtain ⟨m, hm, len, hl, hlen⟩ := seglen_eq hlt
    simp only [hm, hl, Outcome.ok_bind, hlen, List.length_drop]
    split
    · simp only [Outcome.fail_ne_panic, false_iff]
      omega
    · next hle =>
      obtain ⟨segments, hs⟩ := parseSegments_ok (n := (payload.getD 3 0).toNat + 1)
        (b := ((payload.drop 8).drop 0).take (((payload.getD 3 0).toNat + 1) * 16 - 0)) (by
          rw [List.length_take, List.length_drop, List.length_drop]
          omega)
      rw [slice_ok (by omega) (by rw [List.length_drop]; omega), Outcome.ok_bind, hs,
        Outcome.ok_bind, sliceFrom_ok (by rw [List.length_drop]; omega), Outcome.ok_bind,
        List.drop_drop, Outcome.bind_eq_panic, parseTlvs_eq_panic_iff]
      simp only [reduceCtorEq, and_false, exists_false, or_false]
      constructor
      · exact fun h => ⟨h8, .inr ⟨by omega, h⟩⟩
      · rintro ⟨-, h | ⟨-, h⟩⟩
        · omega
        · exact h
  · have hp := seglen_panic hge
    have hb : ∀ {β : Type} (F : UInt8 → Outcome β),
        (do let m ← addU8 (payload.getD 3 0) 1; let len ← mulU8 m 16; F len) = .panic := by
      intro β F
      rw [← bind_assoc, hp]
      rfl
    rw [hb]
    simp only [true_iff]
    exact ⟨h8, .inl hge⟩

end Ipv6SrHdr

/-! ## Segment routing, the headers a route pushes -/

namespace Seg6IpTunnelEncap

variable [PacketUtils] {v : Seg6IpTunnelEncap} {payload : Bytes}

/-- The bytes of the mode and the headers. -/
def bytes (v : Seg6IpTunnelEncap) : Bytes :=
  ne.u32 (Seg6IpTunnelMode.codec.toNum v.mode) ++ v.ipv6SrHdr.flatMap Ipv6SrHdr.bytes

/-- An encapsulation is written as its mode and its routing header. -/
theorem writes_emit : Writes v.emit v.bufferLen v.bytes := by
  have hh : Writes (inTurn (v.ipv6SrHdr.map fun hdr => (hdr.bufferLen, hdr.emit)))
      (v.ipv6SrHdr.map Ipv6SrHdr.bufferLen).sum (v.ipv6SrHdr.flatMap Ipv6SrHdr.bytes) :=
    writes_inTurn_map fun hdr _ => Ipv6SrHdr.writes_emit
  have hw := (covers_put (ne.u32 (Seg6IpTunnelMode.codec.toNum v.mode))).andThen_onTail hh
    (n := v.bufferLen) (by rw [length_u32, bufferLen])
  rwa [length_u32] at hw

/-- The decoder makes one header of all that follows the mode. -/
def WellFormed (v : Seg6IpTunnelEncap) : Prop :=
  Seg6IpTunnelMode.codec.Canonical v.mode ∧ ∃ hdr, v.ipv6SrHdr = [hdr] ∧ hdr.tlvs = []

/-- A well-formed encapsulation comes back. -/
theorem parse_bytes (h : v.WellFormed) : parse v.bytes = .ok v := by
  obtain ⟨hmode, hdr, hhdr, htlv⟩ := h
  have hlen := length_segmentBytes hdr.segments
  have h8 := Ipv6SrHdr.length_layout (v := hdr)
  have hb : v.bytes = ne.u32 (Seg6IpTunnelMode.codec.toNum v.mode) ++
      (layoutBytes hdr.layout ++ segmentBytes hdr.segments) := by
    simp [bytes, hhdr, Ipv6SrHdr.bytes]
  rw [hb, parse, if_neg (by rw [List.length_append, length_u32]; omega),
    slice_append_left (length_u32 _ _).symm, Outcome.ok_bind, parseU32_u32, Outcome.context_ok,
    Outcome.ok_bind, sliceFrom_ok (by rw [List.length_append, length_u32]; omega),
    List.drop_left' (length_u32 _ _), Outcome.ok_bind,
    if_neg (by rw [List.length_append]; omega), Ipv6SrHdr.parseFixed_layout, Outcome.ok_bind,
    sliceFrom_ok (by rw [List.length_append]; omega), List.drop_left' h8, Outcome.ok_bind,
    if_neg (by omega), parseSegments_segmentBytes, Outcome.ok_bind, hmode.ofNum_toNum]
  obtain ⟨mode, hdrs⟩ := v
  subst hhdr
  simp [← htlv]

/-- Its parser gives well-formed ones only. -/
theorem holds_parse : (parse payload).Holds WellFormed := by
  unfold parse
  split
  · simp
  · simp only [Outcome.holds_bind]
    intro _ _ mode _ rest _
    split
    · simp
    · simp only [Outcome.holds_bind]
      intro hdr hhdr _ _
      split
      · simp
      · simp only [Outcome.holds_bind, Outcome.holds_ok]
        intro segments _
        obtain ⟨hdr', hf, -, -, htlv⟩ := @Ipv6SrHdr.parseFixed_of_le _ rest (by omega)
        rw [hf] at hhdr
        cases hhdr
        exact ⟨EnumCodec.canonical_ofNum _ _, _, rfl, htlv⟩

@[simp] theorem parse_ne_panic : parse payload ≠ .panic := by
  unfold parse
  split
  · simp
  · next h4 =>
    have hm := parseU32_spec.ok ((payload.drop 0).take (4 - 0)) (by
      rw [List.length_take, List.length_drop]
      omega)
    rw [slice_ok (by omega) (by omega), Outcome.ok_bind, hm, Outcome.context_ok, Outcome.ok_bind,
      sliceFrom_ok (by omega), Outcome.ok_bind]
    split
    · simp
    · next h8 =>
      obtain ⟨hdr, hf, -⟩ := @Ipv6SrHdr.parseFixed_of_le _ (payload.drop 4) (by omega)
      rw [hf, Outcome.ok_bind, sliceFrom_ok (by omega), Outcome.ok_bind]
      split
      · simp
      · next h16 =>
        rw [not_not] at h16
        -- the bytes are a multiple of sixteen, so they are cut into whole segments
        obtain ⟨segments, hs⟩ := parseSegments_ok (b := (payload.drop 4).drop 8)
          (Nat.div_mul_cancel (Nat.dvd_of_mod_eq_zero h16)).symm
        rw [hs]
        simp

end Seg6IpTunnelEncap

namespace RouteSeg6IpTunnel

variable [PacketUtils] {a : RouteSeg6IpTunnel} {nb : NlaBuffer}

/-- The kinds its parser names. -/
def kinds : List UInt16 := [SEG6_IPTUNNEL_SRH]

/-- The values that come back from their own bytes. -/
def WellFormed : RouteSeg6IpTunnel → Prop
  | .seg6IpTunnel v => v.WellFormed
  | .other n => n.Unknown kinds

theorem uniform_emitValue (a : RouteSeg6IpTunnel) : Uniform a.emitValue a.valueLen := by
  cases a with
  | seg6IpTunnel v => exact Seg6IpTunnelEncap.writes_emit.uniform
  | other n => exact n.uniform_emitValue

/-- A well-formed attribute of a segment tunnel comes back. -/
theorem roundTrips (h : a.WellFormed) : RoundTrips parse a.nla a := by
  cases a with
  | seg6IpTunnel v =>
    exact Seg6IpTunnelEncap.writes_emit.roundTrips_arm SEG6_IPTUNNEL_SRH rfl rfl
      (by simp [Seg6IpTunnelEncap.parse_bytes h])
  | other n => exact .of_default h

/-- Its parser gives well-formed attributes only. -/
theorem holds_parse (hv : NlaValid nb.buffer) : (parse nb).Holds WellFormed := by
  rw [parse, hv.carries.bind]
  refine holds_select ?_ fun hk => ?_
  · simpa [WellFormed] using Seg6IpTunnelEncap.holds_parse
  · rw [hv.carries.defaultNla]
    exact (Outcome.holds_ok _).2 hk

theorem parse_ne_panic (hv : NlaValid nb.buffer) : parse nb ≠ .panic := by
  rw [parse, hv.carries.bind]
  refine select_ne_panic ?_ ?_
  · simp
  · simp [hv.carries.defaultNla]

end RouteSeg6IpTunnel

/-! ## Local segment routing actions -/

namespace Seg6LocalCounters

variable [PacketUtils] {a : Seg6LocalCounters} {nb : NlaBuffer}

/-- The kinds its parser names. -/
def kinds : List UInt16 :=
  [SEG6_LOCAL_CNT_UNSPEC, SEG6_LOCAL_CNT_PAD, SEG6_LOCAL_CNT_PACKETS, SEG6_LOCAL_CNT_BYTES,
    SEG6_LOCAL_CNT_ERRORS]

/-- The values that come back from their own bytes. -/
def WellFormed : Seg6LocalCounters → Prop
  | .other n => n.Unknown kinds
  | _ => True

/-- Padding is room that is not written. -/
def Clean : Seg6LocalCounters → Prop
  | .padding n => n = 0
  | _ => True

/-- A counter is written alike into all buffers exactly where it is clean. -/
theorem uniform_emitValue_iff : Uniform a.emitValue a.valueLen ↔ a.Clean := by
  cases a <;> simp [emitValue, valueLen, Clean]

/-- A well-formed counter comes back. -/
theorem roundTrips (h : a.WellFormed) : RoundTrips parse a.nla a := by
  cases a with
  | unspec => exact writes_skip.roundTrips_arm SEG6_LOCAL_CNT_UNSPEC rfl rfl rfl
  | padding n =>
    -- what is written is nothing: the buffer's own zeros are the padding
    exact .of_arm (v := zeros n) rfl SEG6_LOCAL_CNT_PAD rfl rfl (by simp)
  | packets v => exact writes_u64.roundTrips_arm SEG6_LOCAL_CNT_PACKETS rfl rfl (by simp)
  | bytes v => exact writes_u64.roundTrips_arm SEG6_LOCAL_CNT_BYTES rfl rfl (by simp)
  | errors v => exact writes_u64.roundTrips_arm SEG6_LOCAL_CNT_ERRORS rfl rfl (by simp)
  | other n => exact .of_default h

theorem parse_ne_panic (hv : NlaValid nb.buffer) : parse nb ≠ .panic := by
  rw [parse, hv.carries.bind]
  refine select_ne_panic ?_ ?_
  · simp
  · simp [hv.carries.defaultNla]

end Seg6LocalCounters

namespace Seg6LocalFlavors

variable [PacketUtils] {a : Seg6LocalFlavors} {nb : NlaBuffer}

/-- The kinds its parser names. -/
def kinds : List UInt16 :=
  [SEG6_LOCAL_FLV_OPERATION, SEG6_LOCAL_FLV_LCBLOCK_BITS, SEG6_LOCAL_FLV_LCNODE_FN_BITS]

/-- The values that come back from their own bytes. -/
def WellFormed : Seg6LocalFlavors → Prop
  | .operation v => Seg6LocalFlavorOps.codec.Canonical v
  | .other n => n.Unknown kinds
  | _ => True

theorem uniform_emitValue (a : Seg6LocalFlavors) : Uniform a.emitValue a.valueLen := by
  cases a <;> simp [emitValue, valueLen]

/-- A well-formed flavour comes back. -/
theorem roundTrips (h : a.WellFormed) : RoundTrips parse a.nla a := by
  cases a with
  | operation v =>
    exact writes_u32.roundTrips_arm SEG6_LOCAL_FLV_OPERATION rfl rfl (by simp [h.ofNum_toNum])
  | lblen v => exact writes_u8.roundTrips_arm SEG6_LOCAL_FLV_LCBLOCK_BITS rfl rfl (by simp)
  | nflen v => exact writes_u8.roundTrips_arm SEG6_LOCAL_FLV_LCNODE_FN_BITS rfl rfl (by simp)
  | other n => exact .of_default h

theorem parse_ne_panic (hv : NlaValid nb.buffer) : parse nb ≠ .panic := by
  rw [parse, hv.carries.bind]
  refine select_ne_panic ?_ ?_
  · simp
  · simp [hv.carries.defaultNla]

end Seg6LocalFlavors

namespace RouteSeg6LocalIpTunnel

variable [PacketUtils] {a : RouteSeg6LocalIpTunnel} {nb : NlaBuffer}

/-- The kinds its parser names. -/
def kinds : List UInt16 :=
  [SEG6_LOCAL_SRH, SEG6_LOCAL_ACTION, SEG6_LOCAL_TABLE, SEG6_LOCAL_NH4, SEG6_LOCAL_NH6,
    SEG6_LOCAL_IIF, SEG6_LOCAL_OIF, SEG6_LOCAL_VRFTABLE, SEG6_LOCAL_COUNTERS, SEG6_LOCAL_FLAVORS]

/-- The values that come back from their own bytes. -/
def WellFormed : RouteSeg6LocalIpTunnel → Prop
  | .action v => Seg6LocalAction.codec.Canonical v
  | .srh v => v.WellFormed
  | .counters l => ∀ c ∈ l, c.WellFormed
  | .flavors l => ∀ f ∈ l, f.WellFormed
  | .other n => n.Unknown kinds
  | _ => True

/-- Every byte of the payload is written. -/
def Clean : RouteSeg6LocalIpTunnel → Prop
  | .counters l => ∀ c ∈ l, c.Clean
  | _ => True

/-- All of them are, but for the padding among counters. -/
theorem uniform_emitValue_iff (hs : Frames a.valueLen) :
    Uniform a.emitValue a.valueLen ↔ a.Clean := by
  cases a with
  | srh v =>
    simp only [Clean, iff_true]
    exact Ipv6SrHdr.writes_emit.uniform
  | counters l =>
    rw [emitValue, valueLen, uniform_emitNlas_map_iff hs]
    exact forall₂_congr fun _ _ => Seg6LocalCounters.uniform_emitValue_iff
  | flavors l =>
    rw [emitValue, valueLen, uniform_emitNlas_map_iff hs]
    exact iff_of_true (fun f _ => f.uniform_emitValue) trivial
  | nh4 v => exact iff_of_true (writes_put v.property).uniform trivial
  | nh6 v => exact iff_of_true (writes_put v.property).uniform trivial
  | _ => simp [emitValue, valueLen, Clean]

/-- A well-formed local segment comes back, nested lists within their length
word. -/
theorem roundTrips (h : a.WellFormed) (hlen : a.valueLen ≤ 65531) : RoundTrips parse a.nla a := by
  cases a with
  | action v =>
    exact writes_u32.roundTrips_arm SEG6_LOCAL_ACTION rfl rfl (by simp [h.ofNum_toNum])
  | srh v =>
    exact Ipv6SrHdr.writes_emit.roundTrips_arm SEG6_LOCAL_SRH rfl rfl
      (by simp [Ipv6SrHdr.parse_bytes h])
  | nh4 v => exact (writes_put v.property).roundTrips_arm SEG6_LOCAL_NH4 rfl rfl (by simp)
  | nh6 v => exact (writes_put v.property).roundTrips_arm SEG6_LOCAL_NH6 rfl rfl (by simp)
  | counters l =>
    obtain ⟨out, hout, hread⟩ := exists_readsAs (r := id) (t := Seg6LocalCounters.nla)
      (fun c hc _ => Seg6LocalCounters.roundTrips (h c hc)) hlen
    exact .of_arm hout (SEG6_LOCAL_COUNTERS ||| NLA_F_NESTED) rfl rfl
      (by simp [hread.parseNlas_eq])
  | flavors l =>
    obtain ⟨out, hout, hread⟩ := exists_readsAs (r := id) (t := Seg6LocalFlavors.nla)
      (fun f hf _ => Seg6LocalFlavors.roundTrips (h f hf)) hlen
    exact .of_arm hout (SEG6_LOCAL_FLAVORS ||| NLA_F_NESTED) rfl rfl
      (by simp [hread.parseNlas_eq])
  | table v => exact writes_u32.roundTrips_arm SEG6_LOCAL_TABLE rfl rfl (by simp)
  | iif v => exact writes_u32.roundTrips_arm SEG6_LOCAL_IIF rfl rfl (by simp)
  | oif v => exact writes_u32.roundTrips_arm SEG6_LOCAL_OIF rfl rfl (by simp)
  | vrfTable v => exact writes_u32.roundTrips_arm SEG6_LOCAL_VRFTABLE rfl rfl (by simp)
  | other n => exact .of_default h

/-- The attributes that make the decoder panic. -/
def Crashes (nb : NlaBuffer) : Prop :=
  nlaWord nb.buffer &&& NLA_TYPE_MASK = SEG6_LOCAL_SRH ∧ Ipv6SrHdr.Crashes (nlaValue nb.buffer)

/-- Its parser panics exactly in the routing header. -/
theorem parse_eq_panic_iff (hv : NlaValid nb.buffer) : parse nb = .panic ↔ Crashes nb := by
  rw [parse, hv.carries.bind]
  by_cases hk : nlaWord nb.buffer &&& NLA_TYPE_MASK = SEG6_LOCAL_SRH
  · rw [hk, select_of_find rfl]
    simp [Crashes, hk, Ipv6SrHdr.parse_eq_panic_iff]
  · simp only [Crashes, hk, false_and, iff_false]
    refine select_ne_panic ?_ ?_
    · have hcnt : ∀ e e', parseNlas e e' Seg6LocalCounters.parse (nlaValue nb.buffer) ≠ .panic :=
        fun _ _ => parseNlas_ne_panic fun nb hnb =>
          Seg6LocalCounters.parse_ne_panic (valid_of_mem_nlas hnb)
      have hflv : ∀ e e', parseNlas e e' Seg6LocalFlavors.parse (nlaValue nb.buffer) ≠ .panic :=
        fun _ _ => parseNlas_ne_panic fun nb hnb =>
          Seg6LocalFlavors.parse_ne_panic (valid_of_mem_nlas hnb)
      simp [hk, hcnt, hflv]
    · simp [hv.carries.defaultNla]

end RouteSeg6LocalIpTunnel

/-! ## All encapsulations -/

namespace RouteLwTunnelEncap

variable [PacketUtils] {a : RouteLwTunnelEncap} {kind : RouteLwEnCapType} {nb : NlaBuffer}

/-- The value is of the variant that the encapsulation type selects, and
comes back from its own bytes. -/
def WellFormed (kind : RouteLwEnCapType) (a : RouteLwTunnelEncap) : Prop :=
  match kind, a with
  | .mpls, .mpls v => v.WellFormed
  | .mpls, _ => False
  | .seg6, .seg6 v => v.WellFormed
  | .seg6, _ => False
  | .seg6Local, .seg6Local v => v.WellFormed
  | .seg6Local, _ => False
  | _, .other _ => True
  | _, _ => False

/-- Every byte of the payload is written. -/
def Clean : RouteLwTunnelEncap → Prop
  | .seg6Local v => v.Clean
  | _ => True

omit [PacketUtils] in
/-- Only a local segment can depend on what the buffer held. -/
theorem WellFormed.clean (h : a.WellFormed kind) (hkind : kind ≠ .seg6Local) : a.Clean := by
  cases a with
  | seg6Local v => cases kind <;> first | exact absurd rfl hkind | exact h.elim
  | _ => trivial

/-- All of them are, but for the padding in a local segment routing
action. -/
theorem uniform_emitValue_iff (hs : Frames a.valueLen) :
    Uniform a.emitValue a.valueLen ↔ a.Clean := by
  cases a with
  | mpls v => simpa [emitValue, valueLen, Clean] using v.uniform_emitValue
  | seg6 v => simpa [emitValue, valueLen, Clean] using v.uniform_emitValue
  | seg6Local v => exact RouteSeg6LocalIpTunnel.uniform_emitValue_iff hs
  | other v => simp [emitValue, valueLen, Clean]

/-- A well-formed attribute of an encapsulation comes back under its type. -/
theorem roundTrips (h : a.WellFormed kind) (hlen : a.valueLen ≤ 65531) :
    RoundTrips (parseWithParam kind) a.nla a := by
  cases a with
  | mpls v =>
    cases kind <;> first | exact h.elim | skip
    exact (RouteMplsIpTunnel.roundTrips h).map _ fun _ => rfl
  | seg6 v =>
    cases kind <;> first | exact h.elim | skip
    exact (RouteSeg6IpTunnel.roundTrips h).map _ fun _ => rfl
  | seg6Local v =>
    cases kind <;> first | exact h.elim | skip
    exact (RouteSeg6LocalIpTunnel.roundTrips h hlen).map _ fun _ => rfl
  | other n =>
    refine (writes_copy rfl).roundTrips fun nb hc => ?_
    cases kind <;> first | exact h.elim | skip
    all_goals
      simp only [parseWithParam, hc.defaultNla]
      rfl

/-- What is decoded is well formed, local actions apart: those may have
TLVs, which are not written. -/
theorem holds_parseWithParam (hv : NlaValid nb.buffer) (hkind : kind ≠ .seg6Local) :
    (parseWithParam kind nb).Holds (WellFormed kind) := by
  cases kind with
  | mpls => exact Outcome.holds_map.2 (RouteMplsIpTunnel.holds_parse hv)
  | seg6 => exact Outcome.holds_map.2 (RouteSeg6IpTunnel.holds_parse hv)
  | seg6Local => exact absurd rfl hkind
  | _ => simp [parseWithParam, hv.carries.defaultNla, WellFormed]

/-- The attributes that make the decoder panic. -/
def Crashes (kind : RouteLwEnCapType) (nb : NlaBuffer) : Prop :=
  kind = .seg6Local ∧ RouteSeg6LocalIpTunnel.Crashes nb

/-- It panics exactly where a local segment does. -/
theorem parseWithParam_eq_panic_iff (hv : NlaValid nb.buffer) :
    parseWithParam kind nb = .panic ↔ Crashes kind nb := by
  cases kind with
  | mpls => simp [parseWithParam, Crashes, RouteMplsIpTunnel.parse_ne_panic hv]
  | seg6 => simp [parseWithParam, Crashes, RouteSeg6IpTunnel.parse_ne_panic hv]
  | seg6Local => simp [parseWithParam, Crashes, RouteSeg6LocalIpTunnel.parse_eq_panic_iff hv]
  | _ => simp [parseWithParam, Crashes, hv.carries.defaultNla]

end RouteLwTunnelEncap

end NetlinkRoute
