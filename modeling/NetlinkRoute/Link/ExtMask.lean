import NetlinkRoute.Common.Bits
import NetlinkRoute.Common.Reference
import NetlinkRoute.Link.RoundTrip.Values
/-!
# Link — the filter mask

A mask is a set of bits. It is taken apart into the flags that are set, each
once, and the bits that have no name (`LinkExtentMask.ofMask_eq`), and these
are added up to the mask again. But flags are added, too, where a caller
lists them, and a sum is not a union: what is written is the set of all
bits that are listed exactly where none is listed twice
(`LinkExtentMask.keepsBits`).
-/

namespace NetlinkRoute

open PacketUtils Emitter

namespace LinkExtentMask

variable {d got got' r : UInt32} {flags ret v : List LinkExtentMask}

/-- The words of a list of flags. -/
def words (v : List LinkExtentMask) : List UInt32 := v.map codec.toNum

/-- All bits of a list of flags. -/
def bits (v : List LinkExtentMask) : UInt32 := bitUnion (words v)

/-! ## Putting together -/

/-- **The loop adds**, and what it comes back with is the sum. -/
theorem toMask_eq_ok_iff :
    toMask v d = .ok r ↔ r.toNat = d.toNat + ((words v).map UInt32.toNat).sum := by
  induction v generalizing d with
  | nil =>
    rw [toMask, Outcome.ok.injEq, ← UInt32.toNat_inj]
    exact eq_comm
  | cons flag v ih =>
    have hr := r.toNat_lt
    rw [toMask, words, List.map_cons, List.map_cons, List.sum_cons, ← words, ← Nat.add_assoc]
    by_cases hlt : d.toNat + (codec.toNum flag).toNat < 4294967296
    · have hadd : (d + codec.toNum flag).toNat = d.toNat + (codec.toNum flag).toNat := by
        rw [UInt32.toNat_add, Nat.mod_eq_of_lt hlt]
      rw [addU32, if_pos hlt, Outcome.ok_bind, ih, hadd]
    · rw [addU32, if_neg hlt, Outcome.panic_bind]
      refine iff_of_false (by simp) fun h => ?_
      omega

/-- **A sum is all bits exactly where none is listed twice.** -/
theorem toMask_eq_bits_iff : toMask v 0 = .ok (bits v) ↔ (words v).Pairwise BitDisjoint := by
  have hpair : ((words v).map UInt32.toNat).Pairwise BitDisjoint ↔
      (words v).Pairwise BitDisjoint := by
    rw [List.pairwise_map]
    simp only [bitDisjoint_toNat_iff]
  rw [toMask_eq_ok_iff, ← hpair, ← sum_eq_bitUnion_iff, bits, toNat_bitUnion, UInt32.toNat_zero,
    Nat.zero_add]
  exact eq_comm

/-! ## Taking apart -/

/-- The named flags that are set in a mask. -/
def named (d : UInt32) : List LinkExtentMask := all.filter fun flag => d &&& codec.toNum flag ≠ 0

/-- The bits of a mask that have no name. -/
def unnamed (d : UInt32) : UInt32 := d &&& ~~~bits all

/-- The loop finds the flags that are set. -/
theorem ret_of_setIn (h : setIn d flags got = .ok (ret, got')) :
    ret = flags.filter fun flag => d &&& codec.toNum flag ≠ 0 := by
  induction flags generalizing got ret with
  | nil =>
    rw [setIn] at h
    cases h
    rfl
  | cons flag flags ih =>
    have hpos : d &&& codec.toNum flag > 0 ↔ d &&& codec.toNum flag ≠ 0 := UInt32.pos_iff_ne_zero
    rw [setIn] at h
    split at h
    · next hset =>
      simp only [Outcome.bind_eq_ok] at h
      obtain ⟨got₁, -, ⟨ret₁, got₂⟩, hrest, h⟩ := h
      cases h
      rw [List.filter_cons_of_pos (by simpa using hpos.1 hset), ih hrest]
    · next hset =>
      rw [List.filter_cons_of_neg (by simpa using mt hpos.2 hset)]
      exact ih h

/-- And adds them up to the part of the mask that they name. -/
theorem setIn_all (d : UInt32) : setIn d all 0 = .ok (named d, d &&& bits all) := by
  obtain ⟨ret, got, h, hgot⟩ : ∃ ret got, setIn d all 0 = .ok (ret, got) ∧
      got.toNat = d.toNat % 2 ^ (0 + all.length) :=
    setIn_eq (by decide) (by decide) (by simp [Nat.mod_one])
  have hbits : bits all = 255 := by decide
  have hpart : got = d &&& bits all := by
    rw [← UInt32.toNat_inj, hgot, UInt32.toNat_and, hbits]
    exact (Nat.and_two_pow_sub_one_eq_mod _ 8).symm
  rw [h, ret_of_setIn h, hpart, named]

/-- **A mask is taken apart** into the flags that are set and the bits that
have no name. -/
theorem ofMask_eq (d : UInt32) :
    ofMask d = .ok (named d ++ if unnamed d = 0 then [] else [.other (unnamed d)]) := by
  have hsum : (d &&& bits all).toNat + (unnamed d).toNat = d.toNat :=
    toNat_and_add_toNat_and_not d (bits all)
  rw [ofMask, setIn_all, Outcome.ok_bind]
  change (if d &&& bits all ≠ d then _ else _) = _
  by_cases hzero : unnamed d = 0
  · have hall : d &&& bits all = d := by
      rw [hzero] at hsum
      exact UInt32.toNat_inj.1 hsum
    rw [if_pos hzero, if_neg (not_not.2 hall), List.append_nil]
  · have hne : d &&& bits all ≠ d := by
      intro hall
      rw [hall] at hsum
      have hnone : (unnamed d).toNat = (0 : UInt32).toNat := by
        rw [UInt32.toNat_zero]
        omega
      exact hzero (UInt32.toNat_inj.1 hnone)
    have hle : (d &&& bits all).toNat ≤ d.toNat := by omega
    have hrest : d - (d &&& bits all) = unnamed d := by
      rw [← UInt32.toNat_inj, UInt32.toNat_sub_of_le _ _ hle]
      omega
    rw [if_neg hzero, if_pos hne, subU32, if_pos hle, Outcome.ok_bind, hrest]

/-- A flag of the table is not a list of bits. -/
theorem ne_other_of_mem_all {flag : LinkExtentMask} (h : flag ∈ all) : flag ≠ .other r := by
  rintro rfl
  simp [all] at h

/-- What a mask is taken apart into: each flag that is set, once, and what
is left of it. -/
structure TakenApart (d : UInt32) (v : List LinkExtentMask) : Prop where
  nodup : v.Nodup
  named_iff : ∀ flag ∈ all, flag ∈ v ↔ d &&& codec.toNum flag ≠ 0
  other_iff : ∀ r, .other r ∈ v ↔ r = d &&& ~~~bits all ∧ r ≠ 0

/-- What the decoder makes of a mask takes it apart bit by bit. -/
theorem takenApart_of_ofMask (h : ofMask d = .ok v) : TakenApart d v := by
  obtain rfl := Outcome.ok.inj ((ofMask_eq d).symm.trans h)
  have hnamed : ∀ flag, flag ∈ named d ↔ flag ∈ all ∧ d &&& codec.toNum flag ≠ 0 := by
    intro flag
    rw [named, List.mem_filter, decide_eq_true_iff]
  have hother : ∀ r, .other r ∉ named d := by
    intro r hr
    exact ne_other_of_mem_all ((hnamed _).1 hr).1 rfl
  have hnodup : (named d).Nodup := List.Nodup.filter _ (by decide)
  by_cases hzero : unnamed d = 0
  · rw [if_pos hzero, List.append_nil]
    refine ⟨hnodup, fun flag hflag => ?_, fun r => ?_⟩
    · rw [hnamed, and_iff_right hflag]
    · refine iff_of_false (hother r) ?_
      rintro ⟨rfl, hr⟩
      exact hr hzero
  · rw [if_neg hzero]
    refine ⟨?_, fun flag hflag => ?_, fun r => ?_⟩
    · rw [List.nodup_append_comm, List.singleton_append, List.nodup_cons]
      exact ⟨hother _, hnodup⟩
    · rw [List.mem_append, hnamed, and_iff_right hflag, List.mem_singleton,
        or_iff_left (ne_other_of_mem_all hflag)]
    · rw [List.mem_append, or_iff_right (hother r), List.mem_singleton, other.injEq]
      constructor
      · rintro rfl
        exact ⟨rfl, hzero⟩
      · exact fun hr => hr.1

/-! ## As an attribute -/

section

variable [PacketUtils] {family : AddressFamily} {nb : NlaBuffer} {word : UInt16}

theorem parse_extMask (hc : Carries nb word (ne.u32 d))
    (hk : word &&& NLA_TYPE_MASK = IFLA_EXT_MASK) (hv : ofMask d = .ok v) :
    LinkAttribute.parseWithParam family nb = .ok (.extMask v) := by
  rw [LinkAttribute.parseWithParam, LinkAttribute.parseOver, hc.bind, hk, select_of_find rfl]
  simp [hv]

/-- Flags put together: the word that is written is all their bits. -/
structure PutTogether (v : List LinkExtentMask) : Prop where
  word : toMask v 0 = .ok (bits v)
  payload : (LinkAttribute.nla (.extMask v)).Payload (ne.u32 (bits v))

/-- A mask is taken apart and comes back, and flags are put together exactly
where none of their bits is listed twice. -/
structure KeepsBits (family : AddressFamily) : Prop where
  comesBack : ∀ d, ∃ v, ofMask d = .ok v ∧ TakenApart d v ∧ toMask v 0 = .ok d
  decodes : ∀ nb word d v, Carries nb word (ne.u32 d) → word &&& NLA_TYPE_MASK = IFLA_EXT_MASK →
    ofMask d = .ok v → LinkAttribute.parseWithParam family nb = .ok (.extMask v) ∧
      (LinkAttribute.nla (.extMask v)).Payload (ne.u32 d)
  putTogether_iff : ∀ v, PutTogether v ↔ (v.map codec.toNum).Pairwise BitDisjoint

/-- **No bit is lost or added exactly where none is listed twice.** -/
theorem keepsBits (family : AddressFamily) : KeepsBits family where
  comesBack d := ⟨_, ofMask_eq d, takenApart_of_ofMask (ofMask_eq d), toMask_ofMask (ofMask_eq d)⟩
  decodes _ _ _ _ hc hk hv := ⟨parse_extMask hc hk hv, payload_iff.2 (toMask_ofMask hv)⟩
  putTogether_iff v := by
    rw [← words, ← toMask_eq_bits_iff]
    constructor
    · exact fun h => h.word
    · exact fun h => ⟨h, payload_iff.2 h⟩

end

/-! ## On a little-endian host -/

section

attribute [local instance] Reference.little

/-- One flag listed twice is written as another one, and all bits with one
of them are not written at all. -/
theorem vfTwice_lost :
    toMask [.vf, .vf] 0 = .ok (codec.toNum .brvlan) ∧ bits [.vf, .vf] = codec.toNum .vf ∧
      ¬ PutTogether [.vf, .vf] ∧ toMask [.other 4294967295, .vf] 0 = .panic := by
  refine ⟨rfl, rfl, fun h => ?_, rfl⟩
  have hword := Outcome.ok.inj h.word
  exact absurd hword (by decide)

end

end LinkExtentMask

end NetlinkRoute
