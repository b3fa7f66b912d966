import NetlinkRoute.Link.Model.Attribute
/-!
# Link — what the parsers at the leaves do

A structure is either zero-extended to its size first, and then never
read past its end (`StructCodec.parseExpanded_ne_panic`), or read through
an unchecked buffer, and then exactly a short payload panics
(`Map.parse_eq_panic_iff`, `Inet6CacheInfo.parse_eq_panic_iff`,
`BridgeId.parse_eq_panic_iff`). The lists that hold neither never panic.
-/

namespace NetlinkRoute

open PacketUtils Emitter

/-! ## Structures -/

/-- The expanded buffer has the size asked for. -/
theorem le_length_expandBufferIfSmall {got : Bytes} {n : ℕ} :
    n ≤ (expandBufferIfSmall got n).length := by
  unfold expandBufferIfSmall
  split
  · rw [List.length_append, length_zeros]
    omega
  · omega

/-- A struct read from an expanded buffer is never read out of bounds. -/
@[simp] theorem StructCodec.parseExpanded_ne_panic {α : Type} {s : StructCodec α}
    {payload : Bytes} : s.parseExpanded payload ≠ .panic :=
  s.parse_ne_panic le_length_expandBufferIfSmall

@[simp] theorem HeaderCodec.parseExpanded_ne_panic {α : Type} {s : HeaderCodec α}
    {payload : Bytes} : s.parseExpanded payload ≠ .panic := by
  obtain ⟨v, hv, -⟩ := s.parse_of_le (expandBufferIfSmall payload s.len)
    le_length_expandBufferIfSmall
  simp [HeaderCodec.parseExpanded, hv]

section

variable [PacketUtils] {payload : Bytes} {nb : NlaBuffer}

/-- The last four bytes of the structure are not looked at. -/
theorem Map.parse_eq_panic_iff : Map.codec.parse payload = .panic ↔ payload.length < 28 := by
  constructor
  · intro h
    by_contra hlen
    have : 28 ≤ payload.length := by omega
    simp (disch := omega) [Map.codec, getU64_of_le, getU16_of_le, getU8_of_lt] at h
  · intro h
    refine Outcome.bind_eq_panic_of _ _ getU64_ne_err fun _ => ?_
    refine Outcome.bind_eq_panic_of _ _ getU64_ne_err fun _ => ?_
    refine Outcome.bind_eq_panic_of _ _ getU64_ne_err fun _ => ?_
    refine Outcome.bind_eq_panic_of _ _ getU16_ne_err fun _ => ?_
    refine Outcome.bind_eq_panic_of _ _ getU8_ne_err fun _ => ?_
    rw [getU8_of_ge (by omega), Outcome.panic_bind]

/-- The cache info of an interface panics on a payload below sixteen bytes. -/
theorem Inet6CacheInfo.parse_eq_panic_iff :
    Inet6CacheInfo.codec.parse payload = .panic ↔ payload.length < 16 := by
  refine Inet6CacheInfo.codec.parse_eq_panic_iff_of_short fun h => ?_
  refine Outcome.bind_eq_panic_of _ _ getI32_ne_err fun _ => ?_
  refine Outcome.bind_eq_panic_of _ _ getI32_ne_err fun _ => ?_
  refine Outcome.bind_eq_panic_of _ _ getI32_ne_err fun _ => ?_
  rw [getI32_of_lt h, Outcome.panic_bind]

/-- A bridge identifier panics on a payload below eight bytes. -/
theorem BridgeId.parse_eq_panic_iff :
    BridgeId.codec.parse payload = .panic ↔ payload.length < 8 := by
  refine BridgeId.codec.parse_eq_panic_iff_of_short fun h => ?_
  refine Outcome.bind_eq_panic_of _ _ getU16Be_ne_err fun _ => ?_
  rw [slice_panic (show payload.length < 8 from h), Outcome.panic_bind]

/-! ## Values -/

omit [PacketUtils] in
/-- A physical identifier is cut or padded, whatever its length. -/
@[simp] theorem LinkPhysId.parse_ne_panic : LinkPhysId.parse payload ≠ .panic := by
  have hle : payload.length % 32 ≤ payload.length := Nat.mod_le _ _
  simp [LinkPhysId.parse, slice_ok (Nat.zero_le _) hle]

@[simp] theorem LinkEvent.parse_ne_panic : LinkEvent.parse payload ≠ .panic := by
  simp [LinkEvent.parse]

namespace LinkExtentMask

omit [PacketUtils]

variable {d got : UInt32} {flags : List LinkExtentMask} {i : ℕ}

/-- A bit of the mask that the loop tests. -/
theorem and_flag_pos_iff {flag : UInt32} (hflag : flag.toNat = 2 ^ i) :
    d &&& flag > 0 ↔ d.toNat.testBit i = true := by
  rw [gt_iff_lt, UInt32.lt_iff_toNat_lt, UInt32.toNat_and, hflag, Nat.and_two_pow]
  cases d.toNat.testBit i <;> simp

/-- **The sum that the loop keeps is the part of the mask it has seen**,
when its flags are the bits from `i` on. -/
theorem setIn_eq (hi : i + flags.length ≤ 32)
    (hflags : ∀ k, (hk : k < flags.length) → (codec.toNum (flags.get ⟨k, hk⟩)).toNat = 2 ^ (i + k))
    (hgot : got.toNat = d.toNat % 2 ^ i) :
    ∃ ret got', setIn d flags got = .ok (ret, got') ∧
      got'.toNat = d.toNat % 2 ^ (i + flags.length) := by
  induction flags generalizing i got with
  | nil => exact ⟨[], got, rfl, hgot⟩
  | cons flag flags ih =>
    have hlen : i + 1 + flags.length ≤ 32 := by
      rw [List.length_cons] at hi
      omega
    have hflag : (codec.toNum flag).toNat = 2 ^ i := hflags 0 (by simp)
    -- the flags left are the bits from the next one on
    have hrest : ∀ k, (hk : k < flags.length) →
        (codec.toNum (flags.get ⟨k, hk⟩)).toNat = 2 ^ (i + 1 + k) := by
      intro k hk
      have := hflags (k + 1) (by simpa using hk)
      rwa [show i + (k + 1) = i + 1 + k by omega] at this
    have hsucc : d.toNat % 2 ^ (i + 1) = d.toNat % 2 ^ i + 2 ^ i * (d.toNat.testBit i).toNat := by
      rw [Nat.mod_pow_succ, Nat.toNat_testBit]
    rw [List.length_cons, show i + (flags.length + 1) = i + 1 + flags.length by omega, setIn]
    by_cases hbit : d.toNat.testBit i = true
    · -- the bits seen so far and the next one do not overlap
      have hsum : got.toNat + (codec.toNum flag).toNat = d.toNat % 2 ^ (i + 1) := by
        rw [hgot, hflag, hsucc, hbit]
        simp
      have hlt : d.toNat % 2 ^ (i + 1) < 4294967296 :=
        Nat.lt_of_le_of_lt (Nat.mod_le _ _) d.toNat_lt
      have hnext : (got + codec.toNum flag).toNat = d.toNat % 2 ^ (i + 1) := by
        rw [UInt32.toNat_add, hsum, Nat.mod_eq_of_lt hlt]
      obtain ⟨ret, got', hr, hg⟩ := ih hlen hrest hnext
      refine ⟨flag :: ret, got', ?_, hg⟩
      rw [if_pos ((and_flag_pos_iff hflag).2 hbit), addU32, if_pos (by omega), Outcome.ok_bind, hr]
      rfl
    -- a bit that is not set leaves the sum as it is
    · have hnext : got.toNat = d.toNat % 2 ^ (i + 1) := by
        rw [hgot, hsucc, Bool.eq_false_iff.2 hbit]
        simp
      obtain ⟨ret, got', hr, hg⟩ := ih hlen hrest hnext
      refine ⟨ret, got', ?_, hg⟩
      rw [if_neg (mt (and_flag_pos_iff hflag).1 hbit), hr]

@[simp] theorem ofMask_ne_panic : ofMask d ≠ .panic := by
  have hset : ∃ ret got, setIn d all 0 = .ok (ret, got) ∧
      got.toNat = d.toNat % 2 ^ (0 + all.length) :=
    setIn_eq (by decide) (by decide) (by simp [Nat.mod_one])
  obtain ⟨ret, got, hr, hg⟩ := hset
  have hle : got.toNat ≤ d.toNat := by
    rw [hg]
    exact Nat.mod_le _ _
  rw [ofMask, hr]
  show (if got ≠ d then _ else _) ≠ _
  split
  · simp [subU32, hle]
  · simp

end LinkExtentMask

/-- The nested lists of a link check every length they read. -/
theorem LinkProp.parse_ne_panic (hv : NlaValid nb.buffer) : LinkProp.parse nb ≠ .panic :=
  hv.parse_ne_panic (by simp)

theorem LinkProtocolDownReason.parse_ne_panic (hv : NlaValid nb.buffer) :
    LinkProtocolDownReason.parse nb ≠ .panic :=
  hv.parse_ne_panic (by simp)

/-- The kind is widened for the match. -/
theorem LinkXdp.parse_ne_panic (hv : NlaValid nb.buffer) : LinkXdp.parse nb ≠ .panic := by
  rw [LinkXdp.parse, hv.carries.bind]
  refine select_ne_panic ?_ ?_
  · simp
  · simp [hv.carries.defaultNla]

/-- An XDP list stops at the first malformed attribute with an error. -/
theorem LinkXdp.parseVec_ne_panic : LinkXdp.parseVec nb ≠ .panic :=
  parseEach_ne_panic fun _ => LinkXdp.parse_ne_panic

/-! ## Address families -/

/-- A VLAN range is read through a checked conversion. -/
@[simp] theorem BridgeVlanInfo.tryFrom_ne_panic : BridgeVlanInfo.tryFrom payload ≠ .panic := by
  unfold BridgeVlanInfo.tryFrom
  split
  · next h =>
    simp only [slice_ok (show 0 ≤ 2 by omega) (show 2 ≤ payload.length by omega),
      slice_ok (show 2 ≤ 4 by omega) (show 4 ≤ payload.length by omega), Outcome.ok_bind]
    refine Outcome.bind_ne_panic _ _ (by simp) fun flags => ?_
    exact Outcome.bind_ne_panic _ _ (by simp) fun vid => by simp
  · simp

/-- The attributes of a bridge specification are read without a panic. -/
theorem AfSpecBridge.parse_ne_panic (hv : NlaValid nb.buffer) : AfSpecBridge.parse nb ≠ .panic :=
  hv.parse_ne_panic (by simp)

@[simp] theorem AfSpecBridge.parseVec_ne_panic : AfSpecBridge.parseVec payload ≠ .panic :=
  parseNlas_ne_panic fun _ h => AfSpecBridge.parse_ne_panic (valid_of_mem_nlas h)

/-- So are those of an IPv4 specification, whose configuration is expanded
first. -/
theorem AfSpecInet.parse_ne_panic (hv : NlaValid nb.buffer) : AfSpecInet.parse nb ≠ .panic :=
  hv.parse_ne_panic (by simp)

@[simp] theorem AfSpecInet.parseVec_ne_panic : AfSpecInet.parseVec payload ≠ .panic :=
  parseEachWith_ne_panic fun _ => AfSpecInet.parse_ne_panic

/-- The cache information is read unchecked, between four structures that
are not. -/
theorem AfSpecInet6.parse_eq_panic_iff (hv : NlaValid nb.buffer) : AfSpecInet6.parse nb = .panic ↔
    wireKind nb = IFLA_INET6_CACHEINFO ∧ (nlaValue nb.buffer).length < 16 := by
  refine (hv.parse_eq_panic_iff (by simp only [List.map]; decide)).trans ?_
  simp [Inet6CacheInfo.parse_eq_panic_iff]

/-- An IPv6 specification panics exactly where the loop reaches a short
cache info. -/
theorem AfSpecInet6.parseVec_eq_panic_iff : AfSpecInet6.parseVec payload = .panic ↔
    ∃ nb, NlaReached AfSpecInet6.parse payload nb ∧ wireKind nb = IFLA_INET6_CACHEINFO ∧
      (nlaValue nb.buffer).length < 16 := by
  rw [AfSpecInet6.parseVec, parseNlas_eq_panic_iff]
  refine exists_congr fun nb => and_congr_right fun hr => ?_
  exact AfSpecInet6.parse_eq_panic_iff (valid_of_mem_nlas hr.mem)

/-- Without a family, only the IPv6 part can panic. -/
theorem AfSpecUnspec.parse_eq_panic_iff (hv : NlaValid nb.buffer) : AfSpecUnspec.parse nb = .panic ↔
    wireKind nb = (AddressFamily.codec.toNum .inet6).toUInt16 ∧
      AfSpecInet6.parseVec (nlaValue nb.buffer) = .panic := by
  rw [AfSpecUnspec.parse, hv.carries.kind, Outcome.ok_bind,
    select_eq_panic_iff (by simp only [List.map]; decide) (by simp [hv.carries.defaultNla])]
  simp [hv.carries.value]

/-- The same for the whole list of families. -/
theorem AfSpecUnspec.parseVec_eq_panic_iff : AfSpecUnspec.parseVec payload = .panic ↔
    ∃ nb, NlaReached AfSpecUnspec.parse payload nb ∧
      wireKind nb = (AddressFamily.codec.toNum .inet6).toUInt16 ∧
      AfSpecInet6.parseVec (nlaValue nb.buffer) = .panic := by
  rw [AfSpecUnspec.parseVec, parseEachWith_eq_panic_iff]
  refine exists_congr fun nb => and_congr_right fun hr => ?_
  exact AfSpecUnspec.parse_eq_panic_iff (valid_of_mem_nlas hr.mem)

/-! ## Protocol information -/

/-- A list of plain attributes whose error text is made from the list
taken for an attribute. -/
theorem UnnamedNla.parseEager_eq_panic_iff {g : Bytes → String} {text : UInt16 → Bytes → String} :
    parseEachEager (g <$> value ⟨payload⟩) (UnnamedNla.parse text) payload = .panic ↔
      payload ≠ [] ∧ ¬ NlaValid payload := by
  rw [parseEachEager_eq_panic_iff]
  refine or_iff_left ?_
  rintro ⟨nb, hr, hp⟩
  exact UnnamedNla.parse_ne_panic (valid_of_mem_nlas hr.mem) hp

/-- The list under a bridge panics on a malformed first attribute. -/
theorem LinkProtoInfoBridge.parseVec_eq_panic_iff :
    LinkProtoInfoBridge.parseVec ⟨payload⟩ = .panic ↔ payload ≠ [] ∧ ¬ NlaValid payload :=
  UnnamedNla.parseEager_eq_panic_iff

/-- So does the list under IPv6. -/
theorem LinkProtoInfoInet6.parseVec_eq_panic_iff :
    LinkProtoInfoInet6.parseVec ⟨payload⟩ = .panic ↔ payload ≠ [] ∧ ¬ NlaValid payload :=
  UnnamedNla.parseEager_eq_panic_iff

/-! ## Bridges -/

/-- The querier state is read without a panic. -/
theorem BridgeQuerierState.parse_ne_panic (hv : NlaValid nb.buffer) :
    BridgeQuerierState.parse nb ≠ .panic := by
  refine hv.parse_ne_panic ?_
  have hip := parseIp_ne_panic (b := nlaValue nb.buffer)
  cases h : parseIp (nlaValue nb.buffer) with
  | ok ip => cases ip <;> simp
  | err e => simp
  | panic => exact absurd h hip

/-- Root and bridge identifiers are read unchecked. -/
theorem InfoBridge.parse_eq_panic_iff (hv : NlaValid nb.buffer) : InfoBridge.parse nb = .panic ↔
    (wireKind nb = IFLA_BR_ROOT_ID ∨ wireKind nb = IFLA_BR_BRIDGE_ID) ∧
      (nlaValue nb.buffer).length < 8 := by
  have hquerier : ∀ err err', parseNlas err err' BridgeQuerierState.parse (nlaValue nb.buffer) ≠
      .panic :=
    fun _ _ => parseNlas_ne_panic fun _ h => BridgeQuerierState.parse_ne_panic (valid_of_mem_nlas h)
  refine (hv.parse_eq_panic_iff (by simp only [List.map]; decide)).trans ?_
  simp only [List.exists_mem_cons_iff]
  simp [BridgeId.parse_eq_panic_iff, hquerier, or_and_right]

/-- A bridge port panics on a short identifier and nowhere else. -/
theorem InfoBridgePort.parse_eq_panic_iff (hv : NlaValid nb.buffer) :
    InfoBridgePort.parse nb = .panic ↔
      (wireKind nb = IFLA_BRPORT_ROOT_ID ∨ wireKind nb = IFLA_BRPORT_BRIDGE_ID) ∧
        (nlaValue nb.buffer).length < 8 := by
  refine (hv.parse_eq_panic_iff (by simp only [List.map]; decide)).trans ?_
  simp only [List.exists_mem_cons_iff]
  simp [BridgeId.parse_eq_panic_iff, or_and_right]

/-! ## Other kinds -/

/-- The aggregation info of a bond is read without a panic. -/
theorem BondAdInfo.parse_ne_panic (hv : NlaValid nb.buffer) : BondAdInfo.parse nb ≠ .panic :=
  hv.parse_ne_panic (by simp)

/-- A target of the wrong length is dropped, not indexed. -/
theorem pickTarget_ne_panic {α : Type} {pick : IpAddr → List α} (hv : NlaValid nb.buffer) :
    pickTarget pick nb ≠ .panic := by
  have hip := parseIp_ne_panic (b := nlaValue nb.buffer)
  rw [pickTarget, hv.carries.value, Outcome.ok_bind]
  cases h : parseIp (nlaValue nb.buffer) with
  | ok ip => simp
  | err e => simp
  | panic => exact absurd h hip

/-- Neither a bond nor one of its ports indexes a payload. -/
theorem InfoBond.parse_ne_panic (hv : NlaValid nb.buffer) : InfoBond.parse nb ≠ .panic := by
  have hinfo : ∀ err err', parseNlas err err' BondAdInfo.parse (nlaValue nb.buffer) ≠ .panic :=
    fun _ _ => parseNlas_ne_panic fun _ h => BondAdInfo.parse_ne_panic (valid_of_mem_nlas h)
  have htarget : ∀ {α : Type} (err : String) (pick : IpAddr → List α),
      parseEachWith err (pickTarget pick) (nlaValue nb.buffer) ≠ .panic :=
    fun _ _ => parseEachWith_ne_panic fun _ => pickTarget_ne_panic
  exact hv.parse_ne_panic (by simp [hinfo, htarget])

theorem InfoBondPort.parse_ne_panic (hv : NlaValid nb.buffer) : InfoBondPort.parse nb ≠ .panic :=
  hv.parse_ne_panic (by simp)

omit [PacketUtils] in
/-- Halves of a payload of the right length. -/
theorem parsePair_ne_panic {α : Type} {parse : Bytes → Outcome α} {w : ℕ}
    {err errFst errSnd : String} (h : ∀ b, parse b ≠ .panic) :
    parsePair parse w err errFst errSnd payload ≠ .panic := by
  unfold parsePair
  split
  · simp
  · next hlen =>
    simp only [slice_ok (Nat.zero_le w) (show w ≤ payload.length by omega),
      sliceFrom_ok (show w ≤ payload.length by omega), Outcome.ok_bind]
    refine Outcome.bind_ne_panic _ _ (by simp [h]) fun a => ?_
    exact Outcome.bind_ne_panic _ _ (by simp [h]) fun b => by simp

/-- A priority mapping is cut at four bytes only after its length is
checked. -/
theorem VlanQosMapping.parse_ne_panic (hv : NlaValid nb.buffer) :
    VlanQosMapping.parse nb ≠ .panic :=
  hv.parse_ne_panic (by simp [parsePair_ne_panic fun _ => parseU32_ne_panic])

/-- The data of a VLAN link is read without a panic. -/
theorem InfoVlan.parse_ne_panic (hv : NlaValid nb.buffer) : InfoVlan.parse nb ≠ .panic := by
  have hmap : VlanQosMapping.parseMappings (nlaValue nb.buffer) ≠ .panic :=
    parseEach_ne_panic fun _ => VlanQosMapping.parse_ne_panic
  exact hv.parse_ne_panic (by simp [hmap, parsePair_ne_panic fun _ => parseU32_ne_panic])

/-- The data of a VXLAN link is read without a panic. -/
theorem InfoVxlan.parse_ne_panic (hv : NlaValid nb.buffer) : InfoVxlan.parse nb ≠ .panic :=
  hv.parse_ne_panic (by simp [parsePair_ne_panic fun _ => parseU16Be_ne_panic])

/-- The list inside an attribute is shorter than the attribute, so the
levels do not run out. -/
theorem InfoMacVlan.parseAt_ne_panic {name : String} {depth : ℕ} (hd : nb.buffer.length < depth)
    (hv : NlaValid nb.buffer) : InfoMacVlan.parseAt name depth nb ≠ .panic := by
  induction depth generalizing nb with
  | zero => omega
  | succ depth ih =>
    have hlen := hv.length_value
    have hle := hv.2
    have hdata : ∀ err err', parseNlas err err' (InfoMacVlan.parseAt name depth)
        (nlaValue nb.buffer) ≠ .panic := by
      refine fun _ _ => parseNlas_ne_panic fun nb' h => ih ?_ (valid_of_mem_nlas h)
      have := length_le_of_mem_nlas h
      omega
    exact hv.parse_ne_panic (by simp [hdata])

/-- The remaining kinds of link data read numbers, addresses and text only. -/
theorem InfoMacVlan.parse_ne_panic (hv : NlaValid nb.buffer) : InfoMacVlan.parse nb ≠ .panic :=
  InfoMacVlan.parseAt_ne_panic (Nat.lt_succ_self _) hv

theorem InfoMacVtap.parse_ne_panic (hv : NlaValid nb.buffer) : InfoMacVtap.parse nb ≠ .panic :=
  InfoMacVlan.parseAt_ne_panic (Nat.lt_succ_self _) hv

theorem InfoMacSec.parse_ne_panic (hv : NlaValid nb.buffer) : InfoMacSec.parse nb ≠ .panic :=
  hv.parse_ne_panic (by simp)

theorem InfoHsr.parse_ne_panic (hv : NlaValid nb.buffer) : InfoHsr.parse nb ≠ .panic :=
  hv.parse_ne_panic (by simp)

theorem InfoIpVlan.parse_ne_panic (hv : NlaValid nb.buffer) : InfoIpVlan.parse nb ≠ .panic :=
  hv.parse_ne_panic (by simp)

theorem InfoIpoib.parse_ne_panic (hv : NlaValid nb.buffer) : InfoIpoib.parse nb ≠ .panic :=
  hv.parse_ne_panic (by simp)

theorem InfoVrf.parse_ne_panic (hv : NlaValid nb.buffer) : InfoVrf.parse nb ≠ .panic :=
  hv.parse_ne_panic (by simp)

theorem InfoXfrm.parse_ne_panic (hv : NlaValid nb.buffer) : InfoXfrm.parse nb ≠ .panic :=
  hv.parse_ne_panic (by simp)

/-- A kind is text, and text that is none is an error. -/
theorem InfoKind.parse_ne_panic (hv : NlaValid nb.buffer) : InfoKind.parse nb ≠ .panic := by
  rw [InfoKind.parse, hv.carries.kind, Outcome.ok_bind]
  split
  · simp
  · simp [hv.carries.value]

theorem InfoPortKind.parse_ne_panic (hv : NlaValid nb.buffer) : InfoPortKind.parse nb ≠ .panic := by
  rw [InfoPortKind.parse, hv.carries.kind, Outcome.ok_bind]
  split
  · simp
  · simp [hv.carries.value]

end

end NetlinkRoute
