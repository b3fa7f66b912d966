import NetlinkRoute.Link.Leaves
/-!
# Link — plain values and the attributes by family come back

What is written of a state, a mask, a property of a link or the settings
that a protocol family keeps is read again as it was, and what is read can
be written. A structure that was read short or long comes back whole:
what it was padded with, or cut from, is no part of the value.
-/

namespace NetlinkRoute

open PacketUtils Emitter

/-! ## Structures -/

theorem expandBufferIfSmall_of_le {b : Bytes} {n : ℕ} (h : n ≤ b.length) :
    expandBufferIfSmall b n = b := if_neg (by omega)

/-- A struct of full size is not expanded and comes back. -/
@[simp] theorem StructCodec.parseExpanded_bytes {α : Type} {s : StructCodec α} {x : α} :
    s.parseExpanded (s.bytes x) = .ok x := by
  rw [parseExpanded, expandBufferIfSmall_of_le (by simp), s.parse_bytes]

theorem HeaderCodec.parseExpanded_bytes {α : Type} {s : HeaderCodec α} {x : α}
    (hw : s.WellFormed x) : s.parseExpanded (s.bytes x) = .ok x := by
  rw [parseExpanded, expandBufferIfSmall_of_le (by simp), s.parse_bytes hw]

/-! ## Identifiers and masks -/

/-- Padded to `n` octets, a shorter string is still there in front. -/
theorem Octets.take_ofBytes {b : Bytes} {n : ℕ} (h : b.length ≤ n) :
    (Octets.ofBytes n b).val.take b.length = b := by
  rw [Octets.ofBytes, List.take_take, Nat.min_eq_left h, List.take_left]

namespace LinkPhysId

variable {v : LinkPhysId} {b : Bytes}

/-- Fewer bytes are used than there is place for, and the others are
zero. -/
def Canonical (v : LinkPhysId) : Prop := v.len < 32 ∧ v.id = .ofBytes 32 (v.id.val.take v.len)

/-- A canonical identifier is written as the octets in use. -/
theorem writes_emit (h : v.Canonical) : Writes v.emit v.bufferLen (v.id.val.take v.len) := by
  have hlen := v.id.property
  have hle : v.len ≤ v.id.val.length := by
    have := h.1
    omega
  have htake : (v.id.val.take v.len).length = v.len := by
    rw [List.length_take]
    omega
  rw [emit, slice_ok (Nat.zero_le _) hle]
  exact writes_put htake

theorem fills_emit (h : v.Canonical) : Fills v.emit v.bufferLen (v.id.val.take v.len) :=
  (writes_emit h).fills

/-- These octets are read back as the identifier. -/
theorem parse_take (h : v.Canonical) : parse (v.id.val.take v.len) = .ok v := by
  have hlen := v.id.property
  have hlt := h.1
  have htake : (v.id.val.take v.len).length = v.len := by
    rw [List.length_take]
    omega
  have hmod : (v.id.val.take v.len).length % 32 = (v.id.val.take v.len).length := by
    rw [htake]
    exact Nat.mod_eq_of_lt hlt
  rw [parse, hmod, slice_self, Outcome.ok_bind, ← h.2, htake]

/-- The parser gives canonical identifiers only. -/
theorem holds_parse : (parse b).Holds Canonical := by
  have hlt : b.length % 32 < 32 := Nat.mod_lt _ (by decide)
  have hle : b.length % 32 ≤ b.length := Nat.mod_le _ _
  rw [parse, slice_ok (Nat.zero_le _) hle, Outcome.ok_bind, Outcome.holds_ok]
  have hlen : (b.take (b.length % 32)).length = b.length % 32 := by
    rw [List.length_take]
    omega
  have hid := Octets.take_ofBytes (n := 32) (b := b.take (b.length % 32)) (by omega)
  rw [hlen] at hid
  rw [List.drop_zero, Nat.sub_zero]
  exact ⟨hlt, (congrArg (Octets.ofBytes 32) hid).symm⟩

end LinkPhysId

namespace LinkExtentMask

variable {d got got' r : UInt32} {flags ret rest v : List LinkExtentMask}

/-- The mask holds these flags: reading it gives them, and writing them
gives it. -/
def Canonical (v : List LinkExtentMask) : Prop := ∃ d, ofMask d = .ok v ∧ toMask v 0 = .ok d

/-- What the loop has found adds up to what it has counted. -/
theorem toMask_setIn (h : setIn d flags got = .ok (ret, got')) :
    toMask (ret ++ rest) got = toMask rest got' := by
  induction flags generalizing got ret with
  | nil =>
    rw [setIn] at h
    cases h
    rfl
  | cons flag flags ih =>
    rw [setIn] at h
    split at h
    · simp only [Outcome.bind_eq_ok] at h
      obtain ⟨got₁, hadd, ⟨ret₁, got₂⟩, hset, h⟩ := h
      cases h
      rw [List.cons_append, toMask, hadd]
      exact ih hset
    · exact ih h

/-- What is left of a mask, added, gives the mask. -/
theorem addU32_of_subU32 (h : subU32 d got = .ok r) : addU32 got r = .ok d := by
  unfold subU32 at h
  split at h
  · next hle =>
    cases h
    have hd := d.toNat_lt
    have hsub : (d - got).toNat = d.toNat - got.toNat := UInt32.toNat_sub_of_le _ _ hle
    rw [addU32, if_pos (by omega)]
    congr 1
    rw [← UInt32.toNat_inj, UInt32.toNat_add, hsub]
    omega
  · cases h

/-- The flags of a mask add up to the mask. -/
theorem toMask_ofMask (h : ofMask d = .ok v) : toMask v 0 = .ok d := by
  simp only [ofMask, Outcome.bind_eq_ok] at h
  obtain ⟨⟨ret, got⟩, hset, h⟩ := h
  split at h
  · simp only [Outcome.bind_eq_ok] at h
    obtain ⟨r, hsub, h⟩ := h
    cases h
    have hadd : addU32 got (codec.toNum (.other r)) = .ok d := addU32_of_subU32 hsub
    rw [toMask_setIn hset, toMask, hadd]
    rfl
  · next hd =>
    cases h
    have h : toMask (ret ++ []) 0 = toMask [] got := toMask_setIn hset
    rw [List.append_nil] at h
    rw [h, ← not_not.1 hd]
    rfl

/-- A decoded mask is canonical. -/
theorem holds_ofMask : (ofMask d).Holds Canonical := fun _ h => ⟨d, h, toMask_ofMask h⟩

/-- The payload that is written is the word. -/
theorem payload_iff [PacketUtils] :
    (LinkAttribute.nla (.extMask v)).Payload (ne.u32 d) ↔ toMask v 0 = .ok d := by
  change Fills (after (toMask v 0) fun d => .put 0 (ne.u32 d)) 4 (ne.u32 d) ↔ _
  rw [Fills, after]
  rcases toMask v 0 with r | e | _
  · have hput : (put 0 (ne.u32 r)).run (zeros 4) = .ok (ne.u32 r) := writes_u32.fills
    change (put 0 (ne.u32 r)).run (zeros 4) = _ ↔ _
    rw [hput, Outcome.ok.injEq, Outcome.ok.injEq]
    constructor
    · intro h
      rw [← toU32_u32 ne r, h, toU32_u32]
    · exact fun h => h ▸ rfl
  · exact iff_of_false (by simp) (by simp)
  · exact iff_of_false (by simp) (by simp)

end LinkExtentMask

section

variable [PacketUtils] {nb : NlaBuffer} {payload : Bytes}

/-- A canonical event is read back from its number. -/
@[simp] theorem LinkEvent.parse_u32 {v : LinkEvent} (h : LinkEvent.codec.Canonical v) :
    LinkEvent.parse (ne.u32 (LinkEvent.codec.toNum v)) = .ok v := by
  simp [LinkEvent.parse, h.ofNum_toNum]

theorem LinkEvent.holds_parse : (LinkEvent.parse payload).Holds LinkEvent.codec.Canonical := by
  simp [LinkEvent.parse]

/-! ## Properties, reasons, programs -/

namespace LinkProp

variable {a : LinkProp}

/-- An unknown attribute is of none of the kinds the decoder names. -/
def Canonical : LinkProp → Prop
  | .other n => n.Unknown [IFLA_ALT_IFNAME]
  | _ => True

/-- A link property comes back. -/
theorem roundTrips (h : a.Canonical) : RoundTrips parse a.nla a := by
  cases a with
  | altIfName _ => exact writes_emitStringNul.roundTrips_arm IFLA_ALT_IFNAME rfl rfl (by simp)
  | other n => exact .of_default h

theorem holds_parse (hv : NlaValid nb.buffer) : (parse nb).Holds Canonical :=
  hv.holds_parse (by simp [Canonical]) fun _ hk => hk

end LinkProp

namespace LinkProtocolDownReason

variable {a : LinkProtocolDownReason}

/-- An unknown attribute is of none of the kinds the decoder names. -/
def Canonical : LinkProtocolDownReason → Prop
  | .other n => n.Unknown [IFLA_PROTO_DOWN_REASON_MASK, IFLA_PROTO_DOWN_REASON_VALUE]
  | _ => True

/-- A reason for holding a link down comes back. -/
theorem roundTrips (h : a.Canonical) : RoundTrips parse a.nla a := by
  cases a with
  | value _ => exact writes_u32.roundTrips_arm IFLA_PROTO_DOWN_REASON_VALUE rfl rfl (by simp)
  | mask _ => exact writes_u32.roundTrips_arm IFLA_PROTO_DOWN_REASON_MASK rfl rfl (by simp)
  | other n => exact .of_default h

theorem holds_parse (hv : NlaValid nb.buffer) : (parse nb).Holds Canonical :=
  hv.holds_parse (by simp [Canonical]) fun _ hk => hk

end LinkProtocolDownReason

/-- The parser of an attribute whose kinds are 32-bit constants. -/
theorem Emitter.Writes.roundTrips_widened {α : Type} {n : Nla} {v : Bytes} {a : α}
    {arms : Bytes → List (UInt32 × Outcome α)} {wrap : DefaultNla → α} {text : UInt16 → String}
    {arm : UInt32 × Outcome α} (h : Writes n.emitValue n.valueLen v) (k : UInt32)
    (hk : n.kind = k.toUInt16) (hmask : (k.toUInt16 &&& NLA_TYPE_MASK).toUInt32 = k)
    (hfind : (arms v).find? (fun c => decide (k = c.1)) = some arm) (harm : arm.2 = .ok a) :
    RoundTrips (fun nb => do
      let payload ← value nb
      let kind ← PacketUtils.kind nb
      select kind.toUInt32 (arms payload)
        (wrap <$> (defaultNla nb).context (text kind))) n a := by
  have hkind : (n.kind &&& NLA_TYPE_MASK).toUInt32 = k := by rw [hk, hmask]
  exact h.roundTrips fun _ hc => (hc.bind _).trans
    ((select_of_find (hkind.symm ▸ hfind)).trans harm)

namespace LinkXdp

variable {a : LinkXdp}

/-- The kinds the decoder names, as they stand on the wire. -/
def kinds : List UInt16 :=
  [IFLA_XDP_FD, IFLA_XDP_ATTACHED, IFLA_XDP_FLAGS, IFLA_XDP_PROG_ID, IFLA_XDP_DRV_PROG_ID,
    IFLA_XDP_SKB_PROG_ID, IFLA_XDP_HW_PROG_ID, IFLA_XDP_EXPECTED_FD].map UInt32.toUInt16

/-- Enumerations are canonical, and an unknown attribute is of none of the
kinds the decoder names. -/
def Canonical : LinkXdp → Prop
  | .attached v => XdpAttached.codec.Canonical v
  | .other n => n.Unknown kinds
  | _ => True

omit [PacketUtils] in
/-- A kind that is widened to 32 bits is one of the constants when it is
one of them at 16 bits. -/
theorem toUInt32_mem_iff {k : UInt16} :
    k.toUInt32 ∈ [IFLA_XDP_FD, IFLA_XDP_ATTACHED, IFLA_XDP_FLAGS, IFLA_XDP_PROG_ID,
      IFLA_XDP_DRV_PROG_ID, IFLA_XDP_SKB_PROG_ID, IFLA_XDP_HW_PROG_ID, IFLA_XDP_EXPECTED_FD] ↔
      k ∈ kinds := by
  simp [kinds, ← UInt16.toUInt32_inj]

/-- A canonical XDP attribute comes back. -/
theorem roundTrips (h : a.Canonical) : RoundTrips parse a.nla a := by
  cases a with
  | fd _ =>
    exact writes_i32.roundTrips_widened IFLA_XDP_FD rfl (by decide) rfl (by simp)
  | attached _ =>
    exact writes_u8.roundTrips_widened IFLA_XDP_ATTACHED rfl (by decide) rfl
      (by simp [EnumCodec.Canonical.ofNum_toNum h])
  | flags _ =>
    exact writes_u32.roundTrips_widened IFLA_XDP_FLAGS rfl (by decide) rfl (by simp)
  | progId _ =>
    exact writes_u32.roundTrips_widened IFLA_XDP_PROG_ID rfl (by decide) rfl (by simp)
  | drvProgId _ =>
    exact writes_u32.roundTrips_widened IFLA_XDP_DRV_PROG_ID rfl (by decide) rfl (by simp)
  | skbProgId _ =>
    exact writes_u32.roundTrips_widened IFLA_XDP_SKB_PROG_ID rfl (by decide) rfl (by simp)
  | hwProgId _ =>
    exact writes_u32.roundTrips_widened IFLA_XDP_HW_PROG_ID rfl (by decide) rfl (by simp)
  | expectedFd _ =>
    exact writes_u32.roundTrips_widened IFLA_XDP_EXPECTED_FD rfl (by decide) rfl (by simp)
  | other n =>
    refine writes_bytes.roundTrips fun _ hc => (hc.bind _).trans ?_
    rw [select_default (mt toUInt32_mem_iff.1 h), hc.defaultNla]
    rfl

/-- The parser of XDP gives canonical attributes only. -/
theorem holds_parse (hv : NlaValid nb.buffer) : (parse nb).Holds Canonical := by
  rw [parse, hv.carries.bind]
  refine holds_select (by simp [Canonical]) fun hk => ?_
  rw [hv.carries.defaultNla]
  exact (Outcome.holds_ok _).2 (mt toUInt32_mem_iff.2 hk)

/-- A list of them comes back. Unless it is empty, it starts with an
attribute, which the decoder wants. -/
theorem exists_parseVec {l : List LinkXdp} (h : ∀ i ∈ l, i.Canonical)
    (hlen : nlasLen (l.map nla) ≤ 65531) :
    ∃ out, Fills (emitNlas (l.map nla)) (nlasLen (l.map nla)) out ∧
      parseVec ⟨out⟩ = .ok l ∧ (l ≠ [] → NlaValid out) := by
  obtain ⟨out, hout, hread⟩ := exists_readsAs (r := id) (t := nla)
    (fun i hi _ => roundTrips (h i hi)) hlen
  rw [List.map_id] at hread
  exact ⟨out, hout, hread.parseEach_eq, hread.valid_of_ne_nil⟩

end LinkXdp

/-! ## Attributes by family -/

namespace BridgeVlanInfo

variable {d : BridgeVlanInfo}

theorem length_bytes : d.bytes.length = 4 := by simp [bytes]

/-- A VLAN range is read back from its four bytes. -/
@[simp] theorem tryFrom_bytes : tryFrom d.bytes = .ok d := by
  have hvid : slice (ne.u16 d.vid) 0 2 = .ok (ne.u16 d.vid) := by
    simpa using slice_self (b := ne.u16 d.vid)
  rw [tryFrom, if_pos length_bytes, bytes, slice_append_left (by simp),
    slice_append_right (by simp) (by simp)]
  simp [hvid]

end BridgeVlanInfo

namespace AfSpecBridge

variable {a : AfSpecBridge}

/-- An unknown attribute is of none of the kinds the decoder names. -/
def Canonical : AfSpecBridge → Prop
  | .other n => n.Unknown [IFLA_BRIDGE_VLAN_INFO, IFLA_BRIDGE_FLAGS]
  | _ => True

/-- An attribute of a bridge specification comes back. -/
theorem roundTrips (h : a.Canonical) : RoundTrips parse a.nla a := by
  cases a with
  | flags _ => exact writes_u16.roundTrips_arm IFLA_BRIDGE_FLAGS rfl rfl (by simp)
  | vlanInfo _ =>
    exact (writes_put BridgeVlanInfo.length_bytes).roundTrips_arm IFLA_BRIDGE_VLAN_INFO rfl rfl
      (by simp)
  | other n => exact .of_default h

theorem holds_parse (hv : NlaValid nb.buffer) : (parse nb).Holds Canonical :=
  hv.holds_parse (by simp [Canonical]) fun _ hk => hk

end AfSpecBridge

namespace AfSpecInet

variable {a : AfSpecInet}

/-- An unknown attribute is of none of the kinds the decoder names. -/
def Canonical : AfSpecInet → Prop
  | .other n => n.Unknown [IFLA_INET_CONF]
  | _ => True

/-- An attribute of an IPv4 specification comes back. -/
theorem roundTrips (h : a.Canonical) : RoundTrips parse a.nla a := by
  cases a with
  | devConf c => exact InetDevConf.codec.writes_emit.roundTrips_arm IFLA_INET_CONF rfl rfl (by simp)
  | other n => exact .of_default h

theorem holds_parse (hv : NlaValid nb.buffer) : (parse nb).Holds Canonical :=
  hv.holds_parse (by simp [Canonical]) fun _ hk => hk

end AfSpecInet

namespace AfSpecInet6

variable {a : AfSpecInet6}

/-- The kinds the decoder names. -/
def kinds : List UInt16 :=
  [IFLA_INET6_FLAGS, IFLA_INET6_CACHEINFO, IFLA_INET6_CONF, IFLA_INET6_STATS,
    IFLA_INET6_ICMP6STATS, IFLA_INET6_TOKEN, IFLA_INET6_ADDR_GEN_MODE, IFLA_INET6_RA_MTU]

/-- An unknown attribute is of none of the kinds the decoder names. -/
def Canonical : AfSpecInet6 → Prop
  | .other n => n.Unknown kinds
  | _ => True

/-- An attribute of an IPv6 specification comes back. -/
theorem roundTrips (h : a.Canonical) : RoundTrips parse a.nla a := by
  cases a with
  | flags _ => exact writes_u32.roundTrips_arm IFLA_INET6_FLAGS rfl rfl (by simp)
  | cacheInfo v =>
    exact Inet6CacheInfo.codec.writes_emit.roundTrips_arm IFLA_INET6_CACHEINFO rfl rfl (by simp)
  | devConf v =>
    exact Inet6DevConf.codec.writes_emit.roundTrips_arm IFLA_INET6_CONF rfl rfl (by simp)
  | stats v =>
    exact .of_arm Inet6Stats.codec.fills_emit IFLA_INET6_STATS rfl rfl
      (by simp [HeaderCodec.parseExpanded_bytes (s := Inet6Stats.codec) (x := v) trivial])
  | icmp6Stats v =>
    exact .of_arm Icmp6Stats.codec.fills_emit IFLA_INET6_ICMP6STATS rfl rfl
      (by simp [HeaderCodec.parseExpanded_bytes (s := Icmp6Stats.codec) (x := v) trivial])
  | token _ => exact writes_octets.roundTrips_arm IFLA_INET6_TOKEN rfl rfl (by simp)
  | addrGenMode _ => exact writes_u8.roundTrips_arm IFLA_INET6_ADDR_GEN_MODE rfl rfl (by simp)
  | raMtu _ => exact writes_u32.roundTrips_arm IFLA_INET6_RA_MTU rfl rfl (by simp)
  | other n => exact .of_default h

theorem holds_parse (hv : NlaValid nb.buffer) : (parse nb).Holds Canonical :=
  hv.holds_parse (by simp [Canonical]) fun _ hk => hk

end AfSpecInet6

namespace AfSpecUnspec

variable {a : AfSpecUnspec}

omit [PacketUtils] in
theorem kind_inet : (AddressFamily.codec.toNum .inet).toUInt16 = 2 := by decide

omit [PacketUtils] in
theorem kind_inet6 : (AddressFamily.codec.toNum .inet6).toUInt16 = 10 := by decide

/-- So is every attribute of a family's list, and a list that is kept as
it is belongs to none of the families the decoder names. -/
def Canonical : AfSpecUnspec → Prop
  | .inet l => ∀ i ∈ l, i.Canonical
  | .inet6 l => ∀ i ∈ l, i.Canonical
  | .other n => n.Unknown [(AddressFamily.codec.toNum .inet).toUInt16,
      (AddressFamily.codec.toNum .inet6).toUInt16]

/-- A specification without a family comes back, family by family. -/
theorem roundTrips (h : a.Canonical) (hs : a.valueLen ≤ 65531) : RoundTrips parse a.nla a := by
  cases a with
  | inet l =>
    obtain ⟨out, hout, hread⟩ := exists_readsAs (r := id) (t := AfSpecInet.nla)
      (fun i hi _ => AfSpecInet.roundTrips (h i hi)) hs
    refine ⟨out, hout, fun nb hc => ?_⟩
    rw [parse, hc.kind, Outcome.ok_bind, hc.value, show (inet l).nla.kind = 2 from kind_inet,
      kind_inet, kind_inet6]
    exact (select_of_find (k := 2) rfl).trans
      (by simp [AfSpecInet.parseVec, hread.parseEachWith_eq])
  | inet6 l =>
    obtain ⟨out, hout, hread⟩ := exists_readsAs (r := id) (t := AfSpecInet6.nla)
      (fun i hi _ => AfSpecInet6.roundTrips (h i hi)) hs
    refine ⟨out, hout, fun nb hc => ?_⟩
    rw [parse, hc.kind, Outcome.ok_bind, hc.value, show (inet6 l).nla.kind = 10 from kind_inet6,
      kind_inet, kind_inet6]
    exact (select_of_find (k := 10) rfl).trans
      (by simp [AfSpecInet6.parseVec, hread.parseNlas_eq])
  | other n =>
    refine writes_bytes.roundTrips fun nb hc => ?_
    rw [parse, hc.kind, Outcome.ok_bind, select_default (by exact h), hc.defaultNla]
    rfl

/-- Its parser gives canonical lists only. -/
theorem holds_parse (hv : NlaValid nb.buffer) : (parse nb).Holds Canonical := by
  rw [parse, hv.carries.kind, Outcome.ok_bind, hv.carries.value]
  refine holds_select ?_ fun hk => ?_
  · have hinet : (AfSpecInet.parseVec (nlaValue nb.buffer)).Holds fun l => ∀ i ∈ l, i.Canonical :=
      holds_parseEachWith fun _ hnb => AfSpecInet.holds_parse (valid_of_mem_nlas hnb)
    have hinet6 : (AfSpecInet6.parseVec (nlaValue nb.buffer)).Holds
        fun l => ∀ i ∈ l, i.Canonical :=
      holds_parseNlas fun _ hnb => AfSpecInet6.holds_parse (valid_of_mem_nlas hnb)
    simp [Canonical, hinet, hinet6]
  · rw [hv.carries.defaultNla]
    exact (Outcome.holds_ok _).2 hk

end AfSpecUnspec

end

end NetlinkRoute
