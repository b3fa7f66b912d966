import NetlinkRoute.Link.Leaves
/-!
# Link — the attributes of the other kinds of links come back

What is written of a VLAN, a MAC VLAN, a MACsec device and so on is read
again as it was, and what is read can be written. The three attributes of
a VXLAN that are flags are the exception: they hold a boolean, but are
written without a payload whatever it is, and read as set
(`InfoVxlan.roundTrips`).
-/

namespace NetlinkRoute

open PacketUtils Emitter

section

variable [PacketUtils]

/-! ## Pairs -/

section Pairs

variable {α : Type} {parse : Bytes → Outcome α} {w : ℕ} {err errFst errSnd : String} {x y : Bytes}
  {a b : α}

omit [PacketUtils] in
/-- Two values written one behind the other are read as a pair. -/
theorem parsePair_append (hx : x.length = w) (hy : y.length = w) (ha : parse x = .ok a)
    (hb : parse y = .ok b) : parsePair parse w err errFst errSnd (x ++ y) = .ok (a, b) := by
  have hlen : (x ++ y).length = 2 * w := by
    rw [List.length_append]
    omega
  rw [parsePair, if_neg (by simpa using hlen), slice_append_left hx.symm, Outcome.ok_bind, ha,
    sliceFrom_ok (by omega), List.drop_left' hx]
  simp [hb]

omit [PacketUtils] in
/-- A pair is written as its two values. -/
theorem writes_pair (hx : x.length = w) (hy : y.length = w) :
    Writes (fields [(0, x), (w, y)]) (2 * w) (x ++ y) := by
  have hlen : (x ++ y).length = 2 * w := by
    rw [List.length_append]
    omega
  have hc : Covers (fields [(0, x), (w, y)]) (x ++ y) := by
    simpa using @covers_fields [(0, x), (w, y)] (by simp [Tiles, hx])
  exact hlen ▸ hc.writes

end Pairs

/-! ## VLANs -/

namespace VlanQosMapping

variable {a : VlanQosMapping} {nb : NlaBuffer}

/-- The kinds the decoder names. -/
def kinds : List UInt16 :=
  [IFLA_VLAN_QOS_MAPPING]

/-- An unknown attribute is of none of the kinds the decoder names. -/
def Canonical : VlanQosMapping → Prop
  | .other n => n.Unknown kinds
  | _ => True

/-- A priority mapping comes back. -/
theorem roundTrips (h : a.Canonical) : RoundTrips parse a.nla a := by
  cases a with
  | mapping from_ to_ =>
    refine (writes_pair (length_u32 _ from_) (length_u32 _ to_)).roundTrips_arm
      IFLA_VLAN_QOS_MAPPING rfl rfl ?_
    simp [parsePair_append (length_u32 ne from_) (length_u32 ne to_) parseU32_u32 parseU32_u32]
  | other n => exact .of_default h

/-- Its parser gives canonical mappings only. -/
theorem holds_parse (hv : NlaValid nb.buffer) : (parse nb).Holds Canonical :=
  hv.holds_parse (by simp [Canonical]) fun _ hk => hk

end VlanQosMapping

namespace InfoVlan

variable {a : InfoVlan} {nb : NlaBuffer}

/-- The kinds the decoder names. -/
def kinds : List UInt16 :=
  [IFLA_VLAN_ID, IFLA_VLAN_FLAGS, IFLA_VLAN_EGRESS_QOS, IFLA_VLAN_INGRESS_QOS, IFLA_VLAN_PROTOCOL]

/-- Enumerations are canonical, and an unknown attribute is of none of the
kinds the decoder names. -/
def Canonical : InfoVlan → Prop
  | .egressQos l | .ingressQos l => ∀ i ∈ l, i.Canonical
  | .other n => n.Unknown kinds
  | _ => True

/-- A canonical attribute of a VLAN link comes back. -/
theorem roundTrips (h : a.Canonical) (hs : a.valueLen ≤ 65531) : RoundTrips parse a.nla a := by
  cases a with
  | id _ => exact writes_u16.roundTrips_arm IFLA_VLAN_ID rfl rfl (by simp)
  | flags v =>
    refine (writes_pair (length_u32 _ v.1) (length_u32 _ v.2)).roundTrips_arm
      IFLA_VLAN_FLAGS rfl rfl ?_
    simp [parsePair_append (length_u32 ne v.1) (length_u32 ne v.2) parseU32_u32 parseU32_u32]
  | egressQos l =>
    obtain ⟨out, hout, hread⟩ := exists_readsAs (r := fun i => i) (t := VlanQosMapping.nla)
      (fun i hi _ => VlanQosMapping.roundTrips (h i hi)) hs
    exact .of_arm hout IFLA_VLAN_EGRESS_QOS rfl rfl
      (by simp [VlanQosMapping.parseMappings, hread.parseEach_eq])
  | ingressQos l =>
    obtain ⟨out, hout, hread⟩ := exists_readsAs (r := fun i => i) (t := VlanQosMapping.nla)
      (fun i hi _ => VlanQosMapping.roundTrips (h i hi)) hs
    exact .of_arm hout IFLA_VLAN_INGRESS_QOS rfl rfl
      (by simp [VlanQosMapping.parseMappings, hread.parseEach_eq])
  | protocol _ => exact writes_u16Be.roundTrips_arm IFLA_VLAN_PROTOCOL rfl rfl (by simp)
  | other n => exact .of_default h

/-- The parser of a VLAN link gives canonical attributes only. -/
theorem holds_parse (hv : NlaValid nb.buffer) : (parse nb).Holds Canonical := by
  have hqos : (VlanQosMapping.parseMappings (nlaValue nb.buffer)).Holds
      fun l => ∀ i ∈ l, i.Canonical :=
    holds_parseEach fun _ hnb => VlanQosMapping.holds_parse (valid_of_mem_nlas hnb)
  exact hv.holds_parse (by simp [Canonical, hqos]) fun _ hk => hk

end InfoVlan

/-! ## VXLANs -/

namespace InfoVxlan

variable {a : InfoVxlan} {nb : NlaBuffer}

/-- The kinds the decoder names. -/
def kinds : List UInt16 :=
  [IFLA_VXLAN_ID, IFLA_VXLAN_GROUP, IFLA_VXLAN_GROUP6, IFLA_VXLAN_LINK, IFLA_VXLAN_LOCAL,
    IFLA_VXLAN_LOCAL6, IFLA_VXLAN_TOS, IFLA_VXLAN_TTL, IFLA_VXLAN_LABEL, IFLA_VXLAN_LEARNING,
    IFLA_VXLAN_AGEING, IFLA_VXLAN_LIMIT, IFLA_VXLAN_PROXY, IFLA_VXLAN_RSC, IFLA_VXLAN_L2MISS,
    IFLA_VXLAN_L3MISS, IFLA_VXLAN_COLLECT_METADATA, IFLA_VXLAN_PORT_RANGE, IFLA_VXLAN_PORT,
    IFLA_VXLAN_UDP_CSUM, IFLA_VXLAN_UDP_ZERO_CSUM6_TX, IFLA_VXLAN_UDP_ZERO_CSUM6_RX,
    IFLA_VXLAN_REMCSUM_TX, IFLA_VXLAN_REMCSUM_RX, IFLA_VXLAN_DF, IFLA_VXLAN_GBP, IFLA_VXLAN_GPE,
    IFLA_VXLAN_REMCSUM_NOPARTIAL, IFLA_VXLAN_TTL_INHERIT, IFLA_VXLAN_VNIFILTER,
    IFLA_VXLAN_LOCALBYPASS]

/-- An unknown attribute is of none of the kinds the decoder names. -/
def Canonical : InfoVxlan → Prop
  | .other n => n.Unknown kinds
  | _ => True

/-- What comes back of an attribute. -/
def received : InfoVxlan → InfoVxlan
  | .gbp _ => .gbp true
  | .gpe _ => .gpe true
  | .remCsumNoPartial _ => .remCsumNoPartial true
  | a => a

/-- An attribute of a VXLAN link comes back as the one received. -/
theorem roundTrips (h : a.Canonical) : RoundTrips parse a.nla a.received := by
  cases a with
  | id _ => exact writes_u32.roundTrips_arm IFLA_VXLAN_ID rfl rfl (by simp [received])
  | group _ => exact writes_bytes.roundTrips_arm IFLA_VXLAN_GROUP rfl rfl (by simp [received])
  | group6 _ => exact writes_bytes.roundTrips_arm IFLA_VXLAN_GROUP6 rfl rfl (by simp [received])
  | link _ => exact writes_u32.roundTrips_arm IFLA_VXLAN_LINK rfl rfl (by simp [received])
  | local_ _ => exact writes_bytes.roundTrips_arm IFLA_VXLAN_LOCAL rfl rfl (by simp [received])
  | local6 _ => exact writes_bytes.roundTrips_arm IFLA_VXLAN_LOCAL6 rfl rfl (by simp [received])
  | tos _ => exact writes_u8.roundTrips_arm IFLA_VXLAN_TOS rfl rfl (by simp [received])
  | ttl _ => exact writes_u8.roundTrips_arm IFLA_VXLAN_TTL rfl rfl (by simp [received])
  | label _ => exact writes_u32.roundTrips_arm IFLA_VXLAN_LABEL rfl rfl (by simp [received])
  | learning _ => exact writes_u8.roundTrips_arm IFLA_VXLAN_LEARNING rfl rfl (by simp [received])
  | ageing _ => exact writes_u32.roundTrips_arm IFLA_VXLAN_AGEING rfl rfl (by simp [received])
  | limit _ => exact writes_u32.roundTrips_arm IFLA_VXLAN_LIMIT rfl rfl (by simp [received])
  | portRange v =>
    refine (writes_pair (length_u16 _ v.1) (length_u16 _ v.2)).roundTrips_arm
      IFLA_VXLAN_PORT_RANGE rfl rfl ?_
    simp [received, parsePair_append (length_u16 be v.1) (length_u16 be v.2) parseU16Be_u16
      parseU16Be_u16]
  | proxy _ => exact writes_u8.roundTrips_arm IFLA_VXLAN_PROXY rfl rfl (by simp [received])
  | rsc _ => exact writes_u8.roundTrips_arm IFLA_VXLAN_RSC rfl rfl (by simp [received])
  | l2Miss _ => exact writes_u8.roundTrips_arm IFLA_VXLAN_L2MISS rfl rfl (by simp [received])
  | l3Miss _ => exact writes_u8.roundTrips_arm IFLA_VXLAN_L3MISS rfl rfl (by simp [received])
  | collectMetadata _ =>
    exact writes_u8.roundTrips_arm IFLA_VXLAN_COLLECT_METADATA rfl rfl (by simp [received])
  | port _ => exact writes_u16Be.roundTrips_arm IFLA_VXLAN_PORT rfl rfl (by simp [received])
  | uDPCsum _ => exact writes_u8.roundTrips_arm IFLA_VXLAN_UDP_CSUM rfl rfl (by simp [received])
  | uDPZeroCsumTX _ =>
    exact writes_u8.roundTrips_arm IFLA_VXLAN_UDP_ZERO_CSUM6_TX rfl rfl (by simp [received])
  | uDPZeroCsumRX _ =>
    exact writes_u8.roundTrips_arm IFLA_VXLAN_UDP_ZERO_CSUM6_RX rfl rfl (by simp [received])
  | remCsumTX _ => exact writes_u8.roundTrips_arm IFLA_VXLAN_REMCSUM_TX rfl rfl (by simp [received])
  | remCsumRX _ => exact writes_u8.roundTrips_arm IFLA_VXLAN_REMCSUM_RX rfl rfl (by simp [received])
  | gbp _ => exact writes_skip.roundTrips_arm IFLA_VXLAN_GBP rfl rfl (by simp [received])
  | gpe _ => exact writes_skip.roundTrips_arm IFLA_VXLAN_GPE rfl rfl (by simp [received])
  | remCsumNoPartial _ =>
    exact writes_skip.roundTrips_arm IFLA_VXLAN_REMCSUM_NOPARTIAL rfl rfl (by simp [received])
  | ttlInherit _ =>
    exact writes_u8.roundTrips_arm IFLA_VXLAN_TTL_INHERIT rfl rfl (by simp [received])
  | df _ => exact writes_u8.roundTrips_arm IFLA_VXLAN_DF rfl rfl (by simp [received])
  | vnifilter _ => exact writes_u8.roundTrips_arm IFLA_VXLAN_VNIFILTER rfl rfl (by simp [received])
  | localbypass _ =>
    exact writes_u8.roundTrips_arm IFLA_VXLAN_LOCALBYPASS rfl rfl (by simp [received])
  | other n => exact .of_default h

/-- A flag that is read is set. -/
theorem holds_parse (hv : NlaValid nb.buffer) :
    (parse nb).Holds fun a => a.Canonical ∧ a.received = a :=
  hv.holds_parse (by simp [Canonical, received]) fun _ hk => ⟨hk, rfl⟩

end InfoVxlan

/-! ## MAC VLANs -/

namespace InfoMacVlan

variable {a : InfoMacVlan} {nb : NlaBuffer} {name : String}

/-- The recursion over the attributes of a MAC VLAN is the ordinary map. -/
theorem nlas_eq (l : List InfoMacVlan) : nlas l = l.map nla := by
  induction l with
  | nil => rfl
  | cons a l ih => rw [nlas, ih, List.map_cons, nla]

theorem bufferLenSum_eq (l : List InfoMacVlan) : bufferLenSum l = nlasLen (l.map nla) := by
  induction l with
  | nil => rfl
  | cons a l ih =>
    rw [bufferLenSum, ih, List.map_cons, nlasLen_cons]
    rfl

/-- The parser of the attributes of MAC VLANs and MAC VTAPs. -/
def parseNamed (name : String) (buf : NlaBuffer) : Outcome InfoMacVlan :=
  parseAt name (buf.buffer.length + 1) buf

/-- Parsers agree that agree one level down. -/
theorem parseOver_congr {p q : NlaBuffer → Outcome InfoMacVlan} (hv : NlaValid nb.buffer)
    (h : ∀ nb', .ok nb' ∈ PacketUtils.nlas (nlaValue nb.buffer) → p nb' = q nb') :
    parseOver name p nb = parseOver name q nb := by
  have hdata : ∀ err err', parseNlas err err' p (nlaValue nb.buffer) =
      parseNlas err err' q (nlaValue nb.buffer) := by
    refine fun _ _ => forEach_congr fun o ho => ?_
    cases o with
    | ok nb' => simp only [Outcome.context_ok, Outcome.ok_bind, h nb' ho]
    | err e => rfl
    | panic => rfl
  rw [parseOver, parseOver, hv.carries.bind, hv.carries.bind, hdata]

/-- Enough levels are enough. -/
theorem parseAt_eq_parseAt {d d' : ℕ} (hv : NlaValid nb.buffer) (h : nb.buffer.length < d)
    (h' : nb.buffer.length < d') : parseAt name d nb = parseAt name d' nb := by
  induction d generalizing nb d' with
  | zero => omega
  | succ d ih =>
    obtain ⟨d', rfl⟩ : ∃ k, d' = k + 1 := ⟨d' - 1, by omega⟩
    refine parseOver_congr hv fun nb' hnb' => ?_
    have hlen := hv.length_value
    have hle := hv.2
    have hshort := length_le_of_mem_nlas hnb'
    exact ih (valid_of_mem_nlas hnb') (by omega) (by omega)

/-- **The parser's own equation**: the attributes inside are parsed as the
attribute is. -/
theorem parseNamed_eq (hv : NlaValid nb.buffer) :
    parseNamed name nb = parseOver name (parseNamed name) nb := by
  refine parseOver_congr hv fun nb' hnb' => ?_
  have hlen := hv.length_value
  have hle := hv.2
  have hshort := length_le_of_mem_nlas hnb'
  exact parseAt_eq_parseAt (valid_of_mem_nlas hnb') (by omega) (Nat.lt_succ_self _)

/-- The kinds the decoder names. -/
def kinds : List UInt16 :=
  [IFLA_MACVLAN_MODE, IFLA_MACVLAN_FLAGS, IFLA_MACVLAN_MACADDR_MODE, IFLA_MACVLAN_MACADDR,
    IFLA_MACVLAN_MACADDR_DATA, IFLA_MACVLAN_MACADDR_COUNT, IFLA_MACVLAN_BC_QUEUE_LEN,
    IFLA_MACVLAN_BC_QUEUE_LEN_USED, IFLA_MACVLAN_BC_CUTOFF]

/-- An attribute that holds no further ones: the mode is canonical, and an
unknown attribute is of none of the kinds the decoder names. -/
def CanonicalLeaf : InfoMacVlan → Prop
  | .mode v => MacVlanMode.codec.Canonical v
  | .macAddrData _ => False
  | .other n => n.Unknown kinds
  | _ => True

/-- So is every attribute inside. -/
inductive Canonical : InfoMacVlan → Prop where
  /-- No attribute is inside. -/
  | leaf {a : InfoMacVlan} (h : a.CanonicalLeaf) : Canonical a
  /-- A list of attributes. -/
  | list {l : List InfoMacVlan} (h : ∀ i ∈ l, Canonical i) : Canonical (.macAddrData l)

/-- An attribute without a nested list comes back, whatever the parser does
with nested ones. -/
theorem roundTrips_leaf {p : NlaBuffer → Outcome InfoMacVlan} (h : a.CanonicalLeaf) :
    RoundTrips (parseOver name p) a.nla a := by
  cases a with
  | mode _ =>
    exact writes_u32.roundTrips_arm IFLA_MACVLAN_MODE rfl rfl
      (by simp [EnumCodec.Canonical.ofNum_toNum h])
  | flags _ => exact writes_u16.roundTrips_arm IFLA_MACVLAN_FLAGS rfl rfl (by simp)
  | macAddrMode _ => exact writes_u32.roundTrips_arm IFLA_MACVLAN_MACADDR_MODE rfl rfl (by simp)
  | macAddr _ => exact writes_octets.roundTrips_arm IFLA_MACVLAN_MACADDR rfl rfl (by simp)
  | macAddrData _ => exact absurd h id
  | macAddrCount _ => exact writes_u32.roundTrips_arm IFLA_MACVLAN_MACADDR_COUNT rfl rfl (by simp)
  | bcQueueLen _ => exact writes_u32.roundTrips_arm IFLA_MACVLAN_BC_QUEUE_LEN rfl rfl (by simp)
  | bcQueueLenUsed _ =>
    exact writes_u32.roundTrips_arm IFLA_MACVLAN_BC_QUEUE_LEN_USED rfl rfl (by simp)
  | bcCutoff _ => exact writes_i32.roundTrips_arm IFLA_MACVLAN_BC_CUTOFF rfl rfl (by simp)
  | other n => exact .of_default h

/-- **An attribute of a MAC VLAN comes back**, by induction on what is
inside it. -/
theorem roundTrips (h : a.Canonical) (hs : a.valueLen ≤ 65531) :
    RoundTrips (parseNamed name) a.nla a := by
  have hover : RoundTrips (parseOver name (parseNamed name)) a.nla a := by
    induction h with
    | leaf h => exact roundTrips_leaf h
    | @list l _ ih =>
      have hlen : nlasLen (l.map nla) ≤ 65531 := by
        rwa [valueLen, bufferLenSum_eq] at hs
      have hinside : ∀ i ∈ l, i.valueLen ≤ 65531 → RoundTrips (parseNamed name) i.nla i := by
        intro i hi hi'
        obtain ⟨v, hv, hp⟩ := ih i hi hi'
        exact ⟨v, hv, fun nb hc => (parseNamed_eq hc.valid).trans (hp nb hc)⟩
      obtain ⟨out, hout, hread⟩ := exists_readsAs (r := id) hinside hlen
      have hpay : (nla (.macAddrData l)).Payload out := by
        show Fills (emitValue (.macAddrData l)) (valueLen (.macAddrData l)) out
        rwa [valueLen, bufferLenSum_eq, emitValue, nlas_eq]
      exact .of_arm hpay IFLA_MACVLAN_MACADDR_DATA rfl rfl (by simp [hread.parseNlas_eq])
  obtain ⟨v, hv, hp⟩ := hover
  exact ⟨v, hv, fun nb hc => (parseNamed_eq hc.valid).trans (hp nb hc)⟩

/-- The parser of a MAC VLAN gives canonical attributes, nested ones
included. -/
theorem holds_parse (hv : NlaValid nb.buffer) : (parseNamed name nb).Holds Canonical := by
  induction hn : nb.buffer.length using Nat.strongRecOn generalizing nb with
  | _ n ih =>
    subst hn
    have hdata : ∀ err err', (parseNlas err err' (parseNamed name) (nlaValue nb.buffer)).Holds
        fun l => ∀ i ∈ l, i.Canonical := by
      refine fun _ _ => holds_parseNlas fun nb' hnb' => ?_
      have hlen := hv.length_value
      have hle := hv.2
      have hshort := length_le_of_mem_nlas hnb'
      exact ih _ (by omega) (valid_of_mem_nlas hnb') rfl
    have hcases : (parseOver name (parseNamed name) nb).Holds fun a =>
        a.CanonicalLeaf ∨ ∃ l, a = .macAddrData l ∧ ∀ i ∈ l, i.Canonical :=
      hv.holds_parse (by simp [CanonicalLeaf, hdata]) fun _ hk => .inl hk
    rw [parseNamed_eq hv]
    refine hcases.mono fun a ha => ?_
    obtain hleaf | ⟨l, rfl, hl⟩ := ha
    · exact .leaf hleaf
    · exact .list hl

end InfoMacVlan

/-! ## MACsec, HSR, IP VLANs, InfiniBand, VRFs, XFRM -/

namespace InfoMacSec

variable {a : InfoMacSec} {nb : NlaBuffer}

/-- The kinds the decoder names. -/
def kinds : List UInt16 :=
  [IFLA_MACSEC_SCI, IFLA_MACSEC_PORT, IFLA_MACSEC_ICV_LEN, IFLA_MACSEC_CIPHER_SUITE,
    IFLA_MACSEC_WINDOW, IFLA_MACSEC_ENCODING_SA, IFLA_MACSEC_ENCRYPT, IFLA_MACSEC_PROTECT,
    IFLA_MACSEC_INC_SCI, IFLA_MACSEC_ES, IFLA_MACSEC_SCB, IFLA_MACSEC_REPLAY_PROTECT,
    IFLA_MACSEC_VALIDATION, IFLA_MACSEC_OFFLOAD]

/-- Enumerations are canonical, and an unknown attribute is of none of the
kinds the decoder names. -/
def Canonical : InfoMacSec → Prop
  | .cipherSuite v => MacSecCipherId.codec.Canonical v
  | .validation v => MacSecValidate.codec.Canonical v
  | .offload v => MacSecOffload.codec.Canonical v
  | .other n => n.Unknown kinds
  | _ => True

/-- A canonical attribute of a MACsec link comes back. -/
theorem roundTrips (h : a.Canonical) : RoundTrips parse a.nla a := by
  cases a with
  | sci _ => exact writes_u64.roundTrips_arm IFLA_MACSEC_SCI rfl rfl (by simp)
  | port _ => exact writes_u16.roundTrips_arm IFLA_MACSEC_PORT rfl rfl (by simp)
  | icvLen _ => exact writes_u8.roundTrips_arm IFLA_MACSEC_ICV_LEN rfl rfl (by simp)
  | cipherSuite _ =>
    exact writes_u64.roundTrips_arm IFLA_MACSEC_CIPHER_SUITE rfl rfl
      (by simp [EnumCodec.Canonical.ofNum_toNum h])
  | window _ => exact writes_u32.roundTrips_arm IFLA_MACSEC_WINDOW rfl rfl (by simp)
  | encodingSa _ => exact writes_u8.roundTrips_arm IFLA_MACSEC_ENCODING_SA rfl rfl (by simp)
  | encrypt _ => exact writes_u8.roundTrips_arm IFLA_MACSEC_ENCRYPT rfl rfl (by simp)
  | protect _ => exact writes_u8.roundTrips_arm IFLA_MACSEC_PROTECT rfl rfl (by simp)
  | incSci _ => exact writes_u8.roundTrips_arm IFLA_MACSEC_INC_SCI rfl rfl (by simp)
  | es _ => exact writes_u8.roundTrips_arm IFLA_MACSEC_ES rfl rfl (by simp)
  | scb _ => exact writes_u8.roundTrips_arm IFLA_MACSEC_SCB rfl rfl (by simp)
  | replayProtect _ => exact writes_u8.roundTrips_arm IFLA_MACSEC_REPLAY_PROTECT rfl rfl (by simp)
  | validation _ =>
    exact writes_u8.roundTrips_arm IFLA_MACSEC_VALIDATION rfl rfl
      (by simp [EnumCodec.Canonical.ofNum_toNum h])
  | offload _ =>
    exact writes_u8.roundTrips_arm IFLA_MACSEC_OFFLOAD rfl rfl
      (by simp [EnumCodec.Canonical.ofNum_toNum h])
  | other n => exact .of_default h

/-- The parser of a MACsec link gives canonical attributes only. -/
theorem holds_parse (hv : NlaValid nb.buffer) : (parse nb).Holds Canonical :=
  hv.holds_parse (by simp [Canonical]) fun _ hk => hk

end InfoMacSec

namespace InfoHsr

variable {a : InfoHsr} {nb : NlaBuffer}

/-- The kinds the decoder names. -/
def kinds : List UInt16 :=
  [IFLA_HSR_PORT1, IFLA_HSR_PORT2, IFLA_HSR_MULTICAST_SPEC, IFLA_HSR_SUPERVISION_ADDR,
    IFLA_HSR_SEQ_NR, IFLA_HSR_VERSION, IFLA_HSR_PROTOCOL]

/-- Enumerations are canonical, and an unknown attribute is of none of the
kinds the decoder names. -/
def Canonical : InfoHsr → Prop
  | .protocol v => HsrProtocol.codec.Canonical v
  | .other n => n.Unknown kinds
  | _ => True

/-- A canonical attribute of an HSR link comes back. -/
theorem roundTrips (h : a.Canonical) : RoundTrips parse a.nla a := by
  cases a with
  | port1 _ => exact writes_u32.roundTrips_arm IFLA_HSR_PORT1 rfl rfl (by simp)
  | port2 _ => exact writes_u32.roundTrips_arm IFLA_HSR_PORT2 rfl rfl (by simp)
  | multicastSpec _ => exact writes_u8.roundTrips_arm IFLA_HSR_MULTICAST_SPEC rfl rfl (by simp)
  | supervisionAddr _ =>
    exact writes_octets.roundTrips_arm IFLA_HSR_SUPERVISION_ADDR rfl rfl (by simp)
  | version _ => exact writes_u8.roundTrips_arm IFLA_HSR_VERSION rfl rfl (by simp)
  | seqNr _ => exact writes_u16.roundTrips_arm IFLA_HSR_SEQ_NR rfl rfl (by simp)
  | protocol _ =>
    exact writes_u8.roundTrips_arm IFLA_HSR_PROTOCOL rfl rfl
      (by simp [EnumCodec.Canonical.ofNum_toNum h])
  | other n => exact .of_default h

theorem holds_parse (hv : NlaValid nb.buffer) : (parse nb).Holds Canonical :=
  hv.holds_parse (by simp [Canonical]) fun _ hk => hk

end InfoHsr

namespace InfoIpVlan

variable {a : InfoIpVlan} {nb : NlaBuffer}

/-- The kinds the decoder names. -/
def kinds : List UInt16 :=
  [IFLA_IPVLAN_MODE, IFLA_IPVLAN_FLAGS]

/-- Enumerations are canonical, and an unknown attribute is of none of the
kinds the decoder names. -/
def Canonical : InfoIpVlan → Prop
  | .mode v => IpVlanMode.codec.Canonical v
  | .other n => n.Unknown kinds
  | _ => True

/-- A canonical attribute of an IP VLAN comes back. -/
theorem roundTrips (h : a.Canonical) : RoundTrips parse a.nla a := by
  cases a with
  | mode _ =>
    exact writes_u16.roundTrips_arm IFLA_IPVLAN_MODE rfl rfl
      (by simp [EnumCodec.Canonical.ofNum_toNum h])
  | flags _ => exact writes_u16.roundTrips_arm IFLA_IPVLAN_FLAGS rfl rfl (by simp)
  | other n => exact .of_default h

theorem holds_parse (hv : NlaValid nb.buffer) : (parse nb).Holds Canonical :=
  hv.holds_parse (by simp [Canonical]) fun _ hk => hk

end InfoIpVlan

namespace InfoIpoib

variable {a : InfoIpoib} {nb : NlaBuffer}

/-- The kinds the decoder names. -/
def kinds : List UInt16 :=
  [IFLA_IPOIB_PKEY, IFLA_IPOIB_MODE, IFLA_IPOIB_UMCAST]

/-- An unknown attribute is of none of the kinds the decoder names. -/
def Canonical : InfoIpoib → Prop
  | .other n => n.Unknown kinds
  | _ => True

/-- A canonical attribute of an InfiniBand link comes back. -/
theorem roundTrips (h : a.Canonical) : RoundTrips parse a.nla a := by
  cases a with
  | pkey _ => exact writes_u16.roundTrips_arm IFLA_IPOIB_PKEY rfl rfl (by simp)
  | mode _ => exact writes_u16.roundTrips_arm IFLA_IPOIB_MODE rfl rfl (by simp)
  | umCast _ => exact writes_u16.roundTrips_arm IFLA_IPOIB_UMCAST rfl rfl (by simp)
  | other n => exact .of_default h

theorem holds_parse (hv : NlaValid nb.buffer) : (parse nb).Holds Canonical :=
  hv.holds_parse (by simp [Canonical]) fun _ hk => hk

end InfoIpoib

namespace InfoVrf

variable {a : InfoVrf} {nb : NlaBuffer}

/-- The kinds the decoder names. -/
def kinds : List UInt16 :=
  [IFLA_VRF_TABLE]

/-- An unknown attribute is of none of the kinds the decoder names. -/
def Canonical : InfoVrf → Prop
  | .other n => n.Unknown kinds
  | _ => True

/-- The table of a VRF comes back. -/
theorem roundTrips (h : a.Canonical) : RoundTrips parse a.nla a := by
  cases a with
  | tableId _ => exact writes_u32.roundTrips_arm IFLA_VRF_TABLE rfl rfl (by simp)
  | other n => exact .of_default h

theorem holds_parse (hv : NlaValid nb.buffer) : (parse nb).Holds Canonical :=
  hv.holds_parse (by simp [Canonical]) fun _ hk => hk

end InfoVrf

namespace InfoXfrm

variable {a : InfoXfrm} {nb : NlaBuffer}

/-- The kinds the decoder names. -/
def kinds : List UInt16 :=
  [IFLA_XFRM_LINK, IFLA_XFRM_IF_ID]

/-- An unknown attribute is of none of the kinds the decoder names. -/
def Canonical : InfoXfrm → Prop
  | .other n => n.Unknown kinds
  | _ => True

/-- A canonical attribute of a transform interface comes back. -/
theorem roundTrips (h : a.Canonical) : RoundTrips parse a.nla a := by
  cases a with
  | link _ => exact writes_u32.roundTrips_arm IFLA_XFRM_LINK rfl rfl (by simp)
  | ifId _ => exact writes_u32.roundTrips_arm IFLA_XFRM_IF_ID rfl rfl (by simp)
  | other n => exact .of_default h

theorem holds_parse (hv : NlaValid nb.buffer) : (parse nb).Holds Canonical :=
  hv.holds_parse (by simp [Canonical]) fun _ hk => hk

end InfoXfrm

end

end NetlinkRoute
