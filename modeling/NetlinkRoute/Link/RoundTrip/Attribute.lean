import NetlinkRoute.Link.RoundTrip.Sriov
import NetlinkRoute.Link.RoundTrip.Info
import NetlinkRoute.Common.Reference
/-!
# Link — attributes come back

An attribute that is written is read again as it was, but for two: what a
link says of its own port is written one level too deep, and an empty list
of programs is not accepted (`LinkAttribute.parse_emitted_iff`).
-/

namespace NetlinkRoute

open PacketUtils Emitter

section

variable [PacketUtils] {payload : Bytes} {nb : NlaBuffer}

/-! ## Attributes -/

namespace LinkAttribute

variable {parseInfos : Bytes → Outcome (List LinkInfo)} {family : AddressFamily}
  {a : LinkAttribute}

/-- The kinds the decoder names. -/
def kinds : List UInt16 :=
  [IFLA_VFINFO_LIST, IFLA_VF_PORTS, IFLA_PORT_SELF, IFLA_PHYS_PORT_ID, IFLA_PHYS_SWITCH_ID,
    IFLA_WIRELESS, IFLA_PROTINFO, IFLA_EVENT, IFLA_NEW_NETNSID, IFLA_IF_NETNSID,
    IFLA_CARRIER_UP_COUNT, IFLA_CARRIER_DOWN_COUNT, IFLA_NEW_IFINDEX, IFLA_PROP_LIST,
    IFLA_PROTO_DOWN_REASON, IFLA_ADDRESS, IFLA_BROADCAST, IFLA_PERM_ADDRESS, IFLA_IFNAME,
    IFLA_QDISC, IFLA_IFALIAS, IFLA_PHYS_PORT_NAME, IFLA_LINKMODE, IFLA_CARRIER, IFLA_PROTO_DOWN,
    IFLA_MTU, IFLA_LINK, IFLA_MASTER, IFLA_TXQLEN, IFLA_NET_NS_PID, IFLA_NUM_VF, IFLA_GROUP,
    IFLA_NET_NS_FD, IFLA_EXT_MASK, IFLA_PROMISCUITY, IFLA_NUM_TX_QUEUES, IFLA_NUM_RX_QUEUES,
    IFLA_CARRIER_CHANGES, IFLA_GSO_MAX_SEGS, IFLA_GSO_MAX_SIZE, IFLA_MIN_MTU, IFLA_MAX_MTU,
    IFLA_LINK_NETNSID, IFLA_OPERSTATE, IFLA_MAP, IFLA_STATS, IFLA_STATS64, IFLA_AF_SPEC,
    IFLA_LINKINFO, IFLA_XDP]

/-- Enumerations are canonical, so is every attribute inside, the family of
the link is the one that the variant belongs to, and an unknown attribute
is of none of the kinds the decoder names. -/
def Canonical (family : AddressFamily) : LinkAttribute → Prop
  | .vfInfoList l => ∀ i ∈ l, i.Canonical
  | .physPortId v | .physSwitchId v => v.Canonical
  | .xdp l => ∀ i ∈ l, i.Canonical
  | .event v => LinkEvent.codec.Canonical v
  | .protoInfoBridge _ => family = .bridge
  | .protoInfoInet6 _ => family = .inet6
  | .protoInfoUnknown n =>
    family ≠ .inet6 ∧ family ≠ .bridge ∧ n.kind &&& NLA_TYPE_MASK = IFLA_PROTINFO
  | .propList l => ∀ i ∈ l, i.Canonical
  | .protoDownReason l => ∀ i ∈ l, i.Canonical
  | .extMask v => LinkExtentMask.Canonical v
  | .operState v => State.codec.Canonical v
  | .afSpecUnspec l => family = .unspec ∧ ∀ i ∈ l, i.Canonical
  | .afSpecBridge l => family = .bridge ∧ ∀ i ∈ l, i.Canonical
  | .afSpecUnknown _ => family ≠ .unspec ∧ family ≠ .bridge
  | .other n => n.Unknown kinds
  | _ => True

/-- An attribute comes back through the arm of its kind. -/
theorem roundTrips_arm {v : Bytes} {k' : UInt16} {arm : NlaBuffer → Outcome LinkAttribute}
    (h : a.nla.Payload v) (k : UInt16) (hk : a.kind = k)
    (hfind : ∀ nb, (arms parseInfos family nb v).find?
      (fun c => decide (k &&& NLA_TYPE_MASK = c.1)) = some (k', arm nb))
    (harm : ∀ nb, Carries nb a.kind v → arm nb = .ok a) :
    RoundTrips (parseOver parseInfos family) a.nla a := by
  subst hk
  refine ⟨v, h, fun nb hc => (hc.bind _).trans ?_⟩
  exact (select_of_find (hfind nb)).trans (harm nb hc)

/-- **An attribute comes back**, unless it is that of a link's own port or
an empty list of programs, when the list of `IFLA_LINKINFO` inside it
does. -/
theorem roundTrips (h : a.Canonical family) (hs : a.valueLen ≤ 65531)
    (hport : ∀ v, a ≠ .portSelf v) (hxdp : a ≠ .xdp [])
    (hinfo : ∀ l, a = .linkInfo l → ∃ out, Fills (emitNlas (l.map LinkInfo.nla))
      (nlasLen (l.map LinkInfo.nla)) out ∧ parseInfos out = .ok l) :
    RoundTrips (parseOver parseInfos family) a.nla a := by
  cases a with
  | vfInfoList l =>
    obtain ⟨out, hout, hp⟩ := LinkVfInfo.exists_parseVec h hs
    exact roundTrips_arm hout IFLA_VFINFO_LIST rfl (fun _ => rfl) fun _ _ => by simp [hp]
  | vfPorts l =>
    obtain ⟨out, hout, hp⟩ := LinkVfPort.exists_parseVec hs
    exact roundTrips_arm hout IFLA_VF_PORTS rfl (fun _ => rfl) fun _ _ => by simp [hp]
  | portSelf v => exact absurd rfl (hport v)
  | physPortId v =>
    exact roundTrips_arm (LinkPhysId.fills_emit h) IFLA_PHYS_PORT_ID rfl (fun _ => rfl)
      fun _ _ => by simp [LinkPhysId.parse_take h]
  | physSwitchId v =>
    exact roundTrips_arm (LinkPhysId.fills_emit h) IFLA_PHYS_SWITCH_ID rfl (fun _ => rfl)
      fun _ _ => by simp [LinkPhysId.parse_take h]
  | xdp l =>
    obtain ⟨out, hout, hp, hv⟩ := LinkXdp.exists_parseVec h hs
    refine roundTrips_arm hout IFLA_XDP rfl (fun _ => rfl) fun _ _ => ?_
    simp [newChecked_of_valid (hv fun hl => hxdp (by rw [hl])), hp]
  | event _ =>
    exact roundTrips_arm writes_u32.fills IFLA_EVENT rfl (fun _ => rfl)
      fun _ _ => by simp [LinkEvent.parse_u32 h]
  | newNetnsId _ =>
    exact roundTrips_arm writes_i32.fills IFLA_NEW_NETNSID rfl (fun _ => rfl) fun _ _ => by simp
  | ifNetnsId _ =>
    exact roundTrips_arm writes_i32.fills IFLA_IF_NETNSID rfl (fun _ => rfl) fun _ _ => by simp
  | carrierUpCount _ =>
    exact roundTrips_arm writes_u32.fills IFLA_CARRIER_UP_COUNT rfl (fun _ => rfl)
      fun _ _ => by simp
  | carrierDownCount _ =>
    exact roundTrips_arm writes_u32.fills IFLA_CARRIER_DOWN_COUNT rfl (fun _ => rfl)
      fun _ _ => by simp
  | newIfIndex _ =>
    exact roundTrips_arm writes_i32.fills IFLA_NEW_IFINDEX rfl (fun _ => rfl) fun _ _ => by simp
  | linkInfo l =>
    obtain ⟨out, hout, hp⟩ := hinfo l rfl
    have hpay : (nla (.linkInfo l)).Payload out := by
      show Fills (emitValue (.linkInfo l)) (valueLen (.linkInfo l)) out
      rwa [emitValue, valueLen, LinkInfo.nlas_eq, LinkInfo.bufferLenSum_eq]
    exact roundTrips_arm hpay IFLA_LINKINFO rfl (fun _ => rfl) fun _ _ => by simp [hp]
  | wireless _ =>
    exact roundTrips_arm writes_bytes.fills IFLA_WIRELESS rfl (fun _ => rfl) fun _ _ => rfl
  | protoInfoBridge l =>
    obtain ⟨out, hout, hread⟩ := exists_readsAs (r := id) (p := LinkProtoInfoBridge.parse)
      (t := UnnamedNla.nla) (fun i _ _ => UnnamedNla.roundTrips) hs
    rw [List.map_id] at hread
    refine roundTrips_arm hout IFLA_PROTINFO rfl (fun _ => rfl) fun _ _ => ?_
    rw [h, parseProtoInfo, LinkProtoInfoBridge.parseVec, hread.parseEachEager_eq]
    rfl
  | protoInfoInet6 l =>
    obtain ⟨out, hout, hread⟩ := exists_readsAs (r := id) (p := LinkProtoInfoInet6.parse)
      (t := UnnamedNla.nla) (fun i _ _ => UnnamedNla.roundTrips) hs
    rw [List.map_id] at hread
    refine roundTrips_arm hout IFLA_PROTINFO rfl (fun _ => rfl) fun _ _ => ?_
    rw [h, parseProtoInfo, LinkProtoInfoInet6.parseVec, hread.parseEachEager_eq]
    rfl
  | protoInfoUnknown n =>
    obtain ⟨hinet6, hbridge, hk⟩ := h
    refine writes_bytes.roundTrips fun nb hc => (hc.bind _).trans ?_
    rw [show (nla (.protoInfoUnknown n)).kind &&& NLA_TYPE_MASK = IFLA_PROTINFO from hk]
    refine (select_of_find (k := IFLA_PROTINFO) rfl).trans ?_
    cases family <;> first | contradiction | simp [parseProtoInfo, hc.defaultNla, nla, kind]
  | propList l =>
    obtain ⟨out, hout, hread⟩ := exists_readsAs (r := id) (t := LinkProp.nla)
      (fun i hi _ => LinkProp.roundTrips (h i hi)) hs
    exact roundTrips_arm hout (IFLA_PROP_LIST ||| NLA_F_NESTED) rfl (fun _ => rfl)
      fun _ _ => by simp [hread.parseNlas_eq]
  | protoDownReason l =>
    obtain ⟨out, hout, hread⟩ := exists_readsAs (r := id) (t := LinkProtocolDownReason.nla)
      (fun i hi _ => LinkProtocolDownReason.roundTrips (h i hi)) hs
    exact roundTrips_arm hout IFLA_PROTO_DOWN_REASON rfl (fun _ => rfl)
      fun _ _ => by simp [hread.parseEachWith_eq]
  | address _ =>
    exact roundTrips_arm writes_bytes.fills IFLA_ADDRESS rfl (fun _ => rfl) fun _ _ => rfl
  | broadcast _ =>
    exact roundTrips_arm writes_bytes.fills IFLA_BROADCAST rfl (fun _ => rfl) fun _ _ => rfl
  | permAddress _ =>
    exact roundTrips_arm writes_bytes.fills IFLA_PERM_ADDRESS rfl (fun _ => rfl) fun _ _ => rfl
  | ifName _ =>
    exact roundTrips_arm writes_emitStringNul.fills IFLA_IFNAME rfl (fun _ => rfl)
      fun _ _ => by simp
  | qdisc _ =>
    exact roundTrips_arm writes_emitStringNul.fills IFLA_QDISC rfl (fun _ => rfl)
      fun _ _ => by simp
  | ifAlias _ =>
    exact roundTrips_arm writes_emitStringNul.fills IFLA_IFALIAS rfl (fun _ => rfl)
      fun _ _ => by simp
  | physPortName _ =>
    exact roundTrips_arm writes_emitStringNul.fills IFLA_PHYS_PORT_NAME rfl (fun _ => rfl)
      fun _ _ => by simp
  | mode _ =>
    exact roundTrips_arm writes_u8.fills IFLA_LINKMODE rfl (fun _ => rfl) fun _ _ => by simp
  | carrier _ =>
    exact roundTrips_arm writes_u8.fills IFLA_CARRIER rfl (fun _ => rfl) fun _ _ => by simp
  | protoDown _ =>
    exact roundTrips_arm writes_u8.fills IFLA_PROTO_DOWN rfl (fun _ => rfl) fun _ _ => by simp
  | mtu _ => exact roundTrips_arm writes_u32.fills IFLA_MTU rfl (fun _ => rfl) fun _ _ => by simp
  | link _ =>
    exact roundTrips_arm writes_u32.fills IFLA_LINK rfl (fun _ => rfl) fun _ _ => by simp
  | controller _ =>
    exact roundTrips_arm writes_u32.fills IFLA_MASTER rfl (fun _ => rfl) fun _ _ => by simp
  | txQueueLen _ =>
    exact roundTrips_arm writes_u32.fills IFLA_TXQLEN rfl (fun _ => rfl) fun _ _ => by simp
  | netNsPid _ =>
    exact roundTrips_arm writes_u32.fills IFLA_NET_NS_PID rfl (fun _ => rfl) fun _ _ => by simp
  | numVf _ =>
    exact roundTrips_arm writes_u32.fills IFLA_NUM_VF rfl (fun _ => rfl) fun _ _ => by simp
  | group _ =>
    exact roundTrips_arm writes_u32.fills IFLA_GROUP rfl (fun _ => rfl) fun _ _ => by simp
  | netNsFd _ =>
    exact roundTrips_arm writes_i32.fills IFLA_NET_NS_FD rfl (fun _ => rfl) fun _ _ => by simp
  | extMask v =>
    obtain ⟨d, hof, hto⟩ := h
    have hpay : (nla (.extMask v)).Payload (ne.u32 d) := LinkExtentMask.payload_iff.2 hto
    exact roundTrips_arm hpay IFLA_EXT_MASK rfl (fun _ => rfl) fun _ _ => by simp [hof]
  | promiscuity _ =>
    exact roundTrips_arm writes_u32.fills IFLA_PROMISCUITY rfl (fun _ => rfl) fun _ _ => by simp
  | numTxQueues _ =>
    exact roundTrips_arm writes_u32.fills IFLA_NUM_TX_QUEUES rfl (fun _ => rfl) fun _ _ => by simp
  | numRxQueues _ =>
    exact roundTrips_arm writes_u32.fills IFLA_NUM_RX_QUEUES rfl (fun _ => rfl) fun _ _ => by simp
  | carrierChanges _ =>
    exact roundTrips_arm writes_u32.fills IFLA_CARRIER_CHANGES rfl (fun _ => rfl)
      fun _ _ => by simp
  | gsoMaxSegs _ =>
    exact roundTrips_arm writes_u32.fills IFLA_GSO_MAX_SEGS rfl (fun _ => rfl) fun _ _ => by simp
  | gsoMaxSize _ =>
    exact roundTrips_arm writes_u32.fills IFLA_GSO_MAX_SIZE rfl (fun _ => rfl) fun _ _ => by simp
  | minMtu _ =>
    exact roundTrips_arm writes_u32.fills IFLA_MIN_MTU rfl (fun _ => rfl) fun _ _ => by simp
  | maxMtu _ =>
    exact roundTrips_arm writes_u32.fills IFLA_MAX_MTU rfl (fun _ => rfl) fun _ _ => by simp
  | linkNetNsId _ =>
    exact roundTrips_arm writes_i32.fills IFLA_LINK_NETNSID rfl (fun _ => rfl) fun _ _ => by simp
  | operState _ =>
    exact roundTrips_arm writes_u8.fills IFLA_OPERSTATE rfl (fun _ => rfl)
      fun _ _ => by simp [EnumCodec.Canonical.ofNum_toNum h]
  | stats _ =>
    exact roundTrips_arm Stats.codec.writes_emit.fills IFLA_STATS rfl (fun _ => rfl)
      fun _ _ => by simp
  | stats64 _ =>
    exact roundTrips_arm Stats64.codec.writes_emit.fills IFLA_STATS64 rfl (fun _ => rfl)
      fun _ _ => by simp
  | map v =>
    exact roundTrips_arm Map.codec.fills_emit IFLA_MAP rfl (fun _ => rfl)
      fun _ _ => by simp [Map.codec.parse_bytes (h := v) trivial]
  | afSpecUnspec l =>
    obtain ⟨rfl, h⟩ := h
    obtain ⟨out, hout, hread⟩ := exists_readsAs (r := id) (t := AfSpecUnspec.nla)
      (fun i hi hi' => AfSpecUnspec.roundTrips (h i hi) hi') hs
    exact roundTrips_arm hout IFLA_AF_SPEC rfl (fun _ => rfl)
      fun _ _ => by simp [parseAfSpec, AfSpecUnspec.parseVec, hread.parseEachWith_eq]
  | afSpecBridge l =>
    obtain ⟨rfl, h⟩ := h
    obtain ⟨out, hout, hread⟩ := exists_readsAs (r := id) (t := AfSpecBridge.nla)
      (fun i hi _ => AfSpecBridge.roundTrips (h i hi)) hs
    exact roundTrips_arm hout IFLA_AF_SPEC rfl (fun _ => rfl)
      fun _ _ => by simp [parseAfSpec, AfSpecBridge.parseVec, hread.parseNlas_eq]
  | afSpecUnknown v =>
    refine roundTrips_arm writes_bytes.fills IFLA_AF_SPEC rfl (fun _ => rfl) fun _ _ => ?_
    obtain ⟨hunspec, hbridge⟩ := h
    cases family <;> first | rfl | contradiction
  | other n =>
    refine writes_bytes.roundTrips fun nb hc => (hc.bind _).trans ?_
    rw [select_default (by exact h), hc.defaultNla]
    rfl

/-- What is known of an attribute that was read: it is canonical, not an
empty list of programs, and the two kinds that need care are what they
were on the wire. -/
@[mk_iff]
structure ReadFrom (parseInfos : Bytes → Outcome (List LinkInfo)) (family : AddressFamily)
    (nb : NlaBuffer) (a : LinkAttribute) : Prop where
  canonical : a.Canonical family
  xdp_ne : a ≠ .xdp []
  portSelf : ∀ v, a = .portSelf v → wireKind nb = IFLA_PORT_SELF
  linkInfo : ∀ l, a = .linkInfo l →
    wireKind nb = IFLA_LINKINFO ∧ parseInfos (nlaValue nb.buffer) = .ok l

/-- Protocol info is read as the family has it. -/
theorem holds_parseProtoInfo (hv : NlaValid nb.buffer) (hk : wireKind nb = IFLA_PROTINFO) :
    (parseProtoInfo family nb (nlaValue nb.buffer)).Holds (ReadFrom parseInfos family nb) := by
  unfold parseProtoInfo
  split
  · simp [readFrom_iff, Canonical]
  · simp [readFrom_iff, Canonical]
  · next h6 hb =>
    rw [hv.carries.defaultNla]
    simpa [readFrom_iff, Canonical, hk] using ⟨h6, hb⟩

/-- The specification of a family is read as the family has it. -/
theorem holds_parseAfSpec :
    (parseAfSpec family (nlaValue nb.buffer)).Holds (ReadFrom parseInfos family nb) := by
  unfold parseAfSpec
  split
  · have hspec : (AfSpecUnspec.parseVec (nlaValue nb.buffer)).Holds fun l => ∀ i ∈ l, i.Canonical :=
      holds_parseEachWith fun _ hnb => AfSpecUnspec.holds_parse (valid_of_mem_nlas hnb)
    simp [readFrom_iff, Canonical, hspec]
  · have hspec : (AfSpecBridge.parseVec (nlaValue nb.buffer)).Holds fun l => ∀ i ∈ l, i.Canonical :=
      holds_parseNlas fun _ hnb => AfSpecBridge.holds_parse (valid_of_mem_nlas hnb)
    simp [readFrom_iff, Canonical, hspec]
  · next hunspec hbridge =>
    simpa [readFrom_iff, Canonical] using ⟨hunspec, hbridge⟩

/-- A list of programs that was read starts with an attribute. -/
theorem holds_parseXdp : Outcome.Holds (fun l => (∀ i ∈ l, i.Canonical) ∧ l ≠ []) (do
    let buf ← (newChecked payload).context "invalid IFLA_XDP value"
    (LinkXdp.parseVec buf).context "invalid IFLA_XDP value") := by
  by_cases hv : NlaValid payload
  · rw [newChecked_of_valid hv]
    refine (Outcome.holds_context _).2 fun l hl => ⟨?_, ?_⟩
    · exact holds_parseEach (fun _ hnb => LinkXdp.holds_parse (valid_of_mem_nlas hnb)) l hl
    · rintro rfl
      simp [LinkXdp.parseVec, parseEach, nlas_of_valid hv, Outcome.bind_eq_ok] at hl
  · obtain ⟨e, he⟩ := newChecked_of_not_valid hv
    simp [he]

/-- Every attribute the parser gives was read from its own payload. -/
theorem holds_parse (hv : NlaValid nb.buffer) :
    (parseOver parseInfos family nb).Holds (ReadFrom parseInfos family nb) := by
  rw [parseOver, hv.carries.bind]
  refine select_ind (P := Outcome.Holds (ReadFrom parseInfos family nb)) ?_ fun hk => ?_
  · have hprops : ∀ err err', (parseNlas err err' LinkProp.parse (nlaValue nb.buffer)).Holds
        fun l => ∀ i ∈ l, i.Canonical := fun _ _ =>
      holds_parseNlas fun _ hnb => LinkProp.holds_parse (valid_of_mem_nlas hnb)
    have hreasons : ∀ err, (parseEachWith err LinkProtocolDownReason.parse
        (nlaValue nb.buffer)).Holds fun l => ∀ i ∈ l, i.Canonical := fun _ =>
      holds_parseEachWith fun _ hnb => LinkProtocolDownReason.holds_parse (valid_of_mem_nlas hnb)
    have hinfos : (parseInfos (nlaValue nb.buffer)).Holds
        fun l => parseInfos (nlaValue nb.buffer) = .ok l := fun _ h => h
    simp only [arms, List.forall_mem_cons]
    simp +contextual [readFrom_iff, Canonical, hprops, hreasons, hinfos,
      LinkVfInfo.holds_parseVec, LinkPhysId.holds_parse, LinkEvent.holds_parse]
    refine ⟨holds_parseProtoInfo hv, fun _ => ?_, fun _ => holds_parseAfSpec, fun _ => ?_⟩
    · refine Outcome.holds_bind.2 fun d _ => Outcome.holds_map.2 ?_
      exact LinkExtentMask.holds_ofMask.mono fun v hv => ⟨hv, by simp, by simp, by simp⟩
    · refine Outcome.holds_bind.2 fun buf hbuf => Outcome.holds_map.2 ?_
      refine (Outcome.holds_bind.1 holds_parseXdp buf hbuf).mono fun l hl => ?_
      exact ⟨hl.1, by simpa using hl.2, by simp, by simp⟩
  · rw [hv.carries.defaultNla]
    exact (Outcome.holds_ok _).2 ⟨hk, by simp, by simp, by simp⟩

/-! ## Lists -/

/-- The variants that hold a list of attributes. -/
def ListValued : LinkAttribute → Prop
  | .xdp _ | .propList _ | .vfInfoList _ | .vfPorts _ | .portSelf _ | .protoInfoBridge _
  | .protoInfoInet6 _ | .protoDownReason _ | .afSpecUnspec _ | .afSpecBridge _ => True
  | _ => False

/-- **What a link says of its own port comes back one level deeper**: as
one attribute, that holds the list. -/
theorem roundTrips_portSelf {v : LinkVfPort} {out : Bytes} (hs : v.nla.bufferLen ≤ 65531)
    (hv : v.nla.Payload out) : RoundTrips (parseOver parseInfos family) (nla (.portSelf v))
      (.portSelf ⟨[⟨⟨IFLA_VF_PORT, out⟩⟩]⟩) := by
  have hsv : v.nla.valueLen ≤ 65531 := by
    have hal := le_nlaAlign v.nla.valueLen
    unfold Nla.bufferLen at hs
    omega
  have hle : out.length ≤ 65531 := by rwa [hv.length_eq]
  have hread : ReadsAs VfPort.parse (encodeNla v.nla.kind out) [⟨⟨IFLA_VF_PORT, out⟩⟩] := by
    have hc : Carries ⟨encodeNla v.nla.kind out ++ []⟩ v.nla.kind out := carries_encodeNla hle
    refine ⟨[⟨encodeNla v.nla.kind out ++ []⟩], ?_, .cons (UnnamedNla.parse_of_carries hc) .nil⟩
    have hone : PacketUtils.nlas (encodeNla v.nla.kind out ++ []) =
        .ok ⟨encodeNla v.nla.kind out ++ []⟩ :: PacketUtils.nlas [] := nlas_encodeNla hle
    simpa [nlas_nil] using hone
  have hparse : LinkVfPort.parse ⟨encodeNla v.nla.kind out⟩ =
      .ok ⟨[⟨⟨IFLA_VF_PORT, out⟩⟩]⟩ := by
    rw [LinkVfPort.parse, hread.parseEachEager_eq]
    rfl
  refine ⟨encodeNla v.nla.kind out, hv.fills_emitNla hsv, fun nb hc => (hc.bind _).trans ?_⟩
  have hk : (nla (.portSelf v)).kind &&& NLA_TYPE_MASK = IFLA_PORT_SELF :=
    show IFLA_PORT_SELF &&& NLA_TYPE_MASK = IFLA_PORT_SELF by decide
  rw [hk]
  exact (select_of_find rfl).trans (by simp [hparse])

/-- So it is not what was written. -/
theorem parse_emitted_portSelf {v : LinkVfPort} {out : Bytes}
    (hs : (portSelf v).valueLen ≤ 65531)
    (hout : (emitNla (nla (.portSelf v))).run (zeros (nla (.portSelf v)).bufferLen) = .ok out) :
    parseWithParam family ⟨out⟩ ≠ .ok (.portSelf v) := by
  intro hp
  have hle : v.nla.valueLen ≤ 65531 := by
    have hal := le_nlaAlign v.nla.valueLen
    have hs : nlaAlign v.nla.valueLen + 4 ≤ 65531 := hs
    omega
  obtain ⟨c, hc, -⟩ := LinkVfPort.exists_parse (a := v) hle
  have hrt : RoundTrips (parseOver VecLinkInfo.parse family) (nla (.portSelf v))
      (.portSelf ⟨[⟨⟨IFLA_VF_PORT, c⟩⟩]⟩) := roundTrips_portSelf hs hc
  obtain ⟨out', hout', -, hp'⟩ := hrt.exists_emitNla hs
  rw [hout'] at hout
  cases hout
  have heq := hp'.symm.trans hp
  simp only [Outcome.ok.injEq, portSelf.injEq] at heq
  -- the list cannot be its own only element
  have hlen := hc.length_eq
  rw [← heq] at hlen
  have hal := le_nlaAlign c.length
  have hsum : c.length = nlaAlign c.length + 4 + 0 := hlen
  omega

/-- No programs are an empty payload, which is not an attribute. -/
theorem parse_emitted_xdp_nil {out : Bytes}
    (hout : (emitNla (nla (.xdp []))).run (zeros (nla (.xdp [])).bufferLen) = .ok out) :
    parseWithParam family ⟨out⟩ ≠ .ok (.xdp []) := by
  intro hp
  have hpay : (nla (.xdp [])).Payload [] := emitNlas_nil
  have hc : Carries ⟨encodeNla IFLA_XDP [] ++ []⟩ IFLA_XDP [] := carries_encodeNla (by simp)
  rw [hpay.fills_emitNla (Nat.zero_le _)] at hout
  cases hout
  rw [List.append_nil] at hc
  obtain ⟨e, he⟩ := newChecked_of_not_valid (b := []) fun hv => hv.ne_nil rfl
  have hk : IFLA_XDP &&& NLA_TYPE_MASK = IFLA_XDP := by decide
  have hsel := (hc.bind _).symm.trans hp
  rw [hk] at hsel
  have harm := (select_of_find (k := IFLA_XDP) rfl).symm.trans hsel
  simp [he] at harm

/-- **Lists come back**, but for that of a link's own port and an empty
list of programs. -/
theorem parse_emitted_iff (hl : a.ListValued) (h : a.Canonical family) (hs : a.valueLen ≤ 65531) :
    (∃ out, (emitNla a.nla).run (zeros a.nla.bufferLen) = .ok out ∧
      parseWithParam family ⟨out⟩ = .ok a) ↔ (∀ v, a ≠ .portSelf v) ∧ a ≠ .xdp [] := by
  constructor
  · rintro ⟨out, hout, hp⟩
    refine ⟨?_, ?_⟩
    · rintro v rfl
      exact parse_emitted_portSelf hs hout hp
    · rintro rfl
      exact parse_emitted_xdp_nil hout hp
  · rintro ⟨hport, hxdp⟩
    have hrt : RoundTrips (parseOver VecLinkInfo.parse family) a.nla a :=
      roundTrips h hs hport hxdp fun l hl' => by
        rw [hl'] at hl
        exact hl.elim
    obtain ⟨out, hout, -, hp⟩ := hrt.exists_emitNla hs
    exact ⟨out, hout, hp⟩

end LinkAttribute

end

section Lists

attribute [local instance] Reference.little

/-- The reasons a link is held down come back. -/
theorem LinkAttribute.parse_emitted_reasons :
    ∃ out, (emitNla (nla (.protoDownReason [.mask 3, .value 1]))).run
      (zeros (nla (.protoDownReason [.mask 3, .value 1])).bufferLen) = .ok out ∧
        parseWithParam .unspec ⟨out⟩ = .ok (.protoDownReason [.mask 3, .value 1]) :=
  (parse_emitted_iff (a := .protoDownReason [.mask 3, .value 1]) trivial
    (by simp [Canonical, LinkProtocolDownReason.Canonical]) (by decide)).2 ⟨by simp, by simp⟩

/-- A link's own port that nothing is known of comes back with something
known, and no programs are an error. -/
theorem LinkAttribute.parse_emitted_fails :
    (ListValued (.portSelf ⟨[]⟩) ∧ Canonical .unspec (.portSelf ⟨[]⟩) ∧
      valueLen (.portSelf ⟨[]⟩) ≤ 65531 ∧
      ¬ ∃ out, (emitNla (nla (.portSelf ⟨[]⟩))).run (zeros (nla (.portSelf ⟨[]⟩)).bufferLen) =
        .ok out ∧ parseWithParam .unspec ⟨out⟩ = .ok (.portSelf ⟨[]⟩)) ∧
    (ListValued (.xdp []) ∧ Canonical .unspec (.xdp []) ∧ valueLen (.xdp []) ≤ 65531 ∧
      ¬ ∃ out, (emitNla (nla (.xdp []))).run (zeros (nla (.xdp [])).bufferLen) = .ok out ∧
        parseWithParam .unspec ⟨out⟩ = .ok (.xdp [])) := by
  refine ⟨⟨trivial, trivial, by decide, ?_⟩, ⟨trivial, by simp [Canonical], by decide, ?_⟩⟩
  · rintro ⟨out, hout, hp⟩
    have hrun : (emitNla (nla (.portSelf ⟨[]⟩))).run (zeros (nla (.portSelf ⟨[]⟩)).bufferLen) =
        .ok [8, 0, 25, 0, 4, 0, 1, 0] := rfl
    have hparse : parseWithParam .unspec ⟨[8, 0, 25, 0, 4, 0, 1, 0]⟩ =
        .ok (.portSelf ⟨[⟨⟨1, []⟩⟩]⟩) := rfl
    rw [hrun] at hout
    cases hout
    rw [hparse] at hp
    simp at hp
  · rintro ⟨out, hout, hp⟩
    have hrun : (emitNla (nla (.xdp []))).run (zeros (nla (.xdp [])).bufferLen) =
        .ok [4, 0, 43, 0] := rfl
    rw [hrun] at hout
    cases hout
    cases hp

end Lists

end NetlinkRoute
