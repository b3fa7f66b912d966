import NetlinkRoute.Common.Reference
import NetlinkRoute.Link.Leaves
import NetlinkRoute.Link.Recursion
/-!
# Link — when the decoder panics

Three places of the attribute parser read what the length of the payload
does not cover: `IFLA_MAP`, the cache information of IPv6, and the error
text of `IFLA_PROTINFO`, which takes the payload for an attribute.
`LinkAttribute.Defect` is the wire form of these, and outside the four
attributes that hold lists of their own the parser panics on nothing else
(`LinkMessage.decode_returns_iff`).

In `IFLA_LINKINFO` it is the identifiers of bridges and of their ports
that are read unchecked. `LinkInfo.Defect` is the wire form of these, in
the list itself or in the peer of a virtual pair, at any nesting, where
the decoder gets to them (`VecLinkInfo.parse_returns_iff`).
-/

namespace NetlinkRoute

open PacketUtils Emitter

section

variable [PacketUtils]

/-! ## Attributes -/

namespace LinkAttribute

variable {family : AddressFamily} {nb : NlaBuffer}

/-- The attributes that hold lists of their own. -/
def Aside (nb : NlaBuffer) : Prop :=
  wireKind nb ∈ [IFLA_LINKINFO, IFLA_VFINFO_LIST, IFLA_VF_PORTS, IFLA_PORT_SELF]

/-- **What is wrong with an attribute that the decoder panics on.** -/
inductive Defect (family : AddressFamily) : NlaBuffer → Prop
  /-- A memory map that ends before its last field. -/
  | map {nb : NlaBuffer} (hk : wireKind nb = IFLA_MAP) (h : (nlaValue nb.buffer).length < 28) :
      Defect family nb
  /-- Protocol information that does not start with an attribute. -/
  | protoInfo {nb : NlaBuffer} (hk : wireKind nb = IFLA_PROTINFO)
      (hf : family = .inet6 ∨ family = .bridge) (hne : nlaValue nb.buffer ≠ [])
      (h : ¬ NlaValid (nlaValue nb.buffer)) : Defect family nb
  /-- Cache information that is cut short, in the list of IPv6. -/
  | cacheInfo {nb spec conf : NlaBuffer} (hk : wireKind nb = IFLA_AF_SPEC)
      (hf : family = .unspec) (hs : NlaReached AfSpecUnspec.parse (nlaValue nb.buffer) spec)
      (hs6 : wireKind spec = (AddressFamily.codec.toNum .inet6).toUInt16)
      (hc : NlaReached AfSpecInet6.parse (nlaValue spec.buffer) conf)
      (hck : wireKind conf = IFLA_INET6_CACHEINFO) (h : (nlaValue conf.buffer).length < 16) :
      Defect family nb

/-- A defect lies outside the attributes that hold lists of their own. -/
theorem Defect.not_aside (h : Defect family nb) : ¬ Aside nb := by
  unfold Aside
  cases h with
  | map hk => rw [hk]; decide
  | protoInfo hk => rw [hk]; decide
  | cacheInfo hk => rw [hk]; decide

/-- Protocol info panics under the two families that nest it, on a malformed
first attribute. -/
theorem parseProtoInfo_eq_panic_iff (hv : NlaValid nb.buffer) :
    parseProtoInfo family nb (nlaValue nb.buffer) = .panic ↔
      (family = .inet6 ∨ family = .bridge) ∧ nlaValue nb.buffer ≠ [] ∧
        ¬ NlaValid (nlaValue nb.buffer) := by
  cases family with
  | inet6 => simp [parseProtoInfo, LinkProtoInfoInet6.parseVec_eq_panic_iff]
  | bridge => simp [parseProtoInfo, LinkProtoInfoBridge.parseVec_eq_panic_iff]
  | _ => simp [parseProtoInfo, hv.carries.defaultNla]

/-- A specification panics only without a family. -/
theorem parseAfSpec_eq_panic_iff {payload : Bytes} : parseAfSpec family payload = .panic ↔
    family = .unspec ∧ AfSpecUnspec.parseVec payload = .panic := by
  cases family with
  | unspec => simp [parseAfSpec]
  | bridge => simp [parseAfSpec]
  | _ => simp [parseAfSpec]

/-- The arms that can panic. -/
theorem parseWithParam_eq_panic_iff_arms (hv : NlaValid nb.buffer) (ha : ¬ Aside nb) :
    parseWithParam family nb = .panic ↔
      (wireKind nb = IFLA_PROTINFO ∧ (family = .inet6 ∨ family = .bridge) ∧
        nlaValue nb.buffer ≠ [] ∧ ¬ NlaValid (nlaValue nb.buffer)) ∨
      (wireKind nb = IFLA_MAP ∧ (nlaValue nb.buffer).length < 28) ∨
      (wireKind nb = IFLA_AF_SPEC ∧ family = .unspec ∧
        AfSpecUnspec.parseVec (nlaValue nb.buffer) = .panic) := by
  have hprops : ∀ err err', parseNlas err err' LinkProp.parse (nlaValue nb.buffer) ≠ .panic :=
    fun _ _ => parseNlas_ne_panic fun _ h => LinkProp.parse_ne_panic (valid_of_mem_nlas h)
  have hreasons : ∀ err, parseEachWith err LinkProtocolDownReason.parse (nlaValue nb.buffer) ≠
      .panic :=
    fun _ => parseEachWith_ne_panic fun _ => LinkProtocolDownReason.parse_ne_panic
  simp only [Aside, List.mem_cons, List.not_mem_nil, or_false, not_or] at ha
  -- the four kinds that are left aside drop out of the list of arms
  obtain ⟨hinfo, hvf, hports, hself⟩ := ha
  have hkeys : ∀ f p, ((arms f family nb p).map Prod.fst).Nodup := by
    intro f p
    simp only [arms, List.map]
    decide
  rw [parseWithParam, parseOver, hv.carries.bind,
    select_eq_panic_iff (hkeys _ _) (by simp [hv.carries.defaultNla])]
  simp only [arms, List.exists_mem_cons_iff]
  simp [hinfo, hvf, hports, hself, hprops, hreasons, parseProtoInfo_eq_panic_iff hv,
    parseAfSpec_eq_panic_iff, Map.parse_eq_panic_iff, Outcome.bind_eq_panic,
    LinkXdp.parseVec_ne_panic]

/-- **The parser panics on the defective attributes and on no other**, but
for those that are left aside. -/
theorem parseWithParam_eq_panic_iff (hv : NlaValid nb.buffer) (ha : ¬ Aside nb) :
    parseWithParam family nb = .panic ↔ Defect family nb := by
  rw [parseWithParam_eq_panic_iff_arms hv ha]
  constructor
  · rintro (⟨hk, hf, hne, h⟩ | ⟨hk, h⟩ | ⟨hk, hf, h⟩)
    · exact .protoInfo hk hf hne h
    · exact .map hk h
    · obtain ⟨spec, hs, hs6, h⟩ := AfSpecUnspec.parseVec_eq_panic_iff.1 h
      obtain ⟨conf, hc, hck, h⟩ := AfSpecInet6.parseVec_eq_panic_iff.1 h
      exact .cacheInfo hk hf hs hs6 hc hck h
  · intro h
    cases h with
    | protoInfo hk hf hne h => exact .inl ⟨hk, hf, hne, h⟩
    | map hk h => exact .inr (.inl ⟨hk, h⟩)
    | cacheInfo hk hf hs hs6 hc hck h =>
      have hvec := AfSpecInet6.parseVec_eq_panic_iff.2 ⟨_, hc, hck, h⟩
      exact .inr (.inr ⟨hk, hf, AfSpecUnspec.parseVec_eq_panic_iff.2 ⟨_, hs, hs6, hvec⟩⟩)

/-- `IFLA_LINKINFO` is the list that it holds. -/
theorem parseWithParam_linkInfo_eq_panic_iff (hv : NlaValid nb.buffer)
    (hk : wireKind nb = IFLA_LINKINFO) : parseWithParam family nb = .panic ↔
      VecLinkInfo.parse (nlaValue nb.buffer) = .panic := by
  have hk : nlaWord nb.buffer &&& NLA_TYPE_MASK = IFLA_LINKINFO := hk
  rw [parseWithParam, parseOver, hv.carries.bind, hk, select_of_find rfl]
  simp

end LinkAttribute

/-! ## Messages -/

namespace LinkMessage

variable {b : Bytes} {nb : NlaBuffer}

/-- The family that a message's bytes select. -/
def wireFamily (b : Bytes) : AddressFamily := AddressFamily.codec.ofNum (b.getD 0 0)

/-- The attribute that the decoder gets to. -/
def AttributeReached (b : Bytes) (nb : NlaBuffer) : Prop :=
  NlaReached (LinkAttribute.parseWithParam (wireFamily b)) (b.drop 16) nb

/-- An attribute the decoder reaches is valid. -/
theorem AttributeReached.valid (h : AttributeReached b nb) : NlaValid nb.buffer :=
  valid_of_mem_nlas h.mem

/-- It is no longer than the message. -/
theorem AttributeReached.length_le (h : AttributeReached b nb) :
    nb.buffer.length ≤ b.length := by
  have hle := length_le_of_mem_nlas h.mem
  rw [List.length_drop] at hle
  omega

/-- **Decoding panics when it gets to an attribute that does.** -/
theorem decode_eq_panic_iff : decode b = .panic ↔ ∃ nb, AttributeReached b nb ∧
    LinkAttribute.parseWithParam (wireFamily b) nb = .panic := by
  rw [decode_eq]
  rcases Nat.lt_or_ge b.length 16 with hlt | hge
  · obtain ⟨e, he⟩ := format.decode_of_lt (b := b) hlt
    -- a short message is an error, and has no attribute to get to
    refine iff_of_false (by simp [he]) ?_
    rintro ⟨nb, hr, -⟩
    have hle : 16 ≤ b.length := le_length_of_mem_nlas_drop hr.mem
    omega
  · obtain ⟨header, hh, -, heq⟩ := format.decode_of_le (b := b) hge
    have hfamily : header.interfaceFamily = wireFamily b := by
      simp (disch := omega) only [format, formatOver, LinkHeader.codec, getU8_of_lt, getU16_of_le,
        getU32_of_le, Outcome.ok_bind, Outcome.pure_eq, Outcome.ok.injEq] at hh
      rw [← hh, wireFamily, List.getD_eq_getElem b 0 (by omega)]
    have hloop : format.parseAttributes header (b.drop 16) =
        parseEach (LinkAttribute.parseWithParam (wireFamily b)) (b.drop 16) := by
      rw [← hfamily]
      rfl
    rw [heq, Outcome.bind_eq_panic, Outcome.contextIf_eq_panic]
    show format.parseAttributes header (b.drop 16) = .panic ∨ _ ↔ _
    rw [hloop, parseEach_eq_panic_iff]
    simp [AttributeReached]

/-- **Decoding returns, with a message or an error, exactly when it gets
to no defective attribute**, if the attributes left aside return. -/
theorem decode_returns_iff (b : Bytes)
    (haside : ∀ nb, AttributeReached b nb → LinkAttribute.Aside nb →
      LinkAttribute.parseWithParam (wireFamily b) nb ≠ .panic) :
    decode b ≠ .panic ↔
      ∀ nb, AttributeReached b nb → ¬ LinkAttribute.Defect (wireFamily b) nb := by
  rw [Ne, decode_eq_panic_iff]
  constructor
  · intro h nb hr hd
    exact h ⟨nb, hr, (LinkAttribute.parseWithParam_eq_panic_iff hr.valid hd.not_aside).2 hd⟩
  · rintro h ⟨nb, hr, hp⟩
    by_cases ha : LinkAttribute.Aside nb
    · exact haside nb hr ha hp
    · exact h nb hr ((LinkAttribute.parseWithParam_eq_panic_iff hr.valid ha).1 hp)

end LinkMessage

/-! ## The list of `IFLA_LINKINFO` -/

section Lists

variable {α β : Type} {parse : NlaBuffer → Outcome α} {wrap : List α → β} {err : String}
  {payload : Bytes}

/-- A list of attributes whose parser does not panic, under a constructor. -/
theorem map_parseEachWith_ne_panic
    (h : ∀ {nb : NlaBuffer}, NlaValid nb.buffer → parse nb ≠ .panic) :
    wrap <$> parseEachWith err parse payload ≠ .panic := by
  rw [Ne, Outcome.map_eq_panic]
  exact parseEachWith_ne_panic fun _ => h

end Lists

/-- The data of a pair panics exactly where its peer does. -/
theorem InfoVeth.parse_eq_panic_iff {nb : NlaBuffer} (hv : NlaValid nb.buffer) :
    InfoVeth.parse LinkMessage.decode nb = .panic ↔ wireKind nb = VETH_INFO_PEER ∧
      LinkMessage.decode (nlaValue nb.buffer) = .panic := by
  refine (hv.parse_eq_panic_iff (by simp)).trans ?_
  simp

/-- **Two kinds of links have data that can panic**: bridges, and the
virtual pairs that hold a message. -/
theorem InfoData.parseWithParam_eq_panic_iff {payload : Bytes} {kind : InfoKind} :
    InfoData.parseWithParam LinkMessage.decode payload kind = .panic ↔
      (kind = .bridge ∧ ∃ nb, NlaReached InfoBridge.parse payload nb ∧
        (wireKind nb = IFLA_BR_ROOT_ID ∨ wireKind nb = IFLA_BR_BRIDGE_ID) ∧
          (nlaValue nb.buffer).length < 8) ∨
      (kind = .veth ∧ NlaValid payload ∧ wireKind ⟨payload⟩ = VETH_INFO_PEER ∧
        LinkMessage.decode (nlaValue payload) = .panic) := by
  -- the other kinds hold lists whose parsers do not panic, or bytes
  have hsafe : kind ≠ .bridge → kind ≠ .veth →
      InfoData.parseWithParam LinkMessage.decode payload kind ≠ .panic := by
    intro hb hv
    cases kind with
    | bridge => exact absurd rfl hb
    | veth => exact absurd rfl hv
    | vlan => exact map_parseEachWith_ne_panic InfoVlan.parse_ne_panic
    | vxlan => exact map_parseEachWith_ne_panic InfoVxlan.parse_ne_panic
    | bond => exact map_parseEachWith_ne_panic InfoBond.parse_ne_panic
    | ipVlan => exact map_parseEachWith_ne_panic InfoIpVlan.parse_ne_panic
    | ipVtap => exact map_parseEachWith_ne_panic InfoIpVlan.parse_ne_panic
    | macVlan => exact map_parseEachWith_ne_panic InfoMacVlan.parse_ne_panic
    | macVtap => exact map_parseEachWith_ne_panic InfoMacVtap.parse_ne_panic
    | vrf => exact map_parseEachWith_ne_panic InfoVrf.parse_ne_panic
    | ipoib => exact map_parseEachWith_ne_panic InfoIpoib.parse_ne_panic
    | xfrm => exact map_parseEachWith_ne_panic InfoXfrm.parse_ne_panic
    | macSec => exact map_parseEachWith_ne_panic InfoMacSec.parse_ne_panic
    | hsr => exact map_parseEachWith_ne_panic InfoHsr.parse_ne_panic
    | tun => exact map_parseEachWith_ne_panic UnnamedNla.parse_ne_panic
    | greTap => exact map_parseEachWith_ne_panic UnnamedNla.parse_ne_panic
    | greTap6 => exact map_parseEachWith_ne_panic UnnamedNla.parse_ne_panic
    | sitTun => exact map_parseEachWith_ne_panic UnnamedNla.parse_ne_panic
    | greTun => exact map_parseEachWith_ne_panic UnnamedNla.parse_ne_panic
    | greTun6 => exact map_parseEachWith_ne_panic UnnamedNla.parse_ne_panic
    | vti => exact map_parseEachWith_ne_panic UnnamedNla.parse_ne_panic
    | gtp => exact map_parseEachWith_ne_panic UnnamedNla.parse_ne_panic
    | _ => simp [InfoData.parseWithParam]
  by_cases hb : kind = .bridge
  · subst hb
    rw [InfoData.parseWithParam, Outcome.map_eq_panic, parseEachWith_eq_panic_iff]
    simp only [true_and, reduceCtorEq, false_and, or_false]
    refine exists_congr fun nb => and_congr_right fun hr => ?_
    exact InfoBridge.parse_eq_panic_iff (valid_of_mem_nlas hr.mem)
  by_cases hveth : kind = .veth
  · subst hveth
    rw [InfoData.parseWithParam, Outcome.map_eq_panic]
    by_cases hv : NlaValid payload
    · have hv' : NlaValid (NlaBuffer.mk payload).buffer := hv
      simp [newChecked_of_valid hv, InfoVeth.parse_eq_panic_iff hv', hv]
    · obtain ⟨e, he⟩ := newChecked_of_not_valid hv
      simp [he, hv]
  · simp [hb, hveth, hsafe hb hveth]

/-- Of the ports, those of bridges. -/
theorem InfoPortData.parseWithParam_eq_panic_iff {payload : Bytes} {kind : InfoPortKind} :
    InfoPortData.parseWithParam payload kind = .panic ↔
      kind = .bridge ∧ ∃ nb, NlaReached InfoBridgePort.parse payload nb ∧
        (wireKind nb = IFLA_BRPORT_ROOT_ID ∨ wireKind nb = IFLA_BRPORT_BRIDGE_ID) ∧
          (nlaValue nb.buffer).length < 8 := by
  unfold InfoPortData.parseWithParam
  rw [Outcome.context_eq_panic]
  cases kind with
  | bridge =>
    simp only [Outcome.map_eq_panic, parseEach_eq_panic_iff, true_and]
    refine exists_congr fun nb => and_congr_right fun hr => ?_
    exact InfoBridgePort.parse_eq_panic_iff (valid_of_mem_nlas hr.mem)
  | bond => simpa using parseEach_ne_panic fun _ => InfoBondPort.parse_ne_panic
  | vrf => simpa using parseEach_ne_panic fun _ => InfoVrf.parse_ne_panic
  | other s => simp

namespace LinkInfo

variable {p q : Bytes} {mem : Memory} {nla : NlaBuffer}

/-- The entry of the list that the loop gets to, and what it remembers. -/
def Reached (p : Bytes) (mem : Memory) (nla : NlaBuffer) : Prop :=
  ReachedFrom (fun mem nla => do step LinkMessage.decode mem (← nla)) {} (PacketUtils.nlas p) mem
    (.ok nla)

/-- The peer of a virtual pair that the loop gets to. -/
structure PeerReached (p q : Bytes) (mem : Memory) (nla : NlaBuffer) : Prop where
  reached : Reached p mem nla
  kind : wireKind nla = IFLA_INFO_DATA
  veth : mem.linkInfoKind = some .veth
  valid : NlaValid (nlaValue nla.buffer)
  peer : wireKind ⟨nlaValue nla.buffer⟩ = VETH_INFO_PEER
  eq : q = nlaValue (nlaValue nla.buffer)

/-- The peers inside a list, at any nesting. -/
inductive PeerInside : Bytes → Bytes → Prop
  /-- A peer of the list. -/
  | here {p q : Bytes} {mem : Memory} {nla : NlaBuffer} (h : PeerReached p q mem nla) :
      PeerInside p q
  /-- A peer inside a list of a peer. -/
  | inside {p q r : Bytes} {mem : Memory} {nla nb : NlaBuffer} (h : PeerReached p q mem nla)
      (hr : LinkMessage.AttributeReached q nb) (hk : wireKind nb = IFLA_LINKINFO)
      (hin : PeerInside (nlaValue nb.buffer) r) : PeerInside p r

/-- **What is wrong with a list that the decoder panics on.** -/
inductive Defect : Bytes → Prop
  /-- A bridge with an identifier of less than eight bytes. -/
  | bridge {p : Bytes} {mem : Memory} {nla nb : NlaBuffer} (hr : Reached p mem nla)
      (hk : wireKind nla = IFLA_INFO_DATA) (hm : mem.linkInfoKind = some .bridge)
      (hr' : NlaReached InfoBridge.parse (nlaValue nla.buffer) nb)
      (hid : wireKind nb = IFLA_BR_ROOT_ID ∨ wireKind nb = IFLA_BR_BRIDGE_ID)
      (h : (nlaValue nb.buffer).length < 8) : Defect p
  /-- A port of a bridge with such an identifier. -/
  | bridgePort {p : Bytes} {mem : Memory} {nla nb : NlaBuffer} (hr : Reached p mem nla)
      (hk : wireKind nla = IFLA_INFO_PORT_DATA) (hm : mem.linkInfoPortKind = some .bridge)
      (hr' : NlaReached InfoBridgePort.parse (nlaValue nla.buffer) nb)
      (hid : wireKind nb = IFLA_BRPORT_ROOT_ID ∨ wireKind nb = IFLA_BRPORT_BRIDGE_ID)
      (h : (nlaValue nb.buffer).length < 8) : Defect p
  /-- A peer with a defective list. -/
  | peer {p q : Bytes} {mem : Memory} {nla nb : NlaBuffer} (h : PeerReached p q mem nla)
      (hr : LinkMessage.AttributeReached q nb) (hk : wireKind nb = IFLA_LINKINFO)
      (hd : Defect (nlaValue nb.buffer)) : Defect p

/-- An attribute reached with a memory is one of the payload. -/
theorem Reached.mem_nlas (h : Reached p mem nla) : .ok nla ∈ PacketUtils.nlas p := ReachedFrom.mem h

/-- A turn panics as the data that the memory selects does. -/
theorem step_eq_panic_iff (hv : NlaValid nla.buffer) :
    step LinkMessage.decode mem nla = .panic ↔
      (wireKind nla = IFLA_INFO_DATA ∧ ∃ kind, mem.linkInfoKind = some kind ∧
        InfoData.parseWithParam LinkMessage.decode (nlaValue nla.buffer) kind = .panic) ∨
      (wireKind nla = IFLA_INFO_PORT_DATA ∧ ∃ port, mem.linkInfoPortKind = some port ∧
        InfoPortData.parseWithParam (nlaValue nla.buffer) port = .panic) := by
  have hkind := InfoKind.parse_ne_panic hv
  have hport := InfoPortKind.parse_ne_panic hv
  rw [step, hv.carries.kind, Outcome.ok_bind,
    select_eq_panic_iff (by simp only [List.map]; decide) (by simp [hv.carries.defaultNla])]
  rcases hk : mem.linkInfoKind with _ | kind <;> rcases hp : mem.linkInfoPortKind with _ | port <;>
    simp [hv.carries.value, hkind, hport, Outcome.bind_eq_panic, or_comm]

/-- **The list panics when a turn that it gets to does.** -/
theorem parse_eq_panic_iff_step : VecLinkInfo.parse p = .panic ↔
    ∃ mem nla, Reached p mem nla ∧ step LinkMessage.decode mem nla = .panic := by
  rw [VecLinkInfo.parse, parseVec, forEachFrom_eq_panic_iff]
  refine exists_congr fun mem => ?_
  constructor
  · rintro ⟨o, hr, hp⟩
    cases o with
    | ok nla => exact ⟨nla, hr, hp⟩
    | err e => cases hp
    | panic => exact absurd hr.mem panic_not_mem_nlas
  · rintro ⟨nla, hr, hp⟩
    exact ⟨.ok nla, hr, hp⟩

/-- One level: a bridge, a port of a bridge, or a peer. -/
theorem parse_eq_panic_iff_peer : VecLinkInfo.parse p = .panic ↔
    (∃ mem nla nb, Reached p mem nla ∧ wireKind nla = IFLA_INFO_DATA ∧
      mem.linkInfoKind = some .bridge ∧ NlaReached InfoBridge.parse (nlaValue nla.buffer) nb ∧
      (wireKind nb = IFLA_BR_ROOT_ID ∨ wireKind nb = IFLA_BR_BRIDGE_ID) ∧
      (nlaValue nb.buffer).length < 8) ∨
    (∃ mem nla nb, Reached p mem nla ∧ wireKind nla = IFLA_INFO_PORT_DATA ∧
      mem.linkInfoPortKind = some .bridge ∧
      NlaReached InfoBridgePort.parse (nlaValue nla.buffer) nb ∧
      (wireKind nb = IFLA_BRPORT_ROOT_ID ∨ wireKind nb = IFLA_BRPORT_BRIDGE_ID) ∧
      (nlaValue nb.buffer).length < 8) ∨
    (∃ q mem nla, PeerReached p q mem nla ∧ LinkMessage.decode q = .panic) := by
  rw [parse_eq_panic_iff_step]
  constructor
  · rintro ⟨mem, nla, hr, hp⟩
    rcases (step_eq_panic_iff (valid_of_mem_nlas hr.mem_nlas)).1 hp with
      ⟨hk, kind, hm, hp⟩ | ⟨hk, port, hm, hp⟩
    · rcases InfoData.parseWithParam_eq_panic_iff.1 hp with
        ⟨rfl, nb, hr', hid, h⟩ | ⟨rfl, hv, hpeer, h⟩
      · exact .inl ⟨mem, nla, nb, hr, hk, hm, hr', hid, h⟩
      · exact .inr (.inr ⟨_, mem, nla, ⟨hr, hk, hm, hv, hpeer, rfl⟩, h⟩)
    · obtain ⟨rfl, nb, hr', hid, h⟩ := InfoPortData.parseWithParam_eq_panic_iff.1 hp
      exact .inr (.inl ⟨mem, nla, nb, hr, hk, hm, hr', hid, h⟩)
  · rintro (⟨mem, nla, nb, hr, hk, hm, hr', hid, h⟩ | ⟨mem, nla, nb, hr, hk, hm, hr', hid, h⟩ |
      ⟨q, mem, nla, hpeer, h⟩)
    · refine ⟨mem, nla, hr, (step_eq_panic_iff (valid_of_mem_nlas hr.mem_nlas)).2 (.inl ?_)⟩
      exact ⟨hk, _, hm, InfoData.parseWithParam_eq_panic_iff.2 (.inl ⟨rfl, nb, hr', hid, h⟩)⟩
    · refine ⟨mem, nla, hr, (step_eq_panic_iff (valid_of_mem_nlas hr.mem_nlas)).2 (.inr ?_)⟩
      exact ⟨hk, _, hm, InfoPortData.parseWithParam_eq_panic_iff.2 ⟨rfl, nb, hr', hid, h⟩⟩
    · obtain ⟨hr, hk, hm, hv, hp, rfl⟩ := hpeer
      refine ⟨mem, nla, hr, (step_eq_panic_iff (valid_of_mem_nlas hr.mem_nlas)).2 (.inl ?_)⟩
      exact ⟨hk, _, hm, InfoData.parseWithParam_eq_panic_iff.2 (.inr ⟨rfl, hv, hp, h⟩)⟩

/-- A peer is strictly shorter than the list that holds it. -/
theorem PeerReached.length_lt (h : PeerReached p q mem nla) : q.length < p.length := by
  have h1 := h.valid.length_value
  have h2 := h.valid.2
  have hv := valid_of_mem_nlas h.reached.mem_nlas
  have h3 := hv.length_value
  have h4 := hv.2
  have h5 := length_le_of_mem_nlas h.reached.mem_nlas
  rw [h.eq]
  omega

/-- The list of a peer is shorter still. -/
theorem PeerReached.length_inner_lt {nb : NlaBuffer} (h : PeerReached p q mem nla)
    (hr : LinkMessage.AttributeReached q nb) : (nlaValue nb.buffer).length < p.length := by
  have h1 := h.length_lt
  have h2 := hr.length_le
  have h3 := hr.valid.length_value
  have h4 := hr.valid.2
  omega

/-- A peer is shorter than the payload it lies in, so the descent ends. -/
theorem PeerInside.length_lt (h : PeerInside p q) : q.length < p.length := by
  induction h with
  | here h => exact h.length_lt
  | inside h hr _ _ ih =>
    have := h.length_inner_lt hr
    omega

/-- **The decoder panics on the defective lists and on no other**, when
the other attributes of the peers return. -/
theorem parse_eq_panic_iff
    (hpeer : ∀ q nb, PeerInside p q → LinkMessage.AttributeReached q nb →
      wireKind nb ≠ IFLA_LINKINFO →
      LinkAttribute.parseWithParam (LinkMessage.wireFamily q) nb ≠ .panic) :
    VecLinkInfo.parse p = .panic ↔ Defect p := by
  -- the lists of peers are shorter, and the peers inside them are peers inside this one
  induction hn : p.length using Nat.strongRecOn generalizing p with
  | _ n ih =>
    subst hn
    have hinner : ∀ {q mem nla nb}, PeerReached p q mem nla → LinkMessage.AttributeReached q nb →
        wireKind nb = IFLA_LINKINFO →
        (VecLinkInfo.parse (nlaValue nb.buffer) = .panic ↔ Defect (nlaValue nb.buffer)) := by
      intro q mem nla nb h hr hk
      refine ih _ (h.length_inner_lt hr) (fun r nb' hin => ?_) rfl
      exact hpeer r nb' (.inside h hr hk hin)
    rw [parse_eq_panic_iff_peer]
    constructor
    · rintro (⟨mem, nla, nb, hr, hk, hm, hr', hid, h⟩ | ⟨mem, nla, nb, hr, hk, hm, hr', hid, h⟩ |
        ⟨q, mem, nla, h, hp⟩)
      · exact .bridge hr hk hm hr' hid h
      · exact .bridgePort hr hk hm hr' hid h
      -- a peer panics at one of its attributes, which by `hpeer` is its own list
      · obtain ⟨nb, hr, hp⟩ := LinkMessage.decode_eq_panic_iff.1 hp
        have hk : wireKind nb = IFLA_LINKINFO := by
          by_contra hk
          exact hpeer q nb (.here h) hr hk hp
        rw [LinkAttribute.parseWithParam_linkInfo_eq_panic_iff hr.valid hk] at hp
        exact .peer h hr hk ((hinner h hr hk).1 hp)
    · intro hd
      cases hd with
      | bridge hr hk hm hr' hid h => exact .inl ⟨_, _, _, hr, hk, hm, hr', hid, h⟩
      | bridgePort hr hk hm hr' hid h => exact .inr (.inl ⟨_, _, _, hr, hk, hm, hr', hid, h⟩)
      | peer h hr hk hd =>
        refine .inr (.inr ⟨_, _, _, h, LinkMessage.decode_eq_panic_iff.2 ⟨_, hr, ?_⟩⟩)
        rw [LinkAttribute.parseWithParam_linkInfo_eq_panic_iff hr.valid hk]
        exact (hinner h hr hk).2 hd

/-- Where the list returns, so do all attributes of all peers inside it. -/
theorem PeerInside.parseWithParam_ne_panic {nb : NlaBuffer} (hin : PeerInside p q)
    (h : VecLinkInfo.parse p ≠ .panic) (hr : LinkMessage.AttributeReached q nb) :
    LinkAttribute.parseWithParam (LinkMessage.wireFamily q) nb ≠ .panic := by
  induction hin with
  | here hp =>
    intro hpanic
    have hq := LinkMessage.decode_eq_panic_iff.2 ⟨nb, hr, hpanic⟩
    exact h (parse_eq_panic_iff_peer.2 (.inr (.inr ⟨_, _, _, hp, hq⟩)))
  | inside hp hr' hk _ ih =>
    refine ih (fun hpanic => ?_) hr
    rw [← LinkAttribute.parseWithParam_linkInfo_eq_panic_iff hr'.valid hk] at hpanic
    have hq := LinkMessage.decode_eq_panic_iff.2 ⟨_, hr', hpanic⟩
    exact h (parse_eq_panic_iff_peer.2 (.inr (.inr ⟨_, _, _, hp, hq⟩)))

end LinkInfo

/-- **Decoding `IFLA_LINKINFO` returns, with a list or an error, exactly
when the list has no defect**, if the other attributes of the peers inside
it return; and each peer is strictly shorter. -/
theorem VecLinkInfo.parse_returns_iff (p : Bytes)
    (hpeer : ∀ q nb, LinkInfo.PeerInside p q → LinkMessage.AttributeReached q nb →
      wireKind nb ≠ IFLA_LINKINFO →
      LinkAttribute.parseWithParam (LinkMessage.wireFamily q) nb ≠ .panic) :
    (VecLinkInfo.parse p ≠ .panic ↔ ¬ LinkInfo.Defect p) ∧
      ∀ q, LinkInfo.PeerInside p q → q.length < p.length :=
  ⟨not_congr (LinkInfo.parse_eq_panic_iff hpeer), fun _ => LinkInfo.PeerInside.length_lt⟩

end

/-! ## On a little-endian host -/

section Panics

attribute [local instance] Reference.little

/-- A memory map of four bytes, a bridge's protocol information of four
zero bytes, and empty cache information of IPv6. -/
theorem LinkMessage.decode_map_panics :
    LinkMessage.decode (zeros 16 ++ [8, 0, 14, 0, 1, 2, 3, 4]) = .panic ∧
      LinkMessage.decode ((7 :: zeros 15) ++ [8, 0, 12, 0, 0, 0, 0, 0]) = .panic ∧
      LinkMessage.decode (zeros 16 ++ [12, 0, 26, 0, 8, 0, 10, 0, 4, 0, 5, 0]) = .panic :=
  ⟨rfl, rfl, rfl⟩

/-- A link with an MTU and a kind. -/
def LinkMessage.dummyBytes : Bytes :=
  zeros 16 ++ [8, 0, 4, 0, 220, 5, 0, 0] ++
    [16, 0, 18, 0, 10, 0, 1, 0, 100, 117, 109, 109, 121, 0, 0, 0]

theorem LinkMessage.decode_returns_dummy : LinkMessage.decode dummyBytes ≠ .panic ∧
    ∀ nb, AttributeReached dummyBytes nb →
      ¬ LinkAttribute.Defect (wireFamily dummyBytes) nb := by
  have h : LinkMessage.decode dummyBytes =
      .ok ⟨⟨.unspec, 0, .netrom, 0, 0⟩, [.mtu 1500, .linkInfo [.infoKind .dummy]]⟩ := rfl
  have hne : LinkMessage.decode dummyBytes ≠ .panic := by simp [h]
  refine ⟨hne, (LinkMessage.decode_returns_iff dummyBytes fun nb hr _ hp => ?_).1 hne⟩
  exact hne (LinkMessage.decode_eq_panic_iff.2 ⟨nb, hr, hp⟩)

/-- A bridge with a root identifier of two bytes, on its own and as the
peer of a virtual pair. -/
theorem VecLinkInfo.parse_bridge_panics :
    VecLinkInfo.parse ([11, 0, 1, 0, 98, 114, 105, 100, 103, 101, 0, 0] ++
      [12, 0, 2, 0, 6, 0, 10, 0, 1, 2, 0, 0]) = .panic ∧
    VecLinkInfo.parse ([9, 0, 1, 0, 118, 101, 116, 104, 0, 0, 0, 0] ++
      [52, 0, 2, 0, 48, 0, 1, 0] ++ zeros 16 ++ [28, 0, 18, 0] ++
      [11, 0, 1, 0, 98, 114, 105, 100, 103, 101, 0, 0] ++
      [12, 0, 2, 0, 6, 0, 10, 0, 1, 2, 0, 0]) = .panic :=
  ⟨rfl, rfl⟩

/-- A virtual pair whose peer has an MTU and a kind. -/
def VecLinkInfo.vethBytes : Bytes :=
  [9, 0, 1, 0, 118, 101, 116, 104, 0, 0, 0, 0] ++ [48, 0, 2, 0, 44, 0, 1, 0] ++
    LinkMessage.dummyBytes

theorem VecLinkInfo.parse_returns_veth :
    (VecLinkInfo.parse vethBytes ≠ .panic ↔ ¬ LinkInfo.Defect vethBytes) ∧
      ∀ q, LinkInfo.PeerInside vethBytes q → q.length < vethBytes.length := by
  have h : VecLinkInfo.parse vethBytes = .ok [.infoKind .veth, .data (.veth (.peer
      ⟨⟨.unspec, 0, .netrom, 0, 0⟩, [.mtu 1500, .linkInfo [.infoKind .dummy]]⟩))] := rfl
  have hne : VecLinkInfo.parse vethBytes ≠ .panic := by simp [h]
  refine VecLinkInfo.parse_returns_iff vethBytes fun q nb hin hr _ => ?_
  exact hin.parseWithParam_ne_panic hne hr

end Panics

end NetlinkRoute
