import NetlinkRoute.Link.Safety
import NetlinkRoute.Link.Sriov
/-!
# Link — every message that the decoder panics on

The defects of single attributes, of the lists of virtual functions and of
the list of `IFLA_LINKINFO` are put together. A message is `Broken` when
the decoder gets to one of them, in the message itself or in the peer of a
virtual pair, at any nesting; and these are all the messages that it panics
on (`LinkMessage.decode_eq_panic_iff_broken`), with no assumption on what
else is in them.
-/

namespace NetlinkRoute

open PacketUtils

section

variable [PacketUtils]

/-! ## One attribute -/

namespace LinkAttribute

variable {family : AddressFamily} {nb : NlaBuffer}

/-- `IFLA_VFINFO_LIST` is the list that it holds. -/
theorem parseWithParam_vfInfoList_eq_panic_iff (hv : NlaValid nb.buffer)
    (hk : wireKind nb = IFLA_VFINFO_LIST) : parseWithParam family nb = .panic ↔
      LinkVfInfo.ListDefect (nlaValue nb.buffer) := by
  have hk : nlaWord nb.buffer &&& NLA_TYPE_MASK = IFLA_VFINFO_LIST := hk
  rw [parseWithParam, parseOver, hv.carries.bind, hk, select_of_find rfl]
  simp [LinkVfInfo.parseVec_eq_panic_iff]

/-- `IFLA_VF_PORTS` is the list that it holds. -/
theorem parseWithParam_vfPorts_eq_panic_iff (hv : NlaValid nb.buffer)
    (hk : wireKind nb = IFLA_VF_PORTS) : parseWithParam family nb = .panic ↔
      LinkVfPort.ListDefect (nlaValue nb.buffer) := by
  have hk : nlaWord nb.buffer &&& NLA_TYPE_MASK = IFLA_VF_PORTS := hk
  rw [parseWithParam, parseOver, hv.carries.bind, hk, select_of_find rfl]
  simp [LinkVfPort.parseVec_eq_panic_iff]

/-- `IFLA_PORT_SELF` is the port that it holds. -/
theorem parseWithParam_portSelf_eq_panic_iff (hv : NlaValid nb.buffer)
    (hk : wireKind nb = IFLA_PORT_SELF) : parseWithParam family nb = .panic ↔
      nlaValue nb.buffer ≠ [] ∧ ¬ NlaValid (nlaValue nb.buffer) := by
  have hk : nlaWord nb.buffer &&& NLA_TYPE_MASK = IFLA_PORT_SELF := hk
  rw [parseWithParam, parseOver, hv.carries.bind, hk, select_of_find rfl]
  simp [LinkVfPort.parse_eq_panic_iff]

end LinkAttribute

/-! ## One list of `IFLA_LINKINFO` -/

namespace LinkInfo

variable {p : Bytes}

/-- **An identifier of a bridge that is cut short**, in this list itself. -/
inductive ShortId (p : Bytes) : Prop
  /-- In the data of a bridge. -/
  | bridge {mem : Memory} {nla nb : NlaBuffer} (hr : Reached p mem nla)
      (hk : wireKind nla = IFLA_INFO_DATA) (hm : mem.linkInfoKind = some .bridge)
      (hr' : NlaReached InfoBridge.parse (nlaValue nla.buffer) nb)
      (hid : wireKind nb = IFLA_BR_ROOT_ID ∨ wireKind nb = IFLA_BR_BRIDGE_ID)
      (h : (nlaValue nb.buffer).length < 8) : ShortId p
  /-- In that of a port of a bridge. -/
  | bridgePort {mem : Memory} {nla nb : NlaBuffer} (hr : Reached p mem nla)
      (hk : wireKind nla = IFLA_INFO_PORT_DATA) (hm : mem.linkInfoPortKind = some .bridge)
      (hr' : NlaReached InfoBridgePort.parse (nlaValue nla.buffer) nb)
      (hid : wireKind nb = IFLA_BRPORT_ROOT_ID ∨ wireKind nb = IFLA_BRPORT_BRIDGE_ID)
      (h : (nlaValue nb.buffer).length < 8) : ShortId p

/-- One level: an identifier, or a peer. -/
theorem parse_eq_panic_iff_shortId : VecLinkInfo.parse p = .panic ↔
    ShortId p ∨ ∃ q mem nla, PeerReached p q mem nla ∧ LinkMessage.decode q = .panic := by
  rw [parse_eq_panic_iff_peer]
  constructor
  · rintro (⟨mem, nla, nb, hr, hk, hm, hr', hid, h⟩ | ⟨mem, nla, nb, hr, hk, hm, hr', hid, h⟩ | h)
    · exact .inl (.bridge hr hk hm hr' hid h)
    · exact .inl (.bridgePort hr hk hm hr' hid h)
    · exact .inr h
  · rintro (h | h)
    · cases h with
      | bridge hr hk hm hr' hid h => exact .inl ⟨_, _, _, hr, hk, hm, hr', hid, h⟩
      | bridgePort hr hk hm hr' hid h => exact .inr (.inl ⟨_, _, _, hr, hk, hm, hr', hid, h⟩)
    · exact .inr (.inr h)

end LinkInfo

/-! ## Messages -/

namespace LinkMessage

variable {b : Bytes}

/-- **What is wrong with a message that the decoder panics on**: an
attribute of it that the decoder gets to. -/
inductive Broken : Bytes → Prop
  /-- One that holds no list of its own. -/
  | leaf {b : Bytes} {nb : NlaBuffer} (hr : AttributeReached b nb)
      (h : LinkAttribute.Defect (wireFamily b) nb) : Broken b
  /-- A list of virtual functions. -/
  | vfInfoList {b : Bytes} {nb : NlaBuffer} (hr : AttributeReached b nb)
      (hk : wireKind nb = IFLA_VFINFO_LIST) (h : LinkVfInfo.ListDefect (nlaValue nb.buffer)) :
      Broken b
  /-- A list of their ports. -/
  | vfPorts {b : Bytes} {nb : NlaBuffer} (hr : AttributeReached b nb)
      (hk : wireKind nb = IFLA_VF_PORTS) (h : LinkVfPort.ListDefect (nlaValue nb.buffer)) : Broken b
  /-- The link's own port. -/
  | portSelf {b : Bytes} {nb : NlaBuffer} (hr : AttributeReached b nb)
      (hk : wireKind nb = IFLA_PORT_SELF) (hne : nlaValue nb.buffer ≠ [])
      (h : ¬ NlaValid (nlaValue nb.buffer)) : Broken b
  /-- A bridge or a port of a bridge. -/
  | linkInfo {b : Bytes} {nb : NlaBuffer} (hr : AttributeReached b nb)
      (hk : wireKind nb = IFLA_LINKINFO) (h : LinkInfo.ShortId (nlaValue nb.buffer)) : Broken b
  /-- The peer of a virtual pair, which is such a message. -/
  | peer {b q : Bytes} {nb nla : NlaBuffer} {mem : LinkInfo.Memory} (hr : AttributeReached b nb)
      (hk : wireKind nb = IFLA_LINKINFO) (hp : LinkInfo.PeerReached (nlaValue nb.buffer) q mem nla)
      (h : Broken q) : Broken b

/-- A peer in the list of an attribute is strictly shorter than the
message. -/
theorem AttributeReached.length_peer_lt {q : Bytes} {nb nla : NlaBuffer} {mem : LinkInfo.Memory}
    (hr : AttributeReached b nb) (hp : LinkInfo.PeerReached (nlaValue nb.buffer) q mem nla) :
    q.length < b.length := by
  have hlt := hp.length_lt
  have hvalue := hr.valid.length_value
  have hvalid := hr.valid.2
  have hle := hr.length_le
  omega

/-- **The decoder panics on the broken messages and on no other.** -/
theorem decode_eq_panic_iff_broken : decode b = .panic ↔ Broken b := by
  -- a peer is decoded from fewer bytes
  induction hn : b.length using Nat.strongRecOn generalizing b with
  | _ n ih =>
    subst hn
    rw [decode_eq_panic_iff]
    constructor
    · rintro ⟨nb, hr, hp⟩
      by_cases hinfo : wireKind nb = IFLA_LINKINFO
      · rw [LinkAttribute.parseWithParam_linkInfo_eq_panic_iff hr.valid hinfo,
          LinkInfo.parse_eq_panic_iff_shortId] at hp
        rcases hp with h | ⟨q, mem, nla, hpeer, h⟩
        · exact .linkInfo hr hinfo h
        · exact .peer hr hinfo hpeer ((ih _ (hr.length_peer_lt hpeer) rfl).1 h)
      by_cases hvf : wireKind nb = IFLA_VFINFO_LIST
      · exact .vfInfoList hr hvf
          ((LinkAttribute.parseWithParam_vfInfoList_eq_panic_iff hr.valid hvf).1 hp)
      by_cases hports : wireKind nb = IFLA_VF_PORTS
      · exact .vfPorts hr hports
          ((LinkAttribute.parseWithParam_vfPorts_eq_panic_iff hr.valid hports).1 hp)
      by_cases hself : wireKind nb = IFLA_PORT_SELF
      · obtain ⟨hne, h⟩ := (LinkAttribute.parseWithParam_portSelf_eq_panic_iff hr.valid hself).1 hp
        exact .portSelf hr hself hne h
      have haside : ¬ LinkAttribute.Aside nb := by
        simp [LinkAttribute.Aside, hinfo, hvf, hports, hself]
      exact .leaf hr ((LinkAttribute.parseWithParam_eq_panic_iff hr.valid haside).1 hp)
    · intro h
      cases h with
      | leaf hr h =>
        exact ⟨_, hr, (LinkAttribute.parseWithParam_eq_panic_iff hr.valid h.not_aside).2 h⟩
      | vfInfoList hr hk h =>
        exact ⟨_, hr, (LinkAttribute.parseWithParam_vfInfoList_eq_panic_iff hr.valid hk).2 h⟩
      | vfPorts hr hk h =>
        exact ⟨_, hr, (LinkAttribute.parseWithParam_vfPorts_eq_panic_iff hr.valid hk).2 h⟩
      | portSelf hr hk hne h =>
        exact ⟨_, hr, (LinkAttribute.parseWithParam_portSelf_eq_panic_iff hr.valid hk).2 ⟨hne, h⟩⟩
      | linkInfo hr hk h =>
        exact ⟨_, hr, (LinkAttribute.parseWithParam_linkInfo_eq_panic_iff hr.valid hk).2
          (LinkInfo.parse_eq_panic_iff_shortId.2 (.inl h))⟩
      | peer hr hk hp h =>
        have hq : decode _ = .panic := (ih _ (hr.length_peer_lt hp) rfl).2 h
        exact ⟨_, hr, (LinkAttribute.parseWithParam_linkInfo_eq_panic_iff hr.valid hk).2
          (LinkInfo.parse_eq_panic_iff_shortId.2 (.inr ⟨_, _, _, hp, hq⟩))⟩

end LinkMessage

end

end NetlinkRoute
