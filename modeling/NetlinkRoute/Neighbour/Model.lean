import NetlinkRoute.Common.Message
import NetlinkRoute.Route.Model.Header
/-!
# Neighbour — the model

The entries of the neighbour cache and of a bridge's forwarding table.
The kind `NDA_DST` is two attributes: the header's family decides whether
it is a tunnel endpoint, whose form the payload's length decides, or a
destination, whose form the family decides again.
-/

namespace NetlinkRoute

open PacketUtils Emitter

/-! ## The header -/

abbrev NUD_INCOMPLETE : UInt16 := 0x01
abbrev NUD_REACHABLE : UInt16 := 0x02
abbrev NUD_STALE : UInt16 := 0x04
abbrev NUD_DELAY : UInt16 := 0x08
abbrev NUD_PROBE : UInt16 := 0x10
abbrev NUD_FAILED : UInt16 := 0x20
abbrev NUD_NOARP : UInt16 := 0x40
abbrev NUD_PERMANENT : UInt16 := 0x80
abbrev NUD_NONE : UInt16 := 0x00

/-- The state of a neighbour cache entry. -/
inductive NeighbourState where
  | incomplete | reachable | stale | delay | probe | failed | noarp | permanent | none
  | other (d : UInt16)
deriving DecidableEq

/-- The numbers of `NeighbourState`. -/
def NeighbourState.codec : EnumCodec UInt16 NeighbourState where
  arms := [(NUD_INCOMPLETE, .incomplete), (NUD_REACHABLE, .reachable), (NUD_STALE, .stale),
    (NUD_DELAY, .delay), (NUD_PROBE, .probe), (NUD_FAILED, .failed), (NUD_NOARP, .noarp),
    (NUD_PERMANENT, .permanent), (NUD_NONE, .none)]
  other := .other
  toNum
    | .incomplete => NUD_INCOMPLETE | .reachable => NUD_REACHABLE | .stale => NUD_STALE
    | .delay => NUD_DELAY | .probe => NUD_PROBE | .failed => NUD_FAILED | .noarp => NUD_NOARP
    | .permanent => NUD_PERMANENT | .none => NUD_NONE | .other d => d
  toNum_arm := by decide
  toNum_other _ := rfl

/-- `NeighbourHeader`. The flags are a bit set that keeps unknown bits. -/
structure NeighbourHeader where
  family : AddressFamily
  ifindex : UInt32
  state : NeighbourState
  flags : UInt8
  kind : RouteType
deriving DecidableEq

/-- The enumerations hold the values that their numbers decode to. -/
def NeighbourHeader.WellFormed (h : NeighbourHeader) : Prop :=
  AddressFamily.codec.Canonical h.family ∧ NeighbourState.codec.Canonical h.state ∧
    RouteType.codec.Canonical h.kind

instance NeighbourHeader.decidableWellFormed (h : NeighbourHeader) : Decidable h.WellFormed :=
  inferInstanceAs (Decidable (_ ∧ _))

section

variable [Host]

/-- `NeighbourMessageBuffer`. The three bytes behind the family are no
field. -/
def NeighbourHeader.codec : HeaderCodec NeighbourHeader where
  len := 12
  parse buf := do
    return {
      family := AddressFamily.codec.ofNum (← getU8 buf 0)
      ifindex := ← getU32 buf 4
      state := NeighbourState.codec.ofNum (← getU16 buf 8)
      flags := ← getU8 buf 10
      kind := RouteType.codec.ofNum (← getU8 buf 11) }
  layout h := [
    (0, [AddressFamily.codec.toNum h.family]), (4, ne.u32 h.ifindex),
    (8, ne.u16 (NeighbourState.codec.toNum h.state)), (10, [h.flags]),
    (11, [RouteType.codec.toNum h.kind])]
  WellFormed := NeighbourHeader.WellFormed
  ascending h := by simp [Ascending]
  parse_layout h rest hw := by
    obtain ⟨h1, h2, h3⟩ := hw
    simp [gapped, zeros, List.replicate, getU16_append, getU8_append, h1.ofNum_toNum,
      h2.ofNum_toNum, h3.ofNum_toNum]
  parse_of_le b hb := by
    simp (disch := exact fits_of_le hb rfl) only [getU8_of_le, getU16_of_le, getU32_of_le,
      Outcome.ok_bind,
      Outcome.pure_eq]
    exact ⟨_, rfl, by simp [NeighbourHeader.WellFormed]⟩

/-! ## Attributes -/

/-- `NeighbourCacheInfo`. -/
structure NeighbourCacheInfo where
  confirmed : UInt32
  used : UInt32
  updated : UInt32
  refcnt : UInt32
deriving DecidableEq

/-- `NeighbourCacheInfoBuffer`: getters and setters of `NeighbourCacheInfo`. -/
def NeighbourCacheInfo.codec : StructCodec NeighbourCacheInfo where
  len := 16
  parse buf := do
    return {
      confirmed := ← getU32 buf 0, used := ← getU32 buf 4, updated := ← getU32 buf 8,
      refcnt := ← getU32 buf 12 }
  layout v := [
    (0, ne.u32 v.confirmed), (4, ne.u32 v.used), (8, ne.u32 v.updated), (12, ne.u32 v.refcnt)]
  tiles v := by simp [Tiles]
  length_layout v := by simp
  parse_layout v rest := by simp [getU32_append]
  parse_of_le b hb := by
    simp (disch := exact fits_of_le hb rfl) only [getU32_of_le, Outcome.ok_bind, Outcome.pure_eq]
    exact ⟨_, rfl⟩

end

/-- An address of a neighbour. -/
inductive NeighbourAddress where
  | inet (v : Ipv4Addr)
  | inet6 (v : Ipv6Addr)
  | other (v : Bytes)
deriving DecidableEq

namespace NeighbourAddress

def parseWithParam (addressFamily : AddressFamily) (payload : Bytes) : Outcome NeighbourAddress :=
  match addressFamily with
  | .inet => .inet <$> parseIpv4Addr payload
  | .inet6 => .inet6 <$> parseIpv6Addr payload
  | _ => .ok (.other payload)

def bufferLen : NeighbourAddress → ℕ
  | .inet _ => IPV4_ADDR_LEN
  | .inet6 _ => IPV6_ADDR_LEN
  | .other v => v.length

def emit : NeighbourAddress → Emitter
  | .inet v => emitIpToBuffer (.v4 v)
  | .inet6 v => emitIpToBuffer (.v6 v)
  | .other v => .copy v

end NeighbourAddress

section

variable [PacketUtils]

abbrev NFEA_ACTIVITY_NOTIFY : UInt16 := 1
abbrev NFEA_DONT_REFRESH : UInt16 := 2

/-- The attributes of `NDA_FDB_EXT_ATTRS`. -/
inductive FdbExtAttr where
  | activityNotify (v : UInt8)
  | dontRefresh
  | other (v : DefaultNla)
deriving DecidableEq

namespace FdbExtAttr

def kind : FdbExtAttr → UInt16
  | .activityNotify _ => NFEA_ACTIVITY_NOTIFY
  | .dontRefresh => NFEA_DONT_REFRESH
  | .other attr => attr.kind

def valueLen : FdbExtAttr → ℕ
  | .activityNotify _ => 1
  | .dontRefresh => 0
  | .other attr => attr.valueLen

def emitValue : FdbExtAttr → Emitter
  | .activityNotify v => .put 0 [v]
  | .dontRefresh => .skip
  | .other attr => attr.emitValue

/-- The attribute, as the attribute layer sees it. -/
def nla (a : FdbExtAttr) : Nla := ⟨a.valueLen, a.kind, a.emitValue⟩

def parse (buf : NlaBuffer) : Outcome FdbExtAttr := do
  let payload ← value buf
  let kind ← PacketUtils.kind buf
  select kind [
    (NFEA_ACTIVITY_NOTIFY,
      .activityNotify <$> (parseU8 payload).context "invalid NFEA_ACTIVITY_NOTIFY value"),
    (NFEA_DONT_REFRESH, .ok .dontRefresh)]
    (.other <$> (defaultNla buf).context "invalid NFEA value (unknown type)")

end FdbExtAttr

abbrev NDA_DST : UInt16 := 1
abbrev NDA_LLADDR : UInt16 := 2
abbrev NDA_CACHEINFO : UInt16 := 3
abbrev NDA_PROBES : UInt16 := 4
abbrev NDA_VLAN : UInt16 := 5
abbrev NDA_PORT : UInt16 := 6
abbrev NDA_VNI : UInt16 := 7
abbrev NDA_IFINDEX : UInt16 := 8
abbrev NDA_CONTROLLER : UInt16 := 9
abbrev NDA_LINK_NETNSID : UInt16 := 10
abbrev NDA_SRC_VNI : UInt16 := 11
abbrev NDA_PROTOCOL : UInt16 := 12
abbrev NDA_NH_ID : UInt16 := 13
abbrev NDA_FDB_EXT_ATTRS : UInt16 := 14

/-- The attributes of a neighbour. -/
inductive NeighbourAttribute where
  | destination (v : NeighbourAddress)
  | linkLocalAddress (v : Bytes)
  | cacheInfo (v : NeighbourCacheInfo)
  | probes (v : UInt32)
  | vlan (v : UInt16)
  | port (v : UInt16)
  | vni (v : UInt32)
  | ifIndex (v : UInt32)
  | controller (v : UInt32)
  | linkNetNsId (v : UInt32)
  | sourceVni (v : UInt32)
  | protocol (v : RouteProtocol)
  | tunnelEndpoint (v : NeighbourAddress)
  | nhId (v : UInt32)
  | fdbExtAttrs (v : List FdbExtAttr)
  | other (v : DefaultNla)
deriving DecidableEq

namespace NeighbourAttribute

def kind : NeighbourAttribute → UInt16
  | .destination _ => NDA_DST
  | .tunnelEndpoint _ => NDA_DST
  | .linkLocalAddress _ => NDA_LLADDR
  | .cacheInfo _ => NDA_CACHEINFO
  | .probes _ => NDA_PROBES
  | .vlan _ => NDA_VLAN
  | .port _ => NDA_PORT
  | .vni _ => NDA_VNI
  | .ifIndex _ => NDA_IFINDEX
  | .controller _ => NDA_CONTROLLER
  | .linkNetNsId _ => NDA_LINK_NETNSID
  | .sourceVni _ => NDA_SRC_VNI
  | .protocol _ => NDA_PROTOCOL
  | .nhId _ => NDA_NH_ID
  | .fdbExtAttrs _ => NDA_FDB_EXT_ATTRS ||| NLA_F_NESTED
  | .other nla => nla.kind

def valueLen : NeighbourAttribute → ℕ
  | .linkLocalAddress bytes => bytes.length
  | .destination v => v.bufferLen
  | .tunnelEndpoint v => v.bufferLen
  | .cacheInfo _ => NeighbourCacheInfo.codec.len
  | .vlan _ | .port _ => 2
  | .protocol _ => RouteProtocol.bufferLen
  | .probes _ | .linkNetNsId _ | .controller _ | .vni _ | .ifIndex _ | .sourceVni _ | .nhId _ => 4
  | .fdbExtAttrs attrs => nlasLen (attrs.map FdbExtAttr.nla)
  | .other attr => attr.valueLen

def emitValue : NeighbourAttribute → Emitter
  | .destination v => v.emit
  | .tunnelEndpoint v => v.emit
  | .linkLocalAddress bytes => .copy bytes
  | .cacheInfo v => NeighbourCacheInfo.codec.emit v
  | .vlan value => .put 0 (ne.u16 value)
  | .port value => .put 0 (be.u16 value)
  | .probes value | .linkNetNsId value | .controller value | .vni value | .ifIndex value
  | .sourceVni value | .nhId value => .put 0 (ne.u32 value)
  | .protocol v => v.emit
  | .fdbExtAttrs attrs => emitNlas (attrs.map FdbExtAttr.nla)
  | .other attr => attr.emitValue

/-- The attribute, as the attribute layer sees it. -/
def nla (a : NeighbourAttribute) : Nla := ⟨a.valueLen, a.kind, a.emitValue⟩

/-- `NDA_DST`. -/
def parseDestination (addressFamily : AddressFamily) (payload : Bytes) :
    Outcome NeighbourAttribute :=
  if addressFamily = .bridge then .tunnelEndpoint <$>
    if payload.length = 4 then
      .inet <$> (parseIpv4Addr payload).context "invalid tunnel endpoint IPv4 address"
    else if payload.length = 16 then
      .inet6 <$> (parseIpv6Addr payload).context "invalid tunnel endpoint IPv6 address"
    else .ok (.other payload)
  else .destination <$> (NeighbourAddress.parseWithParam addressFamily payload).context
    ("invalid NDA_DST value " ++ debug payload)

def parseWithParam (addressFamily : AddressFamily) (buf : NlaBuffer) :
    Outcome NeighbourAttribute := do
  let payload ← value buf
  let kind ← PacketUtils.kind buf
  select kind [
    (NDA_DST,
      parseDestination addressFamily payload),
    (NDA_LLADDR, .ok (.linkLocalAddress payload)),
    (NDA_CACHEINFO,
      .cacheInfo <$> NeighbourCacheInfo.codec.parseChecked "NeighbourCacheInfoBuffer"
        ("invalid NDA_CACHEINFO value " ++ debug payload) payload),
    (NDA_PROBES,
      .probes <$> (parseU32 payload).context ("invalid NDA_PROBES value " ++ debug payload)),
    (NDA_VLAN, .vlan <$> parseU16 payload),
    (NDA_PORT,
      .port <$> (parseU16Be payload).context ("invalid NDA_PORT value " ++ debug payload)),
    (NDA_VNI, .vni <$> parseU32 payload),
    (NDA_IFINDEX, .ifIndex <$> parseU32 payload),
    (NDA_CONTROLLER,
      .controller <$>
        (parseU32 payload).context ("invalid NDA_CONTROLLER value " ++ debug payload)),
    (NDA_LINK_NETNSID,
      .linkNetNsId <$>
        (parseU32 payload).context ("invalid NDA_LINK_NETNSID value " ++ debug payload)),
    (NDA_SRC_VNI, .sourceVni <$> parseU32 payload),
    (NDA_PROTOCOL,
      .protocol <$>
        (RouteProtocol.parse payload).context ("invalid NDA_PROTOCOL value " ++ debug payload)),
    (NDA_NH_ID,
      .nhId <$> (parseU32 payload).context ("invalid NDA_NH_ID value " ++ debug payload)),
    (NDA_FDB_EXT_ATTRS,
      .fdbExtAttrs <$>
        parseNlas "failed to parse NDA_FDB_EXT_ATTRS"
          "failed to parse NDA_FDB_EXT_ATTRS" FdbExtAttr.parse payload)]
    (.other <$> (defaultNla buf).context "invalid link NLA value (unknown type)")

end NeighbourAttribute

/-! ## Messages -/

/-- `NeighbourMessage`. -/
abbrev NeighbourMessage := Message NeighbourHeader NeighbourAttribute

/-- How a neighbour message is decoded and written. -/
def NeighbourMessage.format : MessageFormat NeighbourHeader NeighbourAttribute where
  buffer := "NeighbourMessageBuffer"
  header := NeighbourHeader.codec
  nla := NeighbourAttribute.nla
  parseAttributes header := parseEach (NeighbourAttribute.parseWithParam header.family)
  headerErr := some "failed to parse neighbour message header"
  attributesErr := some "failed to parse neighbour message NLAs"

end

end NetlinkRoute
