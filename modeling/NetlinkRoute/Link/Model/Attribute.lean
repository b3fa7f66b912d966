import NetlinkRoute.Link.Model.Header
import NetlinkRoute.Link.Model.AfSpec
import NetlinkRoute.Link.Model.Info
/-!
# Link — attributes and messages

The list of `IFLA_LINKINFO` can hold the peer of a veth pair, which is a
link message itself, so the types nest in each other and the parser calls
itself on ever shorter payloads. `LinkMessage.parseAt` counts the levels
that are left; `LinkMessage.decode` starts it with as many as there are
bytes, which no input can use up.

The parser of `IFLA_LINKINFO` has a memory: data belongs to the kind that
was named last, and the kind of a port is forgotten once its data was
read.
-/

namespace NetlinkRoute

open PacketUtils Emitter

abbrev IFLA_ADDRESS : UInt16 := 1
abbrev IFLA_BROADCAST : UInt16 := 2
abbrev IFLA_IFNAME : UInt16 := 3
abbrev IFLA_MTU : UInt16 := 4
abbrev IFLA_LINK : UInt16 := 5
abbrev IFLA_QDISC : UInt16 := 6
abbrev IFLA_STATS : UInt16 := 7
abbrev IFLA_MASTER : UInt16 := 10
abbrev IFLA_WIRELESS : UInt16 := 11
abbrev IFLA_PROTINFO : UInt16 := 12
abbrev IFLA_TXQLEN : UInt16 := 13
abbrev IFLA_MAP : UInt16 := 14
abbrev IFLA_OPERSTATE : UInt16 := 16
abbrev IFLA_LINKMODE : UInt16 := 17
abbrev IFLA_LINKINFO : UInt16 := 18
abbrev IFLA_NET_NS_PID : UInt16 := 19
abbrev IFLA_IFALIAS : UInt16 := 20
abbrev IFLA_NUM_VF : UInt16 := 21
abbrev IFLA_VFINFO_LIST : UInt16 := 22
abbrev IFLA_STATS64 : UInt16 := 23
abbrev IFLA_VF_PORTS : UInt16 := 24
abbrev IFLA_PORT_SELF : UInt16 := 25
abbrev IFLA_AF_SPEC : UInt16 := 26
abbrev IFLA_GROUP : UInt16 := 27
abbrev IFLA_NET_NS_FD : UInt16 := 28
abbrev IFLA_EXT_MASK : UInt16 := 29
abbrev IFLA_PROMISCUITY : UInt16 := 30
abbrev IFLA_NUM_TX_QUEUES : UInt16 := 31
abbrev IFLA_NUM_RX_QUEUES : UInt16 := 32
abbrev IFLA_CARRIER : UInt16 := 33
abbrev IFLA_PHYS_PORT_ID : UInt16 := 34
abbrev IFLA_CARRIER_CHANGES : UInt16 := 35
abbrev IFLA_PHYS_SWITCH_ID : UInt16 := 36
abbrev IFLA_LINK_NETNSID : UInt16 := 37
abbrev IFLA_PHYS_PORT_NAME : UInt16 := 38
abbrev IFLA_PROTO_DOWN : UInt16 := 39
abbrev IFLA_GSO_MAX_SEGS : UInt16 := 40
abbrev IFLA_GSO_MAX_SIZE : UInt16 := 41
abbrev IFLA_XDP : UInt16 := 43
abbrev IFLA_EVENT : UInt16 := 44
abbrev IFLA_NEW_NETNSID : UInt16 := 45
abbrev IFLA_IF_NETNSID : UInt16 := 46
abbrev IFLA_CARRIER_UP_COUNT : UInt16 := 47
abbrev IFLA_CARRIER_DOWN_COUNT : UInt16 := 48
abbrev IFLA_NEW_IFINDEX : UInt16 := 49
abbrev IFLA_MIN_MTU : UInt16 := 50
abbrev IFLA_MAX_MTU : UInt16 := 51
abbrev IFLA_PROP_LIST : UInt16 := 52
abbrev IFLA_PERM_ADDRESS : UInt16 := 54
abbrev IFLA_PROTO_DOWN_REASON : UInt16 := 55
abbrev VETH_INFO_PEER : UInt16 := 1

/-! ## Values -/

mutual

/-- `LinkAttribute`. -/
inductive LinkAttribute where
  | vfInfoList (v : List LinkVfInfo)
  | vfPorts (v : List LinkVfPort)
  | portSelf (v : LinkVfPort)
  | physPortId (v : LinkPhysId)
  | physSwitchId (v : LinkPhysId)
  | xdp (v : List LinkXdp)
  | event (v : LinkEvent)
  | newNetnsId (v : Int32)
  | ifNetnsId (v : Int32)
  | carrierUpCount (v : UInt32)
  | carrierDownCount (v : UInt32)
  | newIfIndex (v : Int32)
  | linkInfo (v : List LinkInfo)
  | wireless (v : LinkWirelessEvent)
  | protoInfoBridge (v : List LinkProtoInfoBridge)
  | protoInfoInet6 (v : List LinkProtoInfoInet6)
  | protoInfoUnknown (v : DefaultNla)
  | propList (v : List LinkProp)
  | protoDownReason (v : List LinkProtocolDownReason)
  | address (v : Bytes)
  | broadcast (v : Bytes)
  | permAddress (v : Bytes)
  | ifName (v : String)
  | qdisc (v : String)
  | ifAlias (v : String)
  | physPortName (v : String)
  | mode (v : UInt8)
  | carrier (v : UInt8)
  | protoDown (v : UInt8)
  | mtu (v : UInt32)
  | link (v : UInt32)
  | controller (v : UInt32)
  | txQueueLen (v : UInt32)
  | netNsPid (v : UInt32)
  | numVf (v : UInt32)
  | group (v : UInt32)
  | netNsFd (v : Int32)
  | extMask (v : List LinkExtentMask)
  | promiscuity (v : UInt32)
  | numTxQueues (v : UInt32)
  | numRxQueues (v : UInt32)
  | carrierChanges (v : UInt32)
  | gsoMaxSegs (v : UInt32)
  | gsoMaxSize (v : UInt32)
  | minMtu (v : UInt32)
  | maxMtu (v : UInt32)
  | linkNetNsId (v : Int32)
  | operState (v : State)
  | stats (v : Stats)
  | stats64 (v : Stats64)
  | map (v : Map)
  | afSpecUnspec (v : List AfSpecUnspec)
  | afSpecBridge (v : List AfSpecBridge)
  | afSpecUnknown (v : Bytes)
  | other (v : DefaultNla)

/-- `LinkInfo`. -/
inductive LinkInfo where
  | xstats (v : LinkXstats)
  | infoKind (v : InfoKind)
  | data (v : InfoData)
  | portKind (v : InfoPortKind)
  | portData (v : InfoPortData)
  | other (v : DefaultNla)

/-- `InfoData`. -/
inductive InfoData where
  | bridge (v : List InfoBridge)
  | tun (v : List InfoTun)
  | vlan (v : List InfoVlan)
  | veth (v : InfoVeth)
  | vxlan (v : List InfoVxlan)
  | bond (v : List InfoBond)
  | ipVlan (v : List InfoIpVlan)
  | ipVtap (v : List InfoIpVtap)
  | macVlan (v : List InfoMacVlan)
  | macVtap (v : List InfoMacVtap)
  | greTap (v : List InfoGreTap)
  | greTap6 (v : List InfoGreTap6)
  | sitTun (v : List InfoSitTun)
  | greTun (v : List InfoGreTun)
  | greTun6 (v : List InfoGreTun6)
  | vti (v : List InfoVti)
  | vrf (v : List InfoVrf)
  | gtp (v : List InfoGtp)
  | ipoib (v : List InfoIpoib)
  | xfrm (v : List InfoXfrm)
  | macSec (v : List InfoMacSec)
  | hsr (v : List InfoHsr)
  | other (v : Bytes)

/-- `InfoVeth`: a peer is a link message. -/
inductive InfoVeth where
  | peer (v : Message LinkHeader LinkAttribute)
  | other (v : DefaultNla)

end

/-- `LinkMessage`. -/
abbrev LinkMessage := Message LinkHeader LinkAttribute

section

variable [PacketUtils]

/-! ## Sizes and emitters -/

def LinkAttribute.kind : LinkAttribute → UInt16
  | .vfInfoList _ => IFLA_VFINFO_LIST
  | .vfPorts _ => IFLA_VF_PORTS
  | .portSelf _ => IFLA_PORT_SELF
  | .physPortId _ => IFLA_PHYS_PORT_ID
  | .physSwitchId _ => IFLA_PHYS_SWITCH_ID
  | .linkInfo _ => IFLA_LINKINFO
  | .wireless _ => IFLA_WIRELESS
  | .protoInfoBridge _ | .protoInfoInet6 _ => IFLA_PROTINFO
  | .protoInfoUnknown attr => attr.kind
  | .xdp _ => IFLA_XDP
  | .event _ => IFLA_EVENT
  | .newNetnsId _ => IFLA_NEW_NETNSID
  | .ifNetnsId _ => IFLA_IF_NETNSID
  | .carrierUpCount _ => IFLA_CARRIER_UP_COUNT
  | .carrierDownCount _ => IFLA_CARRIER_DOWN_COUNT
  | .newIfIndex _ => IFLA_NEW_IFINDEX
  | .propList _ => IFLA_PROP_LIST ||| NLA_F_NESTED
  | .protoDownReason _ => IFLA_PROTO_DOWN_REASON
  | .address _ => IFLA_ADDRESS
  | .broadcast _ => IFLA_BROADCAST
  | .permAddress _ => IFLA_PERM_ADDRESS
  | .ifName _ => IFLA_IFNAME
  | .qdisc _ => IFLA_QDISC
  | .ifAlias _ => IFLA_IFALIAS
  | .physPortName _ => IFLA_PHYS_PORT_NAME
  | .mode _ => IFLA_LINKMODE
  | .carrier _ => IFLA_CARRIER
  | .protoDown _ => IFLA_PROTO_DOWN
  | .mtu _ => IFLA_MTU
  | .link _ => IFLA_LINK
  | .controller _ => IFLA_MASTER
  | .txQueueLen _ => IFLA_TXQLEN
  | .netNsPid _ => IFLA_NET_NS_PID
  | .numVf _ => IFLA_NUM_VF
  | .group _ => IFLA_GROUP
  | .netNsFd _ => IFLA_NET_NS_FD
  | .extMask _ => IFLA_EXT_MASK
  | .promiscuity _ => IFLA_PROMISCUITY
  | .numTxQueues _ => IFLA_NUM_TX_QUEUES
  | .numRxQueues _ => IFLA_NUM_RX_QUEUES
  | .carrierChanges _ => IFLA_CARRIER_CHANGES
  | .gsoMaxSegs _ => IFLA_GSO_MAX_SEGS
  | .gsoMaxSize _ => IFLA_GSO_MAX_SIZE
  | .minMtu _ => IFLA_MIN_MTU
  | .maxMtu _ => IFLA_MAX_MTU
  | .linkNetNsId _ => IFLA_LINK_NETNSID
  | .operState _ => IFLA_OPERSTATE
  | .map _ => IFLA_MAP
  | .stats _ => IFLA_STATS
  | .stats64 _ => IFLA_STATS64
  | .afSpecUnspec _ | .afSpecBridge _ | .afSpecUnknown _ => IFLA_AF_SPEC
  | .other attr => attr.kind

def LinkInfo.kind : LinkInfo → UInt16
  | .xstats _ => IFLA_INFO_XSTATS
  | .portKind _ => IFLA_INFO_PORT_KIND
  | .portData _ => IFLA_INFO_PORT_DATA
  | .infoKind _ => IFLA_INFO_KIND
  | .data _ => IFLA_INFO_DATA
  | .other nla => nla.kind

def InfoVeth.kind : InfoVeth → UInt16
  | .peer _ => VETH_INFO_PEER
  | .other attr => attr.kind

mutual

def LinkAttribute.valueLen : LinkAttribute → ℕ
  | .vfInfoList v => nlasLen (v.map LinkVfInfo.nla)
  | .vfPorts v => nlasLen (v.map LinkVfPort.nla)
  | .portSelf v => v.nla.bufferLen
  | .physPortId v => v.bufferLen
  | .physSwitchId v => v.bufferLen
  | .event _ => 4
  | .wireless v => v.bytes.length
  | .protoInfoBridge v => nlasLen (v.map UnnamedNla.nla)
  | .protoInfoInet6 v => nlasLen (v.map UnnamedNla.nla)
  | .protoDownReason v => nlasLen (v.map LinkProtocolDownReason.nla)
  | .address bytes | .broadcast bytes | .permAddress bytes | .afSpecUnknown bytes => bytes.length
  | .ifName string | .qdisc string | .ifAlias string | .physPortName string =>
    (utf8 string).length + 1
  | .mode _ | .carrier _ | .protoDown _ => 1
  | .mtu _ | .newNetnsId _ | .ifNetnsId _ | .link _ | .controller _ | .txQueueLen _ | .netNsPid _
  | .numVf _ | .group _ | .netNsFd _ | .extMask _ | .promiscuity _ | .numTxQueues _
  | .numRxQueues _ | .carrierChanges _ | .gsoMaxSegs _ | .gsoMaxSize _ | .linkNetNsId _
  | .minMtu _ | .carrierUpCount _ | .carrierDownCount _ | .newIfIndex _ | .maxMtu _ => 4
  | .operState _ => 1
  | .stats _ => Stats.codec.len
  | .stats64 _ => Stats64.codec.len
  | .map _ => Map.codec.len
  | .linkInfo nlas => LinkInfo.bufferLenSum nlas
  | .xdp nlas => nlasLen (nlas.map LinkXdp.nla)
  | .propList nlas => nlasLen (nlas.map LinkProp.nla)
  | .afSpecUnspec nlas => nlasLen (nlas.map AfSpecUnspec.nla)
  | .afSpecBridge nlas => nlasLen (nlas.map AfSpecBridge.nla)
  | .protoInfoUnknown attr => attr.valueLen
  | .other attr => attr.valueLen

def LinkInfo.valueLen : LinkInfo → ℕ
  | .xstats v => v.other.length
  | .infoKind nla => nla.valueLen
  | .data nla => nla.valueLen
  | .portKind nla => nla.valueLen
  | .portData nla => nla.valueLen
  | .other nla => nla.valueLen

def InfoData.valueLen : InfoData → ℕ
  | .bridge nlas => nlasLen (nlas.map InfoBridge.nla)
  | .tun nlas => nlasLen (nlas.map UnnamedNla.nla)
  | .vlan nlas => nlasLen (nlas.map InfoVlan.nla)
  | .veth msg => nlaAlign msg.valueLen + 4
  | .vxlan nlas => nlasLen (nlas.map InfoVxlan.nla)
  | .bond nlas => nlasLen (nlas.map InfoBond.nla)
  | .ipVlan nlas => nlasLen (nlas.map InfoIpVlan.nla)
  | .ipVtap nlas => nlasLen (nlas.map InfoIpVlan.nla)
  | .macVlan nlas => nlasLen (nlas.map InfoMacVlan.nla)
  | .macVtap nlas => nlasLen (nlas.map InfoMacVlan.nla)
  | .greTap nlas => nlasLen (nlas.map UnnamedNla.nla)
  | .greTap6 nlas => nlasLen (nlas.map UnnamedNla.nla)
  | .sitTun nlas => nlasLen (nlas.map UnnamedNla.nla)
  | .greTun nlas => nlasLen (nlas.map UnnamedNla.nla)
  | .greTun6 nlas => nlasLen (nlas.map UnnamedNla.nla)
  | .vti nlas => nlasLen (nlas.map UnnamedNla.nla)
  | .vrf nlas => nlasLen (nlas.map InfoVrf.nla)
  | .gtp nlas => nlasLen (nlas.map UnnamedNla.nla)
  | .ipoib nlas => nlasLen (nlas.map InfoIpoib.nla)
  | .xfrm nlas => nlasLen (nlas.map InfoXfrm.nla)
  | .macSec nlas => nlasLen (nlas.map InfoMacSec.nla)
  | .hsr nlas => nlasLen (nlas.map InfoHsr.nla)
  | .other v => v.length

def InfoVeth.valueLen : InfoVeth → ℕ
  | .peer message => LinkMessage.bufferLen message
  | .other attr => attr.valueLen

def LinkMessage.bufferLen : Message LinkHeader LinkAttribute → ℕ
  | ⟨_, attributes⟩ => LinkHeader.codec.len + LinkAttribute.bufferLenSum attributes

/-- The space a list of attributes takes. -/
def LinkAttribute.bufferLenSum : List LinkAttribute → ℕ
  | [] => 0
  | a :: as => nlaAlign a.valueLen + 4 + LinkAttribute.bufferLenSum as

/-- The space the list of `IFLA_LINKINFO` takes. -/
def LinkInfo.bufferLenSum : List LinkInfo → ℕ
  | [] => 0
  | a :: as => nlaAlign a.valueLen + 4 + LinkInfo.bufferLenSum as

end

mutual

def LinkAttribute.emitValue : LinkAttribute → Emitter
  | .vfInfoList v => emitNlas (v.map LinkVfInfo.nla)
  | .vfPorts v => emitNlas (v.map LinkVfPort.nla)
  | .portSelf v => emitNla v.nla
  | .physPortId v => v.emit
  | .physSwitchId v => v.emit
  | .event v => .put 0 (ne.u32 (LinkEvent.codec.toNum v))
  | .wireless v => .copy v.bytes
  | .protoInfoBridge v => emitNlas (v.map UnnamedNla.nla)
  | .protoInfoInet6 v => emitNlas (v.map UnnamedNla.nla)
  | .protoDownReason v => emitNlas (v.map LinkProtocolDownReason.nla)
  | .address bytes | .broadcast bytes | .permAddress bytes | .afSpecUnknown bytes => .copy bytes
  | .ifName string | .qdisc string | .ifAlias string | .physPortName string => emitStringNul string
  | .mode val | .carrier val | .protoDown val => .put 0 [val]
  | .mtu value | .link value | .controller value | .txQueueLen value | .netNsPid value
  | .numVf value | .group value | .promiscuity value | .numTxQueues value | .numRxQueues value
  | .carrierChanges value | .carrierUpCount value | .carrierDownCount value | .gsoMaxSegs value
  | .gsoMaxSize value | .minMtu value | .maxMtu value => .put 0 (ne.u32 value)
  | .extMask value => after (LinkExtentMask.toMask value 0) fun d => .put 0 (ne.u32 d)
  | .linkNetNsId v | .netNsFd v | .newNetnsId v | .newIfIndex v | .ifNetnsId v => .put 0 (ne.i32 v)
  | .stats nla => Stats.codec.emit nla
  | .map nla => Map.codec.emit nla
  | .stats64 nla => Stats64.codec.emit nla
  | .operState state => .put 0 [State.codec.toNum state]
  | .linkInfo nlas => emitNlas (LinkInfo.nlas nlas)
  | .xdp nlas => emitNlas (nlas.map LinkXdp.nla)
  | .propList nlas => emitNlas (nlas.map LinkProp.nla)
  | .afSpecUnspec nlas => emitNlas (nlas.map AfSpecUnspec.nla)
  | .afSpecBridge nlas => emitNlas (nlas.map AfSpecBridge.nla)
  | .protoInfoUnknown attr | .other attr => attr.emitValue

def LinkInfo.emitValue : LinkInfo → Emitter
  | .xstats v => .copy v.other
  | .infoKind nla => nla.emitValue
  | .data nla => nla.emitValue
  | .portKind nla => nla.emitValue
  | .portData nla => nla.emitValue
  | .other nla => nla.emitValue

def InfoData.emitValue : InfoData → Emitter
  | .bridge nlas => emitNlas (nlas.map InfoBridge.nla)
  | .tun nlas => emitNlas (nlas.map UnnamedNla.nla)
  | .vlan nlas => emitNlas (nlas.map InfoVlan.nla)
  | .veth msg => emitNla ⟨msg.valueLen, msg.kind, msg.emitValue⟩
  | .vxlan nlas => emitNlas (nlas.map InfoVxlan.nla)
  | .bond nlas => emitNlas (nlas.map InfoBond.nla)
  | .ipVlan nlas => emitNlas (nlas.map InfoIpVlan.nla)
  | .ipVtap nlas => emitNlas (nlas.map InfoIpVlan.nla)
  | .macVlan nlas => emitNlas (nlas.map InfoMacVlan.nla)
  | .macVtap nlas => emitNlas (nlas.map InfoMacVlan.nla)
  | .greTap nlas => emitNlas (nlas.map UnnamedNla.nla)
  | .greTap6 nlas => emitNlas (nlas.map UnnamedNla.nla)
  | .sitTun nlas => emitNlas (nlas.map UnnamedNla.nla)
  | .greTun nlas => emitNlas (nlas.map UnnamedNla.nla)
  | .greTun6 nlas => emitNlas (nlas.map UnnamedNla.nla)
  | .vti nlas => emitNlas (nlas.map UnnamedNla.nla)
  | .vrf nlas => emitNlas (nlas.map InfoVrf.nla)
  | .gtp nlas => emitNlas (nlas.map UnnamedNla.nla)
  | .ipoib nlas => emitNlas (nlas.map InfoIpoib.nla)
  | .xfrm nlas => emitNlas (nlas.map InfoXfrm.nla)
  | .macSec nlas => emitNlas (nlas.map InfoMacSec.nla)
  | .hsr nlas => emitNlas (nlas.map InfoHsr.nla)
  | .other v => .copy v

def InfoVeth.emitValue : InfoVeth → Emitter
  | .peer message => LinkMessage.emit message
  | .other attr => attr.emitValue

def LinkMessage.emit : Message LinkHeader LinkAttribute → Emitter
  | ⟨header, attributes⟩ => (LinkHeader.codec.emit header).andThen
      (onTail LinkHeader.codec.len (emitNlas (LinkAttribute.nlas attributes)))

/-- Attributes, as the attribute layer sees them. -/
def LinkAttribute.nlas : List LinkAttribute → List Nla
  | [] => []
  | a :: as => ⟨a.valueLen, a.kind, a.emitValue⟩ :: LinkAttribute.nlas as

/-- The list of `IFLA_LINKINFO`, as the attribute layer sees it. -/
def LinkInfo.nlas : List LinkInfo → List Nla
  | [] => []
  | a :: as => ⟨a.valueLen, a.kind, a.emitValue⟩ :: LinkInfo.nlas as

end

/-- The attribute, as the attribute layer sees it. -/
def LinkAttribute.nla (a : LinkAttribute) : Nla := ⟨a.valueLen, a.kind, a.emitValue⟩

/-- The attribute, as the attribute layer sees it. -/
def LinkInfo.nla (a : LinkInfo) : Nla := ⟨a.valueLen, a.kind, a.emitValue⟩

/-! ## Parsers

Each is given the parser of the level below. -/

/-- `InfoVeth::parse`. -/
def InfoVeth.parse (parsePeer : Bytes → Outcome LinkMessage) (buf : NlaBuffer) :
    Outcome InfoVeth := do
  let payload ← value buf
  let kind ← PacketUtils.kind buf
  select kind [
    (VETH_INFO_PEER, .peer <$> (parsePeer payload).context "failed to parse veth link info")]
    (.other <$> (defaultNla buf).context ("unknown NLA type " ++ toString kind))

/-- `InfoData::parse_with_param`: the kind of link decides. -/
def InfoData.parseWithParam (parsePeer : Bytes → Outcome LinkMessage) (payload : Bytes)
    (kind : InfoKind) : Outcome InfoData :=
  let err := "invalid IFLA_INFO_DATA for " ++ InfoKind.codec.toNum kind ++ " " ++ debug payload
  match kind with
  | .bridge => .bridge <$> parseEachWith err InfoBridge.parse payload
  | .vlan => .vlan <$> parseEachWith err InfoVlan.parse payload
  | .tun => .tun <$> parseEachWith err InfoTun.parse payload
  | .veth => .veth <$> do InfoVeth.parse parsePeer (← (newChecked payload).context err)
  | .vxlan => .vxlan <$> parseEachWith err InfoVxlan.parse payload
  | .bond => .bond <$> parseEachWith err InfoBond.parse payload
  | .ipVlan => .ipVlan <$> parseEachWith err InfoIpVlan.parse payload
  | .ipVtap => .ipVtap <$> parseEachWith err InfoIpVlan.parse payload
  | .macVlan => .macVlan <$> parseEachWith err InfoMacVlan.parse payload
  | .macVtap => .macVtap <$> parseEachWith err InfoMacVtap.parse payload
  | .greTap => .greTap <$> parseEachWith err InfoGreTap.parse payload
  | .greTap6 => .greTap6 <$> parseEachWith err InfoGreTap6.parse payload
  | .sitTun => .sitTun <$> parseEachWith err InfoSitTun.parse payload
  | .greTun => .greTun <$> parseEachWith err InfoGreTun.parse payload
  | .greTun6 => .greTun6 <$> parseEachWith err InfoGreTun6.parse payload
  | .vti => .vti <$> parseEachWith err InfoVti.parse payload
  | .vrf => .vrf <$> parseEachWith err InfoVrf.parse payload
  | .gtp => .gtp <$> parseEachWith err InfoGtp.parse payload
  | .ipoib => .ipoib <$> parseEachWith err InfoIpoib.parse payload
  | .xfrm => .xfrm <$> parseEachWith err InfoXfrm.parse payload
  | .macSec => .macSec <$> parseEachWith err InfoMacSec.parse payload
  | .hsr => .hsr <$> parseEachWith err InfoHsr.parse payload
  | _ => .ok (.other payload)

namespace LinkInfo

/-- What `VecLinkInfo::parse` remembers. -/
structure Memory where
  linkInfoKind : Option InfoKind := none
  linkInfoPortKind : Option InfoPortKind := none
deriving DecidableEq

/-- The turn of `VecLinkInfo::parse` for one attribute. -/
def step (parsePeer : Bytes → Outcome LinkMessage) (mem : Memory) (nla : NlaBuffer) :
    Outcome (Memory × LinkInfo) := do
  let kind ← PacketUtils.kind nla
  select kind [
    (IFLA_INFO_XSTATS,
      match mem.linkInfoKind with
      | some _ => do .ok (mem, .xstats ⟨← value nla⟩)
      | none => .fail "IFLA_INFO_XSTATS is not preceded by an IFLA_INFO_KIND"),
    (IFLA_INFO_PORT_KIND, do
      let parsed ← InfoPortKind.parse nla
      .ok ({ mem with linkInfoPortKind := some parsed }, .portKind parsed)),
    (IFLA_INFO_PORT_DATA,
      match mem.linkInfoPortKind with
      | some port => do
        let parsed ← InfoPortData.parseWithParam (← value nla) port
        .ok ({ mem with linkInfoPortKind := none }, .portData parsed)
      | none => .fail "IFLA_INFO_PORT_DATA is not preceded by an IFLA_INFO_PORT_KIND"),
    (IFLA_INFO_KIND, do
      let parsed ← InfoKind.parse nla
      .ok ({ mem with linkInfoKind := some parsed }, .infoKind parsed)),
    (IFLA_INFO_DATA,
      match mem.linkInfoKind with
      | some link => do
        let parsed ← InfoData.parseWithParam parsePeer (← value nla) link
        .ok (mem, .data parsed)
      | none => .fail "IFLA_INFO_DATA is not preceded by an IFLA_INFO_KIND")]
    (do
      let parsed ← (defaultNla nla).context
        ("Unknown NLA type for IFLA_INFO_DATA NlaBuffer \x7b buffer: " ++ debug nla.buffer ++
          " \x7d")
      .ok (mem, .other parsed))

/-- `VecLinkInfo::parse`. -/
def parseVec (parsePeer : Bytes → Outcome LinkMessage) (payload : Bytes) :
    Outcome (List LinkInfo) :=
  forEachFrom (fun mem nla => do step parsePeer mem (← nla)) {} (PacketUtils.nlas payload)

end LinkInfo

namespace LinkAttribute

/-- `IFLA_PROTINFO`: the family decides. -/
def parseProtoInfo (interfaceFamily : AddressFamily) (buf : NlaBuffer) (payload : Bytes) :
    Outcome LinkAttribute :=
  match interfaceFamily with
  | .inet6 => .protoInfoInet6 <$> (LinkProtoInfoInet6.parseVec ⟨payload⟩).context
      ("invalid IFLA_PROTINFO for AF_INET6 " ++ debug payload)
  | .bridge => .protoInfoBridge <$> (LinkProtoInfoBridge.parseVec ⟨payload⟩).context
      ("invalid IFLA_PROTINFO for AF_INET6 " ++ debug payload)
  | _ => .protoInfoUnknown <$> (defaultNla buf).context
      ("invalid IFLA_PROTINFO for " ++ interfaceFamily.debugName ++ ": " ++ debug payload)

/-- `IFLA_AF_SPEC`: the family decides. -/
def parseAfSpec (interfaceFamily : AddressFamily) (payload : Bytes) : Outcome LinkAttribute :=
  match interfaceFamily with
  | .unspec => .afSpecUnspec <$>
      (AfSpecUnspec.parseVec payload).context "invalid IFLA_AF_SPEC value for AF_UNSPEC"
  | .bridge => .afSpecBridge <$>
      (AfSpecBridge.parseVec payload).context "invalid IFLA_AF_SPEC value for AF_BRIDGE"
  | _ => .ok (.afSpecUnknown payload)

/-- The arms of the parser. -/
def arms (parseInfos : Bytes → Outcome (List LinkInfo)) (interfaceFamily : AddressFamily)
    (buf : NlaBuffer) (payload : Bytes) : List (UInt16 × Outcome LinkAttribute) := [
  (IFLA_VFINFO_LIST,
    .vfInfoList <$>
      (LinkVfInfo.parseVec ⟨payload⟩).context ("invalid IFLA_VFINFO_LIST " ++ debug payload)),
  (IFLA_VF_PORTS,
    .vfPorts <$>
      (LinkVfPort.parseVec ⟨payload⟩).context ("invalid IFLA_VF_PORTS " ++ debug payload)),
  (IFLA_PORT_SELF,
    .portSelf <$>
      (LinkVfPort.parse ⟨payload⟩).context ("invalid IFLA_PORT_SELF " ++ debug payload)),
  (IFLA_PHYS_PORT_ID,
    .physPortId <$>
      (LinkPhysId.parse payload).context ("invalid IFLA_PHYS_PORT_ID value " ++ debug payload)),
  (IFLA_PHYS_SWITCH_ID,
    .physSwitchId <$> (LinkPhysId.parse payload).context
      ("invalid IFLA_PHYS_SWITCH_ID value " ++ debug payload)),
  (IFLA_WIRELESS, .ok (.wireless ⟨payload⟩)),
  (IFLA_PROTINFO, parseProtoInfo interfaceFamily buf payload),
  (IFLA_EVENT,
    .event <$> (LinkEvent.parse payload).context ("invalid IFLA_EVENT " ++ debug payload)),
  (IFLA_NEW_NETNSID,
    .newNetnsId <$> (parseI32 payload).context "invalid IFLA_NEW_NETNSID value"),
  (IFLA_IF_NETNSID, .ifNetnsId <$> (parseI32 payload).context "invalid IFLA_IF_NETNSID value"),
  (IFLA_CARRIER_UP_COUNT,
    .carrierUpCount <$> (parseU32 payload).context "invalid IFLA_CARRIER_UP_COUNT value"),
  (IFLA_CARRIER_DOWN_COUNT,
    .carrierDownCount <$> (parseU32 payload).context "invalid IFLA_CARRIER_DOWN_COUNT value"),
  (IFLA_NEW_IFINDEX,
    .newIfIndex <$> (parseI32 payload).context "invalid IFLA_NEW_IFINDEX value"),
  (IFLA_PROP_LIST,
    .propList <$>
      parseNlas "invalid IFLA_PROP_LIST value" "invalid IFLA_PROP_LIST value" LinkProp.parse
        payload),
  (IFLA_PROTO_DOWN_REASON,
    .protoDownReason <$>
      parseEachWith "invalid IFLA_PROTO_DOWN_REASON value" LinkProtocolDownReason.parse payload),
  (IFLA_ADDRESS, .ok (.address payload)),
  (IFLA_BROADCAST, .ok (.broadcast payload)),
  (IFLA_PERM_ADDRESS, .ok (.permAddress payload)),
  (IFLA_IFNAME, .ifName <$> (parseString payload).context "invalid IFLA_IFNAME value"),
  (IFLA_QDISC, .qdisc <$> (parseString payload).context "invalid IFLA_QDISC value"),
  (IFLA_IFALIAS, .ifAlias <$> (parseString payload).context "invalid IFLA_IFALIAS value"),
  (IFLA_PHYS_PORT_NAME,
    .physPortName <$> (parseString payload).context "invalid IFLA_PHYS_PORT_NAME value"),
  (IFLA_LINKMODE, .mode <$> (parseU8 payload).context "invalid IFLA_LINKMODE value"),
  (IFLA_CARRIER, .carrier <$> (parseU8 payload).context "invalid IFLA_CARRIER value"),
  (IFLA_PROTO_DOWN, .protoDown <$> (parseU8 payload).context "invalid IFLA_PROTO_DOWN value"),
  (IFLA_MTU, .mtu <$> (parseU32 payload).context "invalid IFLA_MTU value"),
  (IFLA_LINK, .link <$> (parseU32 payload).context "invalid IFLA_LINK value"),
  (IFLA_MASTER, .controller <$> (parseU32 payload).context "invalid IFLA_MASTER value"),
  (IFLA_TXQLEN, .txQueueLen <$> (parseU32 payload).context "invalid IFLA_TXQLEN value"),
  (IFLA_NET_NS_PID, .netNsPid <$> (parseU32 payload).context "invalid IFLA_NET_NS_PID value"),
  (IFLA_NUM_VF, .numVf <$> (parseU32 payload).context "invalid IFLA_NUM_VF value"),
  (IFLA_GROUP, .group <$> (parseU32 payload).context "invalid IFLA_GROUP value"),
  (IFLA_NET_NS_FD, .netNsFd <$> (parseI32 payload).context "invalid IFLA_NET_NS_FD value"),
  (IFLA_EXT_MASK,
    .extMask <$> do
      LinkExtentMask.ofMask (← (parseU32 payload).context "invalid IFLA_EXT_MASK value")),
  (IFLA_PROMISCUITY,
    .promiscuity <$> (parseU32 payload).context "invalid IFLA_PROMISCUITY value"),
  (IFLA_NUM_TX_QUEUES,
    .numTxQueues <$> (parseU32 payload).context "invalid IFLA_NUM_TX_QUEUES value"),
  (IFLA_NUM_RX_QUEUES,
    .numRxQueues <$> (parseU32 payload).context "invalid IFLA_NUM_RX_QUEUES value"),
  (IFLA_CARRIER_CHANGES,
    .carrierChanges <$> (parseU32 payload).context "invalid IFLA_CARRIER_CHANGES value"),
  (IFLA_GSO_MAX_SEGS,
    .gsoMaxSegs <$> (parseU32 payload).context "invalid IFLA_GSO_MAX_SEGS value"),
  (IFLA_GSO_MAX_SIZE,
    .gsoMaxSize <$> (parseU32 payload).context "invalid IFLA_GSO_MAX_SIZE value"),
  (IFLA_MIN_MTU, .minMtu <$> (parseU32 payload).context "invalid IFLA_MIN_MTU value"),
  (IFLA_MAX_MTU, .maxMtu <$> (parseU32 payload).context "invalid IFLA_MAX_MTU value"),
  (IFLA_LINK_NETNSID,
    .linkNetNsId <$> (parseI32 payload).context "invalid IFLA_LINK_NETNSID value"),
  (IFLA_OPERSTATE,
    (.operState ∘ State.codec.ofNum) <$>
      (parseU8 payload).context "invalid IFLA_OPERSTATE value"),
  (IFLA_MAP,
    .map <$> (Map.codec.parse payload).context ("Invalid IFLA_MAP value " ++ debug payload)),
  (IFLA_STATS,
    .stats <$>
      (Stats.codec.parseExpanded payload).context ("Invalid IFLA_STATS value " ++ debug payload)),
  (IFLA_STATS64,
    .stats64 <$> (Stats64.codec.parseExpanded payload).context
      ("Invalid IFLA_STATS64 value " ++ debug (expandBufferIfSmall payload Stats64.codec.len))),
  (IFLA_AF_SPEC, parseAfSpec interfaceFamily payload),
  (IFLA_LINKINFO,
    .linkInfo <$> (parseInfos payload).context "invalid IFLA_LINKINFO value"),
  (IFLA_XDP,
    .xdp <$> do
      let buf ← (newChecked payload).context "invalid IFLA_XDP value"
      (LinkXdp.parseVec buf).context "invalid IFLA_XDP value")]

/-- `LinkAttribute::parse_with_param`, over the parser of `IFLA_LINKINFO`. -/
def parseOver (parseInfos : Bytes → Outcome (List LinkInfo)) (interfaceFamily : AddressFamily)
    (buf : NlaBuffer) : Outcome LinkAttribute := do
  let payload ← value buf
  let kind ← PacketUtils.kind buf
  select kind (arms parseInfos interfaceFamily buf payload)
    (.other <$> (defaultNla buf).context ("unknown NLA type " ++ toString kind))

end LinkAttribute

namespace LinkMessage

/-- What makes a link message, over the parser of `IFLA_LINKINFO`. -/
def formatOver (parseInfos : Bytes → Outcome (List LinkInfo)) :
    MessageFormat LinkHeader LinkAttribute where
  buffer := "LinkMessageBuffer"
  header := LinkHeader.codec
  nla := LinkAttribute.nla
  parseAttributes header := parseEach (LinkAttribute.parseOver parseInfos header.interfaceFamily)
  headerErr := some "failed to parse link message header"
  attributesErr := some "failed to parse link message NLAs"

/-- The decoder with the levels that are left. -/
def parseAt : ℕ → Bytes → Outcome LinkMessage
  | 0 => fun _ => .panic
  | depth + 1 => (formatOver (LinkInfo.parseVec (parseAt depth))).decode

/-- `LinkMessageBuffer::new_checked`, then `LinkMessage::parse`. -/
def decode (b : Bytes) : Outcome LinkMessage := parseAt (b.length + 1) b

end LinkMessage

/-- `VecLinkInfo::parse`, with all levels below it. -/
def VecLinkInfo.parse (payload : Bytes) : Outcome (List LinkInfo) :=
  LinkInfo.parseVec LinkMessage.decode payload

/-- `LinkAttribute::parse_with_param`. -/
def LinkAttribute.parseWithParam (interfaceFamily : AddressFamily) (buf : NlaBuffer) :
    Outcome LinkAttribute :=
  LinkAttribute.parseOver VecLinkInfo.parse interfaceFamily buf

/-- What makes a link message. -/
def LinkMessage.format : MessageFormat LinkHeader LinkAttribute :=
  LinkMessage.formatOver VecLinkInfo.parse

end

end NetlinkRoute
