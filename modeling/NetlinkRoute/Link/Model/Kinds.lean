import NetlinkRoute.Link.Model.Sriov
import NetlinkRoute.Family
/-!
# Link — the other kinds of links

The attributes of `IFLA_INFO_DATA` for VLANs, VXLANs, MAC VLANs, MACsec,
HSR, IP VLANs, InfiniBand, VRFs, XFRM, and for the kinds whose attributes
have no names yet. Those of a MAC VLAN nest in themselves.
-/

namespace NetlinkRoute

open PacketUtils Emitter

section

variable [PacketUtils]

/-- Two values of `w` bytes each, and nothing else. -/
def parsePair {α : Type} (parse : Bytes → Outcome α) (w : ℕ) (err errFst errSnd : String)
    (payload : Bytes) : Outcome (α × α) :=
  if payload.length ≠ 2 * w then .fail err
  else do
    let a ← (parse (← slice payload 0 w)).context errFst
    let b ← (parse (← sliceFrom payload w)).context errSnd
    .ok (a, b)

/-! ## VLANs -/

abbrev IFLA_VLAN_QOS_MAPPING : UInt16 := 1

/-- `VlanQosMapping`. -/
inductive VlanQosMapping where
  | mapping (from_ to_ : UInt32)
  | other (v : DefaultNla)
deriving DecidableEq

namespace VlanQosMapping

def valueLen : VlanQosMapping → ℕ
  | .mapping _ _ => 8
  | .other nla => nla.valueLen

def kind : VlanQosMapping → UInt16
  | .mapping _ _ => IFLA_VLAN_QOS_MAPPING
  | .other nla => nla.kind

def emitValue : VlanQosMapping → Emitter
  | .mapping from_ to_ => fields [(0, ne.u32 from_), (4, ne.u32 to_)]
  | .other nla => nla.emitValue

/-- The attribute, as the attribute layer sees it. -/
def nla (a : VlanQosMapping) : Nla := ⟨a.valueLen, a.kind, a.emitValue⟩

def parse (buf : NlaBuffer) : Outcome VlanQosMapping := do
  let payload ← value buf
  let kind ← PacketUtils.kind buf
  select kind [
    (IFLA_VLAN_QOS_MAPPING,
      (fun v => .mapping v.1 v.2) <$> parsePair parseU32 4 "invalid IFLA_VLAN_QOS_MAPPING value"
        "expected u32 from value" "expected u32 to value" payload)]
    (.other <$> (defaultNla buf).context
      ("unknown NLA type " ++ toString kind ++ " for VLAN QoS mapping"))

/-- `parse_mappings`. -/
def parseMappings (payload : Bytes) : Outcome (List VlanQosMapping) := parseEach parse payload

end VlanQosMapping

abbrev IFLA_VLAN_ID : UInt16 := 1
abbrev IFLA_VLAN_FLAGS : UInt16 := 2
abbrev IFLA_VLAN_EGRESS_QOS : UInt16 := 3
abbrev IFLA_VLAN_INGRESS_QOS : UInt16 := 4
abbrev IFLA_VLAN_PROTOCOL : UInt16 := 5

/-- `InfoVlan`. -/
inductive InfoVlan where
  | id (v : UInt16)
  | flags (v : (UInt32 × UInt32))
  | egressQos (v : List VlanQosMapping)
  | ingressQos (v : List VlanQosMapping)
  | protocol (v : VlanProtocol)
  | other (v : DefaultNla)
deriving DecidableEq

namespace InfoVlan

def kind : InfoVlan → UInt16
  | .id _ => IFLA_VLAN_ID
  | .flags _ => IFLA_VLAN_FLAGS
  | .egressQos _ => IFLA_VLAN_EGRESS_QOS
  | .ingressQos _ => IFLA_VLAN_INGRESS_QOS
  | .protocol _ => IFLA_VLAN_PROTOCOL
  | .other v => v.kind

def valueLen : InfoVlan → ℕ
  | .id _ | .protocol _ => 2
  | .flags _ => 8
  | .egressQos mappings | .ingressQos mappings => nlasLen (mappings.map VlanQosMapping.nla)
  | .other v => v.valueLen

def emitValue : InfoVlan → Emitter
  | .egressQos mappings | .ingressQos mappings => emitNlas (mappings.map VlanQosMapping.nla)
  | .id value => .put 0 (ne.u16 value)
  | .protocol value => .put 0 (be.u16 value.toNum)
  | .flags v => fields [(0, ne.u32 v.1), (4, ne.u32 v.2)]
  | .other v => v.emitValue

/-- The attribute, as the attribute layer sees it. -/
def nla (a : InfoVlan) : Nla := ⟨a.valueLen, a.kind, a.emitValue⟩

def parse (buf : NlaBuffer) : Outcome InfoVlan := do
  let payload ← value buf
  let kind ← PacketUtils.kind buf
  select kind [
    (IFLA_VLAN_ID, .id <$> (parseU16 payload).context "invalid IFLA_VLAN_ID value"),
    (IFLA_VLAN_FLAGS,
      .flags <$> parsePair parseU32 4 "invalid IFLA_VLAN_FLAGS value"
        "invalid IFLA_VLAN_FLAGS value" "invalid IFLA_VLAN_FLAGS value" payload),
    (IFLA_VLAN_EGRESS_QOS,
      .egressQos <$>
        (VlanQosMapping.parseMappings payload).context "failed to parse IFLA_VLAN_EGRESS_QOS"),
    (IFLA_VLAN_INGRESS_QOS,
      .ingressQos <$>
        (VlanQosMapping.parseMappings payload).context "failed to parse IFLA_VLAN_INGRESS_QOS"),
    (IFLA_VLAN_PROTOCOL,
      (.protocol ∘ VlanProtocol.ofNum) <$>
        (parseU16Be payload).context "invalid IFLA_VLAN_PROTOCOL value")]
    (.other <$>
      (defaultNla buf).context ("invalid NLA for " ++ toString kind ++ ": " ++ debug payload))

end InfoVlan

/-! ## VXLANs -/

abbrev IFLA_VXLAN_ID : UInt16 := 1
abbrev IFLA_VXLAN_GROUP : UInt16 := 2
abbrev IFLA_VXLAN_LINK : UInt16 := 3
abbrev IFLA_VXLAN_LOCAL : UInt16 := 4
abbrev IFLA_VXLAN_TTL : UInt16 := 5
abbrev IFLA_VXLAN_TOS : UInt16 := 6
abbrev IFLA_VXLAN_LEARNING : UInt16 := 7
abbrev IFLA_VXLAN_AGEING : UInt16 := 8
abbrev IFLA_VXLAN_LIMIT : UInt16 := 9
abbrev IFLA_VXLAN_PORT_RANGE : UInt16 := 10
abbrev IFLA_VXLAN_PROXY : UInt16 := 11
abbrev IFLA_VXLAN_RSC : UInt16 := 12
abbrev IFLA_VXLAN_L2MISS : UInt16 := 13
abbrev IFLA_VXLAN_L3MISS : UInt16 := 14
abbrev IFLA_VXLAN_PORT : UInt16 := 15
abbrev IFLA_VXLAN_GROUP6 : UInt16 := 16
abbrev IFLA_VXLAN_LOCAL6 : UInt16 := 17
abbrev IFLA_VXLAN_UDP_CSUM : UInt16 := 18
abbrev IFLA_VXLAN_UDP_ZERO_CSUM6_TX : UInt16 := 19
abbrev IFLA_VXLAN_UDP_ZERO_CSUM6_RX : UInt16 := 20
abbrev IFLA_VXLAN_REMCSUM_TX : UInt16 := 21
abbrev IFLA_VXLAN_REMCSUM_RX : UInt16 := 22
abbrev IFLA_VXLAN_GBP : UInt16 := 23
abbrev IFLA_VXLAN_REMCSUM_NOPARTIAL : UInt16 := 24
abbrev IFLA_VXLAN_COLLECT_METADATA : UInt16 := 25
abbrev IFLA_VXLAN_LABEL : UInt16 := 26
abbrev IFLA_VXLAN_GPE : UInt16 := 27
abbrev IFLA_VXLAN_TTL_INHERIT : UInt16 := 28
abbrev IFLA_VXLAN_DF : UInt16 := 29
abbrev IFLA_VXLAN_VNIFILTER : UInt16 := 30
abbrev IFLA_VXLAN_LOCALBYPASS : UInt16 := 31

/-- `InfoVxlan`. -/
inductive InfoVxlan where
  | id (v : UInt32)
  | group (v : Bytes)
  | group6 (v : Bytes)
  | link (v : UInt32)
  | local_ (v : Bytes)
  | local6 (v : Bytes)
  | tos (v : UInt8)
  | ttl (v : UInt8)
  | label (v : UInt32)
  | learning (v : Bool)
  | ageing (v : UInt32)
  | limit (v : UInt32)
  | portRange (v : (UInt16 × UInt16))
  | proxy (v : Bool)
  | rsc (v : Bool)
  | l2Miss (v : Bool)
  | l3Miss (v : Bool)
  | collectMetadata (v : Bool)
  | port (v : UInt16)
  | uDPCsum (v : Bool)
  | uDPZeroCsumTX (v : Bool)
  | uDPZeroCsumRX (v : Bool)
  | remCsumTX (v : Bool)
  | remCsumRX (v : Bool)
  | gbp (v : Bool)
  | gpe (v : Bool)
  | remCsumNoPartial (v : Bool)
  | ttlInherit (v : Bool)
  | df (v : UInt8)
  | vnifilter (v : Bool)
  | localbypass (v : Bool)
  | other (v : DefaultNla)
deriving DecidableEq

namespace InfoVxlan

def kind : InfoVxlan → UInt16
  | .id _ => IFLA_VXLAN_ID
  | .group _ => IFLA_VXLAN_GROUP
  | .group6 _ => IFLA_VXLAN_GROUP6
  | .link _ => IFLA_VXLAN_LINK
  | .local_ _ => IFLA_VXLAN_LOCAL
  | .local6 _ => IFLA_VXLAN_LOCAL6
  | .tos _ => IFLA_VXLAN_TOS
  | .ttl _ => IFLA_VXLAN_TTL
  | .label _ => IFLA_VXLAN_LABEL
  | .learning _ => IFLA_VXLAN_LEARNING
  | .ageing _ => IFLA_VXLAN_AGEING
  | .limit _ => IFLA_VXLAN_LIMIT
  | .portRange _ => IFLA_VXLAN_PORT_RANGE
  | .proxy _ => IFLA_VXLAN_PROXY
  | .rsc _ => IFLA_VXLAN_RSC
  | .l2Miss _ => IFLA_VXLAN_L2MISS
  | .l3Miss _ => IFLA_VXLAN_L3MISS
  | .collectMetadata _ => IFLA_VXLAN_COLLECT_METADATA
  | .port _ => IFLA_VXLAN_PORT
  | .uDPCsum _ => IFLA_VXLAN_UDP_CSUM
  | .uDPZeroCsumTX _ => IFLA_VXLAN_UDP_ZERO_CSUM6_TX
  | .uDPZeroCsumRX _ => IFLA_VXLAN_UDP_ZERO_CSUM6_RX
  | .remCsumTX _ => IFLA_VXLAN_REMCSUM_TX
  | .remCsumRX _ => IFLA_VXLAN_REMCSUM_RX
  | .gbp _ => IFLA_VXLAN_GBP
  | .gpe _ => IFLA_VXLAN_GPE
  | .remCsumNoPartial _ => IFLA_VXLAN_REMCSUM_NOPARTIAL
  | .ttlInherit _ => IFLA_VXLAN_TTL_INHERIT
  | .df _ => IFLA_VXLAN_DF
  | .vnifilter _ => IFLA_VXLAN_VNIFILTER
  | .localbypass _ => IFLA_VXLAN_LOCALBYPASS
  | .other nla => nla.kind

def valueLen : InfoVxlan → ℕ
  | .tos _ | .ttl _ | .learning _ | .proxy _ | .rsc _ | .l2Miss _ | .l3Miss _ | .collectMetadata _
  | .uDPCsum _ | .uDPZeroCsumTX _ | .uDPZeroCsumRX _ | .remCsumTX _ | .remCsumRX _ | .ttlInherit _
  | .df _ | .vnifilter _ | .localbypass _ => 1
  | .gbp _ | .gpe _ | .remCsumNoPartial _ => 0
  | .port _ => 2
  | .id _ | .label _ | .link _ | .ageing _ | .limit _ | .portRange _ => 4
  | .local_ bytes | .local6 bytes | .group bytes | .group6 bytes => bytes.length
  | .other nla => nla.valueLen

def emitValue : InfoVxlan → Emitter
  | .id value | .label value | .link value | .ageing value | .limit value => .put 0 (ne.u32 value)
  | .gbp _ | .gpe _ | .remCsumNoPartial _ => .skip
  | .tos value | .ttl value | .df value => .put 0 [value]
  | .vnifilter value | .localbypass value | .learning value | .proxy value | .rsc value
  | .l2Miss value | .l3Miss value | .collectMetadata value | .uDPCsum value | .uDPZeroCsumTX value
  | .uDPZeroCsumRX value | .remCsumTX value | .remCsumRX value | .ttlInherit value =>
    .put 0 [value.toUInt8]
  | .local_ value | .group value | .group6 value | .local6 value => .copy value
  | .port value => .put 0 (be.u16 value)
  | .portRange range => fields [(0, be.u16 range.1), (2, be.u16 range.2)]
  | .other nla => nla.emitValue

/-- The attribute, as the attribute layer sees it. -/
def nla (a : InfoVxlan) : Nla := ⟨a.valueLen, a.kind, a.emitValue⟩

def parse (buf : NlaBuffer) : Outcome InfoVxlan := do
  let payload ← value buf
  let kind ← PacketUtils.kind buf
  select kind [
    (IFLA_VXLAN_ID, .id <$> (parseU32 payload).context "invalid IFLA_VXLAN_ID value"),
    (IFLA_VXLAN_GROUP, .ok (.group payload)),
    (IFLA_VXLAN_GROUP6, .ok (.group6 payload)),
    (IFLA_VXLAN_LINK, .link <$> (parseU32 payload).context "invalid IFLA_VXLAN_LINK value"),
    (IFLA_VXLAN_LOCAL, .ok (.local_ payload)),
    (IFLA_VXLAN_LOCAL6, .ok (.local6 payload)),
    (IFLA_VXLAN_TOS, .tos <$> (parseU8 payload).context "invalid IFLA_VXLAN_TOS value"),
    (IFLA_VXLAN_TTL, .ttl <$> (parseU8 payload).context "invalid IFLA_VXLAN_TTL value"),
    (IFLA_VXLAN_LABEL, .label <$> (parseU32 payload).context "invalid IFLA_VXLAN_LABEL value"),
    (IFLA_VXLAN_LEARNING,
      (fun v => .learning (decide (v > 0))) <$>
        (parseU8 payload).context "invalid IFLA_VXLAN_LEARNING value"),
    (IFLA_VXLAN_AGEING, .ageing <$> (parseU32 payload).context "invalid IFLA_VXLAN_AGEING value"),
    (IFLA_VXLAN_LIMIT, .limit <$> (parseU32 payload).context "invalid IFLA_VXLAN_LIMIT value"),
    (IFLA_VXLAN_PROXY,
      (fun v => .proxy (decide (v > 0))) <$>
        (parseU8 payload).context "invalid IFLA_VXLAN_PROXY value"),
    (IFLA_VXLAN_RSC,
      (fun v => .rsc (decide (v > 0))) <$>
        (parseU8 payload).context "invalid IFLA_VXLAN_RSC value"),
    (IFLA_VXLAN_L2MISS,
      (fun v => .l2Miss (decide (v > 0))) <$>
        (parseU8 payload).context "invalid IFLA_VXLAN_L2MISS value"),
    (IFLA_VXLAN_L3MISS,
      (fun v => .l3Miss (decide (v > 0))) <$>
        (parseU8 payload).context "invalid IFLA_VXLAN_L3MISS value"),
    (IFLA_VXLAN_COLLECT_METADATA,
      (fun v => .collectMetadata (decide (v > 0))) <$>
        (parseU8 payload).context "invalid IFLA_VXLAN_COLLECT_METADATA value"),
    (IFLA_VXLAN_PORT_RANGE,
      .portRange <$> parsePair parseU16Be 2 "invalid IFLA_VXLAN_PORT value"
        "invalid IFLA_VXLAN_PORT value" "invalid IFLA_VXLAN_PORT value" payload),
    (IFLA_VXLAN_PORT, .port <$> (parseU16Be payload).context "invalid IFLA_VXLAN_PORT value"),
    (IFLA_VXLAN_UDP_CSUM,
      (fun v => .uDPCsum (decide (v > 0))) <$>
        (parseU8 payload).context "invalid IFLA_VXLAN_UDP_CSUM value"),
    (IFLA_VXLAN_UDP_ZERO_CSUM6_TX,
      (fun v => .uDPZeroCsumTX (decide (v > 0))) <$>
        (parseU8 payload).context "invalid IFLA_VXLAN_UDP_ZERO_CSUM6_TX value"),
    (IFLA_VXLAN_UDP_ZERO_CSUM6_RX,
      (fun v => .uDPZeroCsumRX (decide (v > 0))) <$>
        (parseU8 payload).context "invalid IFLA_VXLAN_UDP_ZERO_CSUM6_RX value"),
    (IFLA_VXLAN_REMCSUM_TX,
      (fun v => .remCsumTX (decide (v > 0))) <$>
        (parseU8 payload).context "invalid IFLA_VXLAN_REMCSUM_TX value"),
    (IFLA_VXLAN_REMCSUM_RX,
      (fun v => .remCsumRX (decide (v > 0))) <$>
        (parseU8 payload).context "invalid IFLA_VXLAN_REMCSUM_RX value"),
    (IFLA_VXLAN_DF, .df <$> (parseU8 payload).context "invalid IFLA_VXLAN_DF value"),
    (IFLA_VXLAN_GBP, .ok (.gbp true)),
    (IFLA_VXLAN_GPE, .ok (.gpe true)),
    (IFLA_VXLAN_REMCSUM_NOPARTIAL, .ok (.remCsumNoPartial true)),
    (IFLA_VXLAN_TTL_INHERIT,
      (fun v => .ttlInherit (decide (v > 0))) <$>
        (parseU8 payload).context "invalid IFLA_VXLAN_TTL_INHERIT value"),
    (IFLA_VXLAN_VNIFILTER,
      (fun v => .vnifilter (decide (v > 0))) <$>
        (parseU8 payload).context "invalid IFLA_VXLAN_VNIFILTER value"),
    (IFLA_VXLAN_LOCALBYPASS,
      (fun v => .localbypass (decide (v > 0))) <$>
        (parseU8 payload).context "invalid IFLA_VXLAN_LOCALBYPASS value")]
    (.other <$> (defaultNla buf).context
      ("Failed to parse IFLA_INFO_DATA(vxlan) NLA type: " ++ toString kind ++ " as DefaultNla"))

end InfoVxlan

/-! ## MAC VLANs -/

abbrev MACVLAN_MODE_PRIVATE : UInt32 := 1
abbrev MACVLAN_MODE_VEPA : UInt32 := 2
abbrev MACVLAN_MODE_BRIDGE : UInt32 := 4
abbrev MACVLAN_MODE_PASSTHRU : UInt32 := 8
abbrev MACVLAN_MODE_SOURCE : UInt32 := 16

/-- `MacVlanMode`, and `MacVtapMode`. -/
inductive MacVlanMode where
  | private_ | vepa | bridge | passthrough | source | other (d : UInt32)
deriving DecidableEq

/-- The numbers of `MacVlanMode`. -/
def MacVlanMode.codec : EnumCodec UInt32 MacVlanMode where
  arms := [(MACVLAN_MODE_PRIVATE, .private_), (MACVLAN_MODE_VEPA, .vepa),
    (MACVLAN_MODE_BRIDGE, .bridge), (MACVLAN_MODE_PASSTHRU, .passthrough),
    (MACVLAN_MODE_SOURCE, .source)]
  other := .other
  toNum
    | .private_ => MACVLAN_MODE_PRIVATE | .vepa => MACVLAN_MODE_VEPA
    | .bridge => MACVLAN_MODE_BRIDGE | .passthrough => MACVLAN_MODE_PASSTHRU
    | .source => MACVLAN_MODE_SOURCE | .other d => d
  toNum_arm := by decide
  toNum_other _ := rfl

abbrev IFLA_MACVLAN_MODE : UInt16 := 1
abbrev IFLA_MACVLAN_FLAGS : UInt16 := 2
abbrev IFLA_MACVLAN_MACADDR_MODE : UInt16 := 3
abbrev IFLA_MACVLAN_MACADDR : UInt16 := 4
abbrev IFLA_MACVLAN_MACADDR_DATA : UInt16 := 5
abbrev IFLA_MACVLAN_MACADDR_COUNT : UInt16 := 6
abbrev IFLA_MACVLAN_BC_QUEUE_LEN : UInt16 := 7
abbrev IFLA_MACVLAN_BC_QUEUE_LEN_USED : UInt16 := 8
abbrev IFLA_MACVLAN_BC_CUTOFF : UInt16 := 9

/-- `InfoMacVlan`, and `InfoMacVtap`, which has the same variants. -/
inductive InfoMacVlan where
  | mode (v : MacVlanMode)
  | flags (v : UInt16)
  | macAddrMode (v : UInt32)
  | macAddr (v : Octets 6)
  | macAddrData (v : List InfoMacVlan)
  | macAddrCount (v : UInt32)
  | bcQueueLen (v : UInt32)
  | bcQueueLenUsed (v : UInt32)
  | bcCutoff (v : Int32)
  | other (v : DefaultNla)

namespace InfoMacVlan

def kind : InfoMacVlan → UInt16
  | .mode _ => IFLA_MACVLAN_MODE
  | .flags _ => IFLA_MACVLAN_FLAGS
  | .macAddrMode _ => IFLA_MACVLAN_MACADDR_MODE
  | .macAddr _ => IFLA_MACVLAN_MACADDR
  | .macAddrData _ => IFLA_MACVLAN_MACADDR_DATA
  | .macAddrCount _ => IFLA_MACVLAN_MACADDR_COUNT
  | .bcQueueLen _ => IFLA_MACVLAN_BC_QUEUE_LEN
  | .bcQueueLenUsed _ => IFLA_MACVLAN_BC_QUEUE_LEN_USED
  | .bcCutoff _ => IFLA_MACVLAN_BC_CUTOFF
  | .other nla => nla.kind

mutual

def valueLen : InfoMacVlan → ℕ
  | .mode _ => 4
  | .flags _ => 2
  | .macAddrMode _ => 4
  | .macAddr _ => 6
  | .macAddrData nlas => bufferLenSum nlas
  | .macAddrCount _ => 4
  | .bcQueueLen _ => 4
  | .bcQueueLenUsed _ => 4
  | .bcCutoff _ => 4
  | .other nla => nla.valueLen

/-- The space a list of attributes takes. -/
def bufferLenSum : List InfoMacVlan → ℕ
  | [] => 0
  | a :: as => nlaAlign a.valueLen + 4 + bufferLenSum as

end

mutual

def emitValue : InfoMacVlan → Emitter
  | .mode value => .put 0 (ne.u32 (MacVlanMode.codec.toNum value))
  | .flags value => .put 0 (ne.u16 value)
  | .macAddrMode value => .put 0 (ne.u32 value)
  | .macAddr bytes => .copy bytes.val
  | .macAddrData as => emitNlas (nlas as)
  | .macAddrCount value => .put 0 (ne.u32 value)
  | .bcQueueLen value => .put 0 (ne.u32 value)
  | .bcQueueLenUsed value => .put 0 (ne.u32 value)
  | .bcCutoff value => .put 0 (ne.i32 value)
  | .other nla => nla.emitValue

/-- Attributes, as the attribute layer sees them. -/
def nlas : List InfoMacVlan → List Nla
  | [] => []
  | a :: as => ⟨a.valueLen, a.kind, a.emitValue⟩ :: nlas as

end

/-- The attribute, as the attribute layer sees it. -/
def nla (a : InfoMacVlan) : Nla := ⟨a.valueLen, a.kind, a.emitValue⟩

/-- The parser, over the parser of the attributes one level down. The text
names the kind of link. -/
def parseOver (name : String) (parseData : NlaBuffer → Outcome InfoMacVlan) (buf : NlaBuffer) :
    Outcome InfoMacVlan := do
  let payload ← value buf
  let kind ← PacketUtils.kind buf
  select kind [
    (IFLA_MACVLAN_MODE,
      (.mode ∘ MacVlanMode.codec.ofNum) <$>
        (parseU32 payload).context "invalid IFLA_MACVLAN_MODE value"),
    (IFLA_MACVLAN_FLAGS,
      .flags <$> (parseU16 payload).context "invalid IFLA_MACVLAN_FLAGS value"),
    (IFLA_MACVLAN_MACADDR_MODE,
      .macAddrMode <$> (parseU32 payload).context "invalid IFLA_MACVLAN_MACADDR_MODE value"),
    (IFLA_MACVLAN_MACADDR,
      .macAddr <$> (parseMac payload).context "invalid IFLA_MACVLAN_MACADDR value"),
    (IFLA_MACVLAN_MACADDR_DATA,
      .macAddrData <$>
        parseNlas "failed to parse IFLA_MACVLAN_MACADDR_DATA"
          "failed to parse IFLA_MACVLAN_MACADDR_DATA" parseData payload),
    (IFLA_MACVLAN_MACADDR_COUNT,
      .macAddrCount <$> (parseU32 payload).context "invalid IFLA_MACVLAN_MACADDR_COUNT value"),
    (IFLA_MACVLAN_BC_QUEUE_LEN,
      .bcQueueLen <$> (parseU32 payload).context "invalid IFLA_MACVLAN_BC_QUEUE_LEN value"),
    (IFLA_MACVLAN_BC_QUEUE_LEN_USED,
      .bcQueueLenUsed <$>
        (parseU32 payload).context "invalid IFLA_MACVLAN_BC_QUEUE_LEN_USED value"),
    (IFLA_MACVLAN_BC_CUTOFF,
      .bcCutoff <$> (parseI32 payload).context "invalid IFLA_MACVLAN_BC_CUTOFF value")]
    (.other <$> (defaultNla buf).context
      ("unknown NLA type " ++ toString kind ++ " for IFLA_INFO_DATA(" ++ name ++ ")"))

/-- The parser with the levels that are left. -/
def parseAt (name : String) : ℕ → NlaBuffer → Outcome InfoMacVlan
  | 0 => fun _ => .panic
  | depth + 1 => parseOver name (parseAt name depth)

/-- `InfoMacVlan::parse`: no input has more levels than bytes. -/
def parse (buf : NlaBuffer) : Outcome InfoMacVlan := parseAt "mac_vlan" (buf.buffer.length + 1) buf

end InfoMacVlan

/-- `InfoMacVtap`. -/
abbrev InfoMacVtap := InfoMacVlan

/-- `InfoMacVtap::parse`. -/
def InfoMacVtap.parse (buf : NlaBuffer) : Outcome InfoMacVtap :=
  InfoMacVlan.parseAt "mac_vtap" (buf.buffer.length + 1) buf

/-! ## MACsec -/

abbrev MACSEC_DEFAULT_CIPHER_ID : UInt64 := 0x0080020001000001
abbrev MACSEC_CIPHER_ID_GCM_AES_128 : UInt64 := 0x0080C20001000001
abbrev MACSEC_CIPHER_ID_GCM_AES_256 : UInt64 := 0x0080C20001000002
abbrev MACSEC_CIPHER_ID_GCM_AES_XPN_128 : UInt64 := 0x0080C20001000003
abbrev MACSEC_CIPHER_ID_GCM_AES_XPN_256 : UInt64 := 0x0080C20001000004

/-- `MacSecCipherId`. -/
inductive MacSecCipherId where
  | defaultGcmAes128 | gcmAes128 | gcmAes256 | gcmAesXpn128 | gcmAesXpn256 | other (d : UInt64)
deriving DecidableEq

/-- The numbers of `MacSecCipherId`. -/
def MacSecCipherId.codec : EnumCodec UInt64 MacSecCipherId where
  arms := [(MACSEC_DEFAULT_CIPHER_ID, .defaultGcmAes128),
    (MACSEC_CIPHER_ID_GCM_AES_128, .gcmAes128), (MACSEC_CIPHER_ID_GCM_AES_256, .gcmAes256),
    (MACSEC_CIPHER_ID_GCM_AES_XPN_128, .gcmAesXpn128),
    (MACSEC_CIPHER_ID_GCM_AES_XPN_256, .gcmAesXpn256)]
  other := .other
  toNum
    | .defaultGcmAes128 => MACSEC_DEFAULT_CIPHER_ID | .gcmAes128 => MACSEC_CIPHER_ID_GCM_AES_128
    | .gcmAes256 => MACSEC_CIPHER_ID_GCM_AES_256
    | .gcmAesXpn128 => MACSEC_CIPHER_ID_GCM_AES_XPN_128
    | .gcmAesXpn256 => MACSEC_CIPHER_ID_GCM_AES_XPN_256 | .other d => d
  toNum_arm := by decide
  toNum_other _ := rfl

abbrev MACSEC_VALIDATE_DISABLED : UInt8 := 0
abbrev MACSEC_VALIDATE_CHECK : UInt8 := 1
abbrev MACSEC_VALIDATE_STRICT : UInt8 := 2

/-- `MacSecValidate`. -/
inductive MacSecValidate where
  | disabled | check | strict | other (d : UInt8)
deriving DecidableEq

/-- The numbers of `MacSecValidate`. -/
def MacSecValidate.codec : EnumCodec UInt8 MacSecValidate where
  arms := [(MACSEC_VALIDATE_DISABLED, .disabled), (MACSEC_VALIDATE_CHECK, .check),
    (MACSEC_VALIDATE_STRICT, .strict)]
  other := .other
  toNum
    | .disabled => MACSEC_VALIDATE_DISABLED | .check => MACSEC_VALIDATE_CHECK
    | .strict => MACSEC_VALIDATE_STRICT | .other d => d
  toNum_arm := by decide
  toNum_other _ := rfl

abbrev MACSEC_OFFLOAD_OFF : UInt8 := 0
abbrev MACSEC_OFFLOAD_PHY : UInt8 := 1
abbrev MACSEC_OFFLOAD_MAC : UInt8 := 2

/-- `MacSecOffload`. -/
inductive MacSecOffload where
  | off | phy | mac | other (d : UInt8)
deriving DecidableEq

/-- The numbers of `MacSecOffload`. -/
def MacSecOffload.codec : EnumCodec UInt8 MacSecOffload where
  arms := [(MACSEC_OFFLOAD_OFF, .off), (MACSEC_OFFLOAD_PHY, .phy), (MACSEC_OFFLOAD_MAC, .mac)]
  other := .other
  toNum
    | .off => MACSEC_OFFLOAD_OFF | .phy => MACSEC_OFFLOAD_PHY | .mac => MACSEC_OFFLOAD_MAC
    | .other d => d
  toNum_arm := by decide
  toNum_other _ := rfl

abbrev IFLA_MACSEC_SCI : UInt16 := 1
abbrev IFLA_MACSEC_PORT : UInt16 := 2
abbrev IFLA_MACSEC_ICV_LEN : UInt16 := 3
abbrev IFLA_MACSEC_CIPHER_SUITE : UInt16 := 4
abbrev IFLA_MACSEC_WINDOW : UInt16 := 5
abbrev IFLA_MACSEC_ENCODING_SA : UInt16 := 6
abbrev IFLA_MACSEC_ENCRYPT : UInt16 := 7
abbrev IFLA_MACSEC_PROTECT : UInt16 := 8
abbrev IFLA_MACSEC_INC_SCI : UInt16 := 9
abbrev IFLA_MACSEC_ES : UInt16 := 10
abbrev IFLA_MACSEC_SCB : UInt16 := 11
abbrev IFLA_MACSEC_REPLAY_PROTECT : UInt16 := 12
abbrev IFLA_MACSEC_VALIDATION : UInt16 := 13
abbrev IFLA_MACSEC_OFFLOAD : UInt16 := 15

/-- `InfoMacSec`. -/
inductive InfoMacSec where
  | sci (v : UInt64)
  | port (v : UInt16)
  | icvLen (v : UInt8)
  | cipherSuite (v : MacSecCipherId)
  | window (v : UInt32)
  | encodingSa (v : UInt8)
  | encrypt (v : UInt8)
  | protect (v : UInt8)
  | incSci (v : UInt8)
  | es (v : UInt8)
  | scb (v : UInt8)
  | replayProtect (v : UInt8)
  | validation (v : MacSecValidate)
  | offload (v : MacSecOffload)
  | other (v : DefaultNla)
deriving DecidableEq

namespace InfoMacSec

def kind : InfoMacSec → UInt16
  | .sci _ => IFLA_MACSEC_SCI
  | .port _ => IFLA_MACSEC_PORT
  | .icvLen _ => IFLA_MACSEC_ICV_LEN
  | .cipherSuite _ => IFLA_MACSEC_CIPHER_SUITE
  | .window _ => IFLA_MACSEC_WINDOW
  | .encodingSa _ => IFLA_MACSEC_ENCODING_SA
  | .encrypt _ => IFLA_MACSEC_ENCRYPT
  | .protect _ => IFLA_MACSEC_PROTECT
  | .incSci _ => IFLA_MACSEC_INC_SCI
  | .es _ => IFLA_MACSEC_ES
  | .scb _ => IFLA_MACSEC_SCB
  | .replayProtect _ => IFLA_MACSEC_REPLAY_PROTECT
  | .validation _ => IFLA_MACSEC_VALIDATION
  | .offload _ => IFLA_MACSEC_OFFLOAD
  | .other nla => nla.kind

def valueLen : InfoMacSec → ℕ
  | .sci _ | .cipherSuite _ => 8
  | .window _ => 4
  | .port _ => 2
  | .icvLen _ | .encodingSa _ | .encrypt _ | .protect _ | .incSci _ | .es _ | .scb _
  | .replayProtect _ | .validation _ | .offload _ => 1
  | .other nla => nla.valueLen

def emitValue : InfoMacSec → Emitter
  | .sci value => .put 0 (ne.u64 value)
  | .cipherSuite value => .put 0 (ne.u64 (MacSecCipherId.codec.toNum value))
  | .window value => .put 0 (ne.u32 value)
  | .port value => .put 0 (ne.u16 value)
  | .icvLen value | .encodingSa value | .encrypt value | .protect value | .incSci value
  | .es value | .scb value | .replayProtect value => .put 0 [value]
  | .offload value => .put 0 [MacSecOffload.codec.toNum value]
  | .validation value => .put 0 [MacSecValidate.codec.toNum value]
  | .other nla => nla.emitValue

/-- The attribute, as the attribute layer sees it. -/
def nla (a : InfoMacSec) : Nla := ⟨a.valueLen, a.kind, a.emitValue⟩

def parse (buf : NlaBuffer) : Outcome InfoMacSec := do
  let payload ← value buf
  let kind ← PacketUtils.kind buf
  select kind [
    (IFLA_MACSEC_SCI, .sci <$> (parseU64 payload).context "invalid IFLA_MACSEC_SCI value"),
    (IFLA_MACSEC_PORT, .port <$> (parseU16 payload).context "invalid IFLA_MACSEC_PORT value"),
    (IFLA_MACSEC_ICV_LEN,
      .icvLen <$> (parseU8 payload).context "invalid IFLA_MACSEC_ICV_LEN value"),
    (IFLA_MACSEC_CIPHER_SUITE,
      (.cipherSuite ∘ MacSecCipherId.codec.ofNum) <$>
        (parseU64 payload).context "invalid IFLA_MACSEC_CIPHER_SUITE value"),
    (IFLA_MACSEC_WINDOW,
      .window <$> (parseU32 payload).context "invalid IFLA_MACSEC_WINDOW value"),
    (IFLA_MACSEC_ENCODING_SA,
      .encodingSa <$> (parseU8 payload).context "invalid IFLA_MACSEC_ENCODING_SA value"),
    (IFLA_MACSEC_ENCRYPT,
      .encrypt <$> (parseU8 payload).context "invalid IFLA_MACSEC_ENCRYPT value"),
    (IFLA_MACSEC_PROTECT,
      .protect <$> (parseU8 payload).context "invalid IFLA_MACSEC_PROTECT value"),
    (IFLA_MACSEC_INC_SCI,
      .incSci <$> (parseU8 payload).context "invalid IFLA_MACSEC_INC_SCI value"),
    (IFLA_MACSEC_ES, .es <$> (parseU8 payload).context "invalid IFLA_MACSEC_ES value"),
    (IFLA_MACSEC_SCB, .scb <$> (parseU8 payload).context "invalid IFLA_MACSEC_SCB value"),
    (IFLA_MACSEC_REPLAY_PROTECT,
      .replayProtect <$> (parseU8 payload).context "invalid IFLA_MACSEC_REPLAY_PROTECT value"),
    (IFLA_MACSEC_VALIDATION,
      (.validation ∘ MacSecValidate.codec.ofNum) <$>
        (parseU8 payload).context "invalid IFLA_MACSEC_VALIDATION value"),
    (IFLA_MACSEC_OFFLOAD,
      (.offload ∘ MacSecOffload.codec.ofNum) <$>
        (parseU8 payload).context "invalid IFLA_MACSEC_OFFLOAD value")]
    (.other <$> (defaultNla buf).context ("unknown NLA type " ++ toString kind))

end InfoMacSec

/-! ## HSR -/

abbrev HSR_PROTOCOL_HSR : UInt8 := 0
abbrev HSR_PROTOCOL_PRP : UInt8 := 1

/-- `HsrProtocol`. -/
inductive HsrProtocol where
  | hsr | prp | other (d : UInt8)
deriving DecidableEq

/-- The numbers of `HsrProtocol`. -/
def HsrProtocol.codec : EnumCodec UInt8 HsrProtocol where
  arms := [(HSR_PROTOCOL_HSR, .hsr), (HSR_PROTOCOL_PRP, .prp)]
  other := .other
  toNum
    | .hsr => HSR_PROTOCOL_HSR | .prp => HSR_PROTOCOL_PRP | .other d => d
  toNum_arm := by decide
  toNum_other _ := rfl

abbrev IFLA_HSR_PORT1 : UInt16 := 1
abbrev IFLA_HSR_PORT2 : UInt16 := 2
abbrev IFLA_HSR_MULTICAST_SPEC : UInt16 := 3
abbrev IFLA_HSR_SUPERVISION_ADDR : UInt16 := 4
abbrev IFLA_HSR_SEQ_NR : UInt16 := 5
abbrev IFLA_HSR_VERSION : UInt16 := 6
abbrev IFLA_HSR_PROTOCOL : UInt16 := 7

/-- `InfoHsr`. -/
inductive InfoHsr where
  | port1 (v : UInt32)
  | port2 (v : UInt32)
  | multicastSpec (v : UInt8)
  | supervisionAddr (v : Octets 6)
  | version (v : UInt8)
  | seqNr (v : UInt16)
  | protocol (v : HsrProtocol)
  | other (v : DefaultNla)
deriving DecidableEq

namespace InfoHsr

def kind : InfoHsr → UInt16
  | .port1 _ => IFLA_HSR_PORT1
  | .port2 _ => IFLA_HSR_PORT2
  | .multicastSpec _ => IFLA_HSR_MULTICAST_SPEC
  | .supervisionAddr _ => IFLA_HSR_SUPERVISION_ADDR
  | .seqNr _ => IFLA_HSR_SEQ_NR
  | .version _ => IFLA_HSR_VERSION
  | .protocol _ => IFLA_HSR_PROTOCOL
  | .other nla => nla.kind

def valueLen : InfoHsr → ℕ
  | .supervisionAddr _ => 6
  | .port1 _ | .port2 _ => 4
  | .seqNr _ => 2
  | .multicastSpec _ | .version _ | .protocol _ => 1
  | .other nla => nla.valueLen

def emitValue : InfoHsr → Emitter
  | .port1 value | .port2 value => .put 0 (ne.u32 value)
  | .multicastSpec value | .version value => .put 0 [value]
  | .seqNr value => .put 0 (ne.u16 value)
  | .protocol value => .put 0 [HsrProtocol.codec.toNum value]
  | .supervisionAddr value => .copy value.val
  | .other nla => nla.emitValue

/-- The attribute, as the attribute layer sees it. -/
def nla (a : InfoHsr) : Nla := ⟨a.valueLen, a.kind, a.emitValue⟩

def parse (buf : NlaBuffer) : Outcome InfoHsr := do
  let payload ← value buf
  let kind ← PacketUtils.kind buf
  select kind [
    (IFLA_HSR_PORT1, .port1 <$> (parseU32 payload).context "invalid IFLA_HSR_PORT1 value"),
    (IFLA_HSR_PORT2, .port2 <$> (parseU32 payload).context "invalid IFLA_HSR_PORT2 value"),
    (IFLA_HSR_MULTICAST_SPEC,
      .multicastSpec <$> (parseU8 payload).context "invalid IFLA_HSR_MULTICAST_SPEC value"),
    (IFLA_HSR_SUPERVISION_ADDR,
      .supervisionAddr <$> (parseMac payload).context "invalid IFLA_HSR_SUPERVISION_ADDR value"),
    (IFLA_HSR_SEQ_NR, .seqNr <$> (parseU16 payload).context "invalid IFLA_HSR_SEQ_NR value"),
    (IFLA_HSR_VERSION, .version <$> (parseU8 payload).context "invalid IFLA_HSR_VERSION value"),
    (IFLA_HSR_PROTOCOL,
      (.protocol ∘ HsrProtocol.codec.ofNum) <$>
        (parseU8 payload).context "invalid IFLA_HSR_PROTOCOL value")]
    (.other <$> (defaultNla buf).context ("unknown NLA type " ++ toString kind))

end InfoHsr

/-! ## IP VLANs -/

abbrev IPVLAN_MODE_L2 : UInt16 := 0
abbrev IPVLAN_MODE_L3 : UInt16 := 1
abbrev IPVLAN_MODE_L3S : UInt16 := 2

/-- `IpVlanMode`, and `IpVtapMode`. -/
inductive IpVlanMode where
  | l2 | l3 | l3S | other (d : UInt16)
deriving DecidableEq

/-- The numbers of `IpVlanMode`. -/
def IpVlanMode.codec : EnumCodec UInt16 IpVlanMode where
  arms := [(IPVLAN_MODE_L2, .l2), (IPVLAN_MODE_L3, .l3), (IPVLAN_MODE_L3S, .l3S)]
  other := .other
  toNum
    | .l2 => IPVLAN_MODE_L2 | .l3 => IPVLAN_MODE_L3 | .l3S => IPVLAN_MODE_L3S | .other d => d
  toNum_arm := by decide
  toNum_other _ := rfl

abbrev IFLA_IPVLAN_MODE : UInt16 := 1
abbrev IFLA_IPVLAN_FLAGS : UInt16 := 2

/-- `InfoIpVlan`. -/
inductive InfoIpVlan where
  | mode (v : IpVlanMode)
  | flags (v : UInt16)
  | other (v : DefaultNla)
deriving DecidableEq

namespace InfoIpVlan

def kind : InfoIpVlan → UInt16
  | .mode _ => IFLA_IPVLAN_MODE
  | .flags _ => IFLA_IPVLAN_FLAGS
  | .other nla => nla.kind

def valueLen : InfoIpVlan → ℕ
  | .mode _ | .flags _ => 2
  | .other nla => nla.valueLen

def emitValue : InfoIpVlan → Emitter
  | .mode value => .put 0 (ne.u16 (IpVlanMode.codec.toNum value))
  | .flags value => .put 0 (ne.u16 value)
  | .other nla => nla.emitValue

/-- The attribute, as the attribute layer sees it. -/
def nla (a : InfoIpVlan) : Nla := ⟨a.valueLen, a.kind, a.emitValue⟩

def parse (buf : NlaBuffer) : Outcome InfoIpVlan := do
  let payload ← value buf
  let kind ← PacketUtils.kind buf
  select kind [
    (IFLA_IPVLAN_MODE,
      (.mode ∘ IpVlanMode.codec.ofNum) <$>
        (parseU16 payload).context "invalid IFLA_IPVLAN_MODE value"),
    (IFLA_IPVLAN_FLAGS, .flags <$> (parseU16 payload).context "invalid IFLA_IPVLAN_FLAGS value")]
    (.other <$> (defaultNla buf).context
      ("unknown NLA type " ++ toString kind ++ " for IFLA_INFO_DATA(ipvlan)"))

end InfoIpVlan

/-- `InfoIpVtap` has the same variants and the same parser, text and all. -/
abbrev InfoIpVtap := InfoIpVlan

/-! ## InfiniBand, VRFs, XFRM -/

abbrev IFLA_IPOIB_PKEY : UInt16 := 1
abbrev IFLA_IPOIB_MODE : UInt16 := 2
abbrev IFLA_IPOIB_UMCAST : UInt16 := 3

/-- `InfoIpoib`. -/
inductive InfoIpoib where
  | pkey (v : UInt16)
  | mode (v : UInt16)
  | umCast (v : UInt16)
  | other (v : DefaultNla)
deriving DecidableEq

namespace InfoIpoib

def kind : InfoIpoib → UInt16
  | .pkey _ => IFLA_IPOIB_PKEY
  | .mode _ => IFLA_IPOIB_MODE
  | .umCast _ => IFLA_IPOIB_UMCAST
  | .other nla => nla.kind

def valueLen : InfoIpoib → ℕ
  | .pkey _ | .mode _ | .umCast _ => 2
  | .other nla => nla.valueLen

def emitValue : InfoIpoib → Emitter
  | .pkey value => .put 0 (ne.u16 value)
  | .mode value => .put 0 (ne.u16 value)
  | .umCast value => .put 0 (ne.u16 value)
  | .other nla => nla.emitValue

/-- The attribute, as the attribute layer sees it. -/
def nla (a : InfoIpoib) : Nla := ⟨a.valueLen, a.kind, a.emitValue⟩

def parse (buf : NlaBuffer) : Outcome InfoIpoib := do
  let payload ← value buf
  let kind ← PacketUtils.kind buf
  select kind [
    (IFLA_IPOIB_PKEY, .pkey <$> (parseU16 payload).context "invalid IFLA_IPOIB_PKEY value"),
    (IFLA_IPOIB_MODE, .mode <$> (parseU16 payload).context "invalid IFLA_IPOIB_MODE value"),
    (IFLA_IPOIB_UMCAST, .umCast <$> (parseU16 payload).context "invalid IFLA_IPOIB_UMCAST value")]
    (.other <$> (defaultNla buf).context
      ("unknown NLA type " ++ toString kind ++ " for IFLA_INFO_DATA(ipoib)"))

end InfoIpoib

abbrev IFLA_VRF_TABLE : UInt16 := 1

/-- `InfoVrf`. -/
inductive InfoVrf where
  | tableId (v : UInt32)
  | other (v : DefaultNla)
deriving DecidableEq

namespace InfoVrf

def kind : InfoVrf → UInt16
  | .tableId _ => IFLA_VRF_TABLE
  | .other nla => nla.kind

def valueLen : InfoVrf → ℕ
  | .tableId _ => 4
  | .other nla => nla.valueLen

def emitValue : InfoVrf → Emitter
  | .tableId value => .put 0 (ne.u32 value)
  | .other nla => nla.emitValue

/-- The attribute, as the attribute layer sees it. -/
def nla (a : InfoVrf) : Nla := ⟨a.valueLen, a.kind, a.emitValue⟩

def parse (buf : NlaBuffer) : Outcome InfoVrf := do
  let payload ← value buf
  let kind ← PacketUtils.kind buf
  select kind [
    (IFLA_VRF_TABLE, .tableId <$> (parseU32 payload).context "invalid IFLA_VRF_TABLE value")]
    (.other <$> (defaultNla buf).context
      ("unknown NLA type " ++ toString kind ++ " for IFLA_INFO_DATA(vrf)"))

end InfoVrf

abbrev IFLA_XFRM_LINK : UInt16 := 1
abbrev IFLA_XFRM_IF_ID : UInt16 := 2

/-- `InfoXfrm`. -/
inductive InfoXfrm where
  | link (v : UInt32)
  | ifId (v : UInt32)
  | other (v : DefaultNla)
deriving DecidableEq

namespace InfoXfrm

def kind : InfoXfrm → UInt16
  | .link _ => IFLA_XFRM_LINK
  | .ifId _ => IFLA_XFRM_IF_ID
  | .other nla => nla.kind

def valueLen : InfoXfrm → ℕ
  | .link _ => 4
  | .ifId _ => 4
  | .other nla => nla.valueLen

def emitValue : InfoXfrm → Emitter
  | .link value => .put 0 (ne.u32 value)
  | .ifId value => .put 0 (ne.u32 value)
  | .other nla => nla.emitValue

/-- The attribute, as the attribute layer sees it. -/
def nla (a : InfoXfrm) : Nla := ⟨a.valueLen, a.kind, a.emitValue⟩

def parse (buf : NlaBuffer) : Outcome InfoXfrm := do
  let payload ← value buf
  let kind ← PacketUtils.kind buf
  select kind [
    (IFLA_XFRM_LINK, .link <$> (parseU32 payload).context "invalid IFLA_XFRM_LINK value"),
    (IFLA_XFRM_IF_ID, .ifId <$> (parseU32 payload).context "invalid IFLA_XFRM_IF_ID value")]
    (.other <$> (defaultNla buf).context
      ("unknown NLA type " ++ toString kind ++ " for IFLA_INFO_DATA(xfrm)"))

end InfoXfrm

/-! ## Kinds without names for their attributes -/

/-- `InfoGreTun`. -/
abbrev InfoGreTun := UnnamedNla

def InfoGreTun.parse (buf : NlaBuffer) : Outcome InfoGreTun :=
  UnnamedNla.parse
    (fun kind _ => "unknown NLA type " ++ toString kind ++ " for gre") buf

/-- `InfoGreTun6`. -/
abbrev InfoGreTun6 := UnnamedNla

def InfoGreTun6.parse (buf : NlaBuffer) : Outcome InfoGreTun6 :=
  UnnamedNla.parse
    (fun kind _ => "unknown NLA type " ++ toString kind ++ " for ip6gre") buf

/-- `InfoGreTap`. -/
abbrev InfoGreTap := UnnamedNla

def InfoGreTap.parse (buf : NlaBuffer) : Outcome InfoGreTap :=
  UnnamedNla.parse
    (fun kind _ => "unknown NLA type " ++ toString kind ++ " for gretap") buf

/-- `InfoGreTap6`. -/
abbrev InfoGreTap6 := UnnamedNla

def InfoGreTap6.parse (buf : NlaBuffer) : Outcome InfoGreTap6 :=
  UnnamedNla.parse
    (fun kind _ => "unknown NLA type " ++ toString kind ++ " for gretap6") buf

/-- `InfoGtp`. -/
abbrev InfoGtp := UnnamedNla

def InfoGtp.parse (buf : NlaBuffer) : Outcome InfoGtp :=
  UnnamedNla.parse
    (fun kind _ => "unknown NLA type " ++ toString kind ++ " for gtp") buf

/-- `InfoSitTun`. -/
abbrev InfoSitTun := UnnamedNla

def InfoSitTun.parse (buf : NlaBuffer) : Outcome InfoSitTun :=
  UnnamedNla.parse
    (fun kind _ => "unknown NLA type " ++ toString kind ++ " for sit") buf

/-- `InfoTun`. -/
abbrev InfoTun := UnnamedNla

def InfoTun.parse (buf : NlaBuffer) : Outcome InfoTun :=
  UnnamedNla.parse
    (fun kind _ => "unknown NLA type " ++ toString kind ++ " for IFLA_INFO_DATA(vrf)") buf

/-- `InfoVti`. -/
abbrev InfoVti := UnnamedNla

def InfoVti.parse (buf : NlaBuffer) : Outcome InfoVti :=
  UnnamedNla.parse
    (fun kind _ => "unknown NLA type " ++ toString kind ++ " for vti") buf

end

end NetlinkRoute
